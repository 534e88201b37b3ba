import Exposure.Proofs.Catalog.Acceptance
import Exposure.Proofs.Resolution.Locality

/-!
# The order of the records

The records of a dump may come in any order that puts scopes before what names them.  Another such
order gives other ids, another index and another graph; what a name stands for stays the same.  As
decisions are local it is enough that every name keeps its access level and its lineage.
-/

namespace Exposure

variable {c c' : Catalog} {i i' : EntityId} {e e' : Entity} {q t : QualifiedName}

namespace Catalog

/-! ## The same records -/

/-- An entity of a catalog has its counterpart in every catalog with the same records. -/
theorem exists_recordOf_eq_of_perm (hperm : c'.toRecords.Perm c.toRecords)
    (he : c.get? i = some e) :
    ∃ i' e', c'.get? i' = some e' ∧ c'.recordOf e' = c.recordOf e :=
  mem_toRecords.mp (hperm.mem_iff.mpr (mem_toRecords.mpr ⟨i, e, he, rfl⟩))

/-- The records of a name are the same in both catalogs. -/
theorem Sound.recordOf_eq_of_perm (hc' : c'.Sound) (hperm : c'.toRecords.Perm c.toRecords)
    (he : c.get? i = some e) (he' : c'.get? i' = some e') (hname : e.name = e'.name) :
    c'.recordOf e' = c.recordOf e := by
  obtain ⟨j, f, hf, hrecord⟩ := exists_recordOf_eq_of_perm hperm he
  have hfname : f.name = e'.name := (congrArg EntityRecord.name hrecord).trans hname
  obtain rfl := hc'.admissible.eq_of_name_eq hf he' hfname
  rwa [Option.some.inj (he'.symm.trans hf)]

theorem Sound.recordOf_scope_eq_none_iff (hc : c.Sound) (he : c.get? i = some e) :
    (c.recordOf e).scope = none ↔ e.scope = none := by
  refine ⟨fun h => ?_, fun h => by rw [recordOf, h]; rfl⟩
  cases hs : e.scope with
  | none => rfl
  | some s =>
      obtain ⟨f, hf⟩ := lt_size_iff.mp (hc.scope_lt_size (List.mem_of_getElem? he) hs)
      rw [recordOf_scope_eq_some_iff.mpr ⟨s, f, hs, hf, rfl⟩] at h
      cases h

/-- A name has the same lineage in both catalogs. -/
theorem Sound.lineage_eq_of_perm (hc : c.Sound) (hc' : c'.Sound)
    (hperm : c'.toRecords.Perm c.toRecords) (he : c.get? i = some e)
    (he' : c'.get? i' = some e') (hname : e.name = e'.name) : c.lineage i = c'.lineage i' := by
  induction i using Nat.strong_induction_on generalizing i' e e' with
  | _ i ih =>
      have hrecord := hc'.recordOf_eq_of_perm hperm he he' hname
      have hkind : e'.kind = e.kind := congrArg EntityRecord.kind hrecord
      have hscope : (c'.recordOf e').scope = (c.recordOf e).scope :=
        congrArg EntityRecord.scope hrecord
      rw [hc.lineage_eq he, hc'.lineage_eq he', hname, hkind]
      cases hq : (c.recordOf e).scope with
      | none =>
          rw [(hc.recordOf_scope_eq_none_iff he).mp hq,
            (hc'.recordOf_scope_eq_none_iff he').mp (hscope.trans hq)]
          rfl
      | some q =>
          -- both scopes have the name that the record gives
          obtain ⟨s, f, hs, hf, hfname⟩ := recordOf_scope_eq_some_iff.mp hq
          obtain ⟨s', f', hs', hf', hfname'⟩ := recordOf_scope_eq_some_iff.mp (hscope.trans hq)
          have hlt : s < i := hc.admissible.scope_lt he hs
          rw [hs, hs', Option.map_some, Option.map_some,
            ih s hlt hf hf' (hfname.trans hfname'.symm)]

/-! ## Counterparts -/

/-- Entities of the same name, access level and lineage. -/
structure Counterparts (c c' : Catalog) (q : QualifiedName) (i i' : EntityId) : Prop where
  lookup_left : c.lookup q = some i
  lookup_right : c'.lookup q = some i'
  lineage_eq : c.lineage i = c'.lineage i'
  matches_iff : ∀ r : Rule, r.Matches c i ↔ r.Matches c' i'

/-- A known name has counterparts in both catalogs. -/
theorem Sound.exists_counterparts (hc : c.Sound) (hc' : c'.Sound)
    (hperm : c'.toRecords.Perm c.toRecords) (hi : c.lookup q = some i) :
    ∃ i', Counterparts c c' q i i' := by
  obtain ⟨e, he, rfl⟩ := hc.lookup_eq_some_iff.mp hi
  obtain ⟨i', e', he', hrecord⟩ := exists_recordOf_eq_of_perm hperm he
  have hname : e'.name = e.name := congrArg EntityRecord.name hrecord
  have haccess : e'.access = e.access := congrArg EntityRecord.access hrecord
  have hlineage := hc.lineage_eq_of_perm hc' hperm he he' hname.symm
  exact ⟨i', hi, hc'.lookup_eq_some_iff.mpr ⟨e', he', hname⟩, hlineage,
    Rule.matches_congr hc hc' he he' haccess.symm hlineage⟩

theorem Sound.lookup_eq_none_of_perm (hc : c.Sound) (hc' : c'.Sound)
    (hperm : c'.toRecords.Perm c.toRecords) (hq : c.lookup q = none) : c'.lookup q = none := by
  cases hi : c'.lookup q with
  | none => rfl
  | some i' =>
      obtain ⟨i, h⟩ := hc'.exists_counterparts hc hperm.symm hi
      exact absurd (hq.symm.trans h.lookup_right) (Option.some_ne_none i).symm

/-! ## Containment by name -/

/-- The entity of the first name lies in that of the second, at any depth. -/
def LiesIn (c : Catalog) (q t : QualifiedName) : Prop :=
  ∃ i s, c.lookup q = some i ∧ c.lookup t = some s ∧ c.isMemberOf? i s = some true

/-- An entity lies in what its lineage names behind it. -/
theorem Sound.liesIn_iff (hc : c.Sound) :
    c.LiesIn q t ↔ ∃ i, c.lookup q = some i ∧ ∃ x ∈ (c.lineage i).tail, x.1 = t := by
  constructor
  · rintro ⟨i, s, hi, hs, hmember⟩
    obtain ⟨e, he, rfl⟩ := hc.lookup_eq_some_iff.mp hi
    obtain ⟨f, hf, rfl⟩ := hc.lookup_eq_some_iff.mp hs
    have hencloses := hc.isMemberOf?_eq_true_iff.mp hmember
    exact ⟨i, hi, _, (hc.mem_tail_lineage he).mpr ⟨s, f, hencloses, hf, rfl⟩, rfl⟩
  · rintro ⟨i, hi, x, hx, rfl⟩
    obtain ⟨e, he, rfl⟩ := hc.lookup_eq_some_iff.mp hi
    obtain ⟨s, f, hencloses, hf, rfl⟩ := (hc.mem_tail_lineage he).mp hx
    exact ⟨i, s, hi, hc.lookup_eq_some_iff.mpr ⟨f, hf, rfl⟩,
      hc.isMemberOf?_eq_true_iff.mpr hencloses⟩

theorem Sound.liesIn_of_perm (hc : c.Sound) (hc' : c'.Sound)
    (hperm : c'.toRecords.Perm c.toRecords) (h : c.LiesIn q t) : c'.LiesIn q t := by
  obtain ⟨i, hi, x, hx, hname⟩ := hc.liesIn_iff.mp h
  obtain ⟨i', hcounter⟩ := hc.exists_counterparts hc' hperm hi
  exact hc'.liesIn_iff.mpr ⟨i', hcounter.lookup_right, x, hcounter.lineage_eq ▸ hx, hname⟩

/-! ## Resolution -/

theorem Sound.decision?_eq_of_perm (hc : c.Sound) (hc' : c'.Sound)
    (hperm : c'.toRecords.Perm c.toRecords) (p : Policy) (q : QualifiedName) :
    (resolve c' p).decision? q = (resolve c p).decision? q := by
  rw [hc.decision?_eq_bind, hc'.decision?_eq_bind]
  cases hi : c.lookup q with
  | none => rw [hc.lookup_eq_none_of_perm hc' hperm hi, Option.bind_none, Option.bind_none]
  | some i =>
      obtain ⟨i', h⟩ := hc.exists_counterparts hc' hperm hi
      obtain ⟨e, he, -⟩ := hc.lookup_eq_some_iff.mp hi
      obtain ⟨e', he', -⟩ := hc'.lookup_eq_some_iff.mp h.lookup_right
      rw [h.lookup_right, Option.bind_some, Option.bind_some]
      exact (decisionFor?_congr hc hc' (lt_size_iff.mpr ⟨e, he⟩) (lt_size_iff.mpr ⟨e', he'⟩)
        h.matches_iff).symm

/-- A rule that matches nothing in one catalog matches nothing in the other. -/
theorem Sound.matchesNothing_of_perm (hc : c.Sound) (hc' : c'.Sound)
    (hperm : c'.toRecords.Perm c.toRecords) {rs : List Rule} {k : Nat}
    (h : Rule.MatchesNothing c rs k) : Rule.MatchesNothing c' rs k := by
  obtain ⟨r, hr, hnone⟩ := h
  refine ⟨r, hr, fun i' hi' hmatch => ?_⟩
  obtain ⟨e', he'⟩ := lt_size_iff.mp hi'
  obtain ⟨i, hcounter⟩ :=
    hc'.exists_counterparts hc hperm.symm (hc'.lookup_eq_some_iff.mpr ⟨e', he', rfl⟩)
  obtain ⟨e, he, -⟩ := hc.lookup_eq_some_iff.mp hcounter.lookup_right
  exact hnone i (lt_size_iff.mpr ⟨e, he⟩) ((hcounter.matches_iff r).mp hmatch)

theorem Sound.inert_eq_of_perm (hc : c.Sound) (hc' : c'.Sound)
    (hperm : c'.toRecords.Perm c.toRecords) (p : Policy) :
    (resolve c' p).inert = (resolve c p).inert := by
  have hlast := lastMatchWins_of_sound hc p
  have hlast' := lastMatchWins_of_sound hc' p
  apply hlast'.inert_ascending.eq_of_mem_iff hlast.inert_ascending
  intro k
  rw [hlast.mem_inert_iff, hlast'.mem_inert_iff]
  exact and_congr_right fun _ =>
    ⟨hc'.matchesNothing_of_perm hc hperm.symm, hc.matchesNothing_of_perm hc' hperm⟩

/-! ## Dumps -/

/-- Catalogs that nothing but the order of their entities tells apart. -/
structure SameDeclarations (c c' : Catalog) : Prop where
  /-- Names, kinds, access levels and the names of the scopes are the same. -/
  records_perm : c'.toRecords.Perm c.toRecords
  liesIn_iff : ∀ q t, c'.LiesIn q t ↔ c.LiesIn q t
  decision?_eq : ∀ p q, (resolve c' p).decision? q = (resolve c p).decision? q
  inert_eq : ∀ p, (resolve c' p).inert = (resolve c p).inert

theorem Sound.sameDeclarations (hc : c.Sound) (hc' : c'.Sound)
    (hperm : c'.toRecords.Perm c.toRecords) : SameDeclarations c c' where
  records_perm := hperm
  liesIn_iff _ _ := ⟨hc'.liesIn_of_perm hc hperm.symm, hc.liesIn_of_perm hc' hperm⟩
  decision?_eq := hc.decision?_eq_of_perm hc' hperm
  inert_eq := hc.inert_eq_of_perm hc' hperm

/-- The records of an accepted dump are accepted in every order in which scopes come first, and then
make a catalog with the same declarations. -/
theorem exists_ofRecords_of_perm {rs rs' : List EntityRecord} (hrs : ofRecords rs = .ok c)
    (hperm : rs'.Perm rs) (hfirst : EntityRecord.ParentsFirst rs') :
    ∃ c', ofRecords rs' = .ok c' ∧ SameDeclarations c c' := by
  obtain ⟨c', hrs'⟩ :=
    exists_ofRecords_iff.mpr ((exists_ofRecords_iff.mp ⟨c, hrs⟩).of_perm hperm hfirst)
  obtain ⟨hc, rfl⟩ := ofRecords_eq_ok_iff.mp hrs
  obtain ⟨hc', rfl⟩ := ofRecords_eq_ok_iff.mp hrs'
  exact ⟨c', hrs', hc.sameDeclarations hc' hperm⟩

/-- A function is moved in front of a class and its method. -/
theorem exists_ofRecords_of_function_first :
    ∃ c c', ofRecords
        [⟨.top "A", .classType, .notApplicable, none⟩,
          ⟨⟨["A"], "run"⟩, .method, .pub, some (.top "A")⟩,
          ⟨.top "main", .function, .notApplicable, none⟩] = .ok c ∧
      ofRecords
        [⟨.top "main", .function, .notApplicable, none⟩,
          ⟨.top "A", .classType, .notApplicable, none⟩,
          ⟨⟨["A"], "run"⟩, .method, .pub, some (.top "A")⟩] = .ok c' ∧
        SameDeclarations c c' := by
  let a : EntityRecord := ⟨.top "A", .classType, .notApplicable, none⟩
  let run : EntityRecord := ⟨⟨["A"], "run"⟩, .method, .pub, some (.top "A")⟩
  let main : EntityRecord := ⟨.top "main", .function, .notApplicable, none⟩
  let c := build
    [.add ⟨.top "A", .classType, .notApplicable, none⟩, .addMember 0 "run" .method .pub,
      .add ⟨.top "main", .function, .notApplicable, none⟩]
  have hc : ofRecords [a, run, main] = .ok c :=
    ofRecords_eq_ok_iff.mpr ⟨sound_build _, by decide +kernel⟩
  have hperm : [main, a, run].Perm [a, run, main] := by decide +kernel
  have hfirst : EntityRecord.ParentsFirst ([] ++ [main] ++ [a] ++ [run]) := by
    simp only [EntityRecord.parentsFirst_concat_iff, EntityRecord.parentsFirst_nil]
    simp [EntityRecord.ScopeKnown, a, run, main]
  obtain ⟨c', hc', hsame⟩ := exists_ofRecords_of_perm hc hperm hfirst
  exact ⟨c, c', hc, hc', hsame⟩

end Catalog

end Exposure
