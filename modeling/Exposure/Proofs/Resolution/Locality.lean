import Exposure.Proofs.Catalog.Representation
import Exposure.Proofs.Resolution.Decided

/-!
# Decisions are local

The matcher works on whole catalogs: on indices, on lists of written names and on a graph.  Still a
decision depends on no more of a catalog than the access level of the entity and the names and kinds
of the entity and of the scopes around it, its lineage.  In particular entities that are added later
change no decision.
-/

namespace Exposure

variable {c c' : Catalog} {e e' : Entity} {i i' : EntityId} {p : Policy}

namespace Catalog

/-- The names and kinds of an entity and of the scopes around it, the innermost first.  The list
ends at a scope that does not stand in front of its member. -/
def lineage (c : Catalog) (i : EntityId) : List (QualifiedName × EntityKind) :=
  match c.get? i with
  | none => []
  | some e =>
      (e.name, e.kind) ::
        match e.scope with
        | some s => if s < i then c.lineage s else []
        | none => []

/-- Behind an entity its lineage is that of its scope. -/
theorem Sound.lineage_eq (hc : c.Sound) (he : c.get? i = some e) :
    c.lineage i = (e.name, e.kind) :: (e.scope.map c.lineage).getD [] := by
  rw [lineage, he]
  cases hs : e.scope with
  | none => simp [hs]
  | some s => simp [hs, hc.admissible.scope_lt he hs]

/-- A member comes before the class that it is in. -/
example :
    (build [.add ⟨.top "A", .classType, .notApplicable, none⟩,
      .addMember 0 "run" .method .pub]).lineage 1 =
        [((QualifiedName.top "A").child "run", .method), (.top "A", .classType)] := by
  decide +kernel

/-- Behind an entity its lineage lists what encloses it. -/
theorem Sound.mem_tail_lineage (hc : c.Sound) {x : QualifiedName × EntityKind}
    (he : c.get? i = some e) :
    x ∈ (c.lineage i).tail ↔
      ∃ s f, c.Encloses s i ∧ c.get? s = some f ∧ x = (f.name, f.kind) := by
  induction i using Nat.strong_induction_on generalizing e with
  | _ i ih =>
      have hscope : c.scope? i = e.scope := by rw [scope?, he, Option.bind_some]
      simp only [@encloses_iff c i _, hscope, hc.lineage_eq he, List.tail_cons]
      cases hs : e.scope with
      | none => simp
      | some p =>
          have hp : p < i := hc.admissible.scope_lt he hs
          obtain ⟨f, hf⟩ := lt_size_iff.mp (hp.trans (lt_size_iff.mpr ⟨e, he⟩))
          have htail := ih p hp hf
          rw [hc.lineage_eq hf, List.tail_cons] at htail
          rw [Option.map_some, Option.getD_some, hc.lineage_eq hf, List.mem_cons, htail]
          constructor
          · rintro (rfl | ⟨s, g, hsp, hg, rfl⟩)
            · exact ⟨p, f, ⟨p, rfl, .inl rfl⟩, hf, rfl⟩
            · exact ⟨s, g, ⟨p, rfl, .inr hsp⟩, hg, rfl⟩
          · rintro ⟨s, g, ⟨q, hq, hsq⟩, hg, rfl⟩
            obtain rfl := Option.some.inj hq
            rcases hsq with rfl | hsp
            · exact .inl (by rw [Option.some.inj (hg.symm.trans hf)])
            · exact .inr ⟨s, g, hsp, hg, rfl⟩

end Catalog

/-! ## What rules see -/

/-- A target reaches an entity by its name or by the name of a class in its lineage. -/
theorem Target.reaches_iff_lineage (t : Target) (hc : c.Sound) (he : c.get? i = some e) :
    t.Reaches c i ↔
      t.Names e.name ∨ ∃ x ∈ (c.lineage i).tail, x.2 = .classType ∧ t.Names x.1 := by
  simp only [hc.mem_tail_lineage he]
  constructor
  · rintro ⟨r, f, hf, hname, rfl | ⟨hk, hr⟩⟩
    · exact .inl (Option.some.inj (hf.symm.trans he) ▸ hname)
    · exact .inr ⟨_, ⟨r, f, hr, hf, rfl⟩, hk, hname⟩
  · rintro (hname | ⟨_, ⟨r, f, hr, hf, rfl⟩, hk, hname⟩)
    · exact ⟨i, e, he, hname, .inl rfl⟩
    · exact ⟨r, f, hf, hname, .inr ⟨hk, hr⟩⟩

/-- Rules do not tell entities of the same access level and lineage apart. -/
theorem Rule.matches_congr (hc : c.Sound) (hc' : c'.Sound) (he : c.get? i = some e)
    (he' : c'.get? i' = some e') (ha : e.access = e'.access)
    (hl : c.lineage i = c'.lineage i') (r : Rule) : r.Matches c i ↔ r.Matches c' i' := by
  have hhead : e.name = e'.name ∧ e.kind = e'.kind := by
    rw [hc.lineage_eq he, hc'.lineage_eq he', List.cons.injEq, Prod.mk.injEq] at hl
    exact hl.1
  have htarget (t : Target) : t.Reaches c i ↔ t.Reaches c' i' := by
    rw [t.reaches_iff_lineage hc he, t.reaches_iff_lineage hc' he', hl, hhead.1]
  cases r with
  | defaultDeny => exact Iff.rfl
  | expose t => exact htarget t
  | hide t => exact htarget t
  | hideAccess a => simp [Rule.Matches, he, he', ha, hhead.2]

/-! ## Later entities -/

namespace Catalog

/-- Calls leave the entities that were there. -/
theorem get?_foldl_after (c : Catalog) (calls : List Call) (hi : i < c.size) :
    (calls.foldl after c).get? i = c.get? i := by
  have hentities := congrArg (List.map Prod.snd) (c.iter_foldl_after calls)
  rw [List.map_append, map_snd_iter, map_snd_iter] at hentities
  rw [get?, hentities, List.getElem?_append_left hi, get?]

/-- The lineage of an entity reads no entity behind it. -/
theorem Sound.lineage_congr (hc : c.Sound) (hc' : c'.Sound)
    (h : ∀ j ≤ i, c'.get? j = c.get? j) : c'.lineage i = c.lineage i := by
  induction i using Nat.strong_induction_on with
  | _ i ih =>
      cases he : c.get? i with
      | none => rw [lineage, lineage, h i le_rfl, he]
      | some e =>
          rw [hc.lineage_eq he, hc'.lineage_eq ((h i le_rfl).trans he)]
          cases hs : e.scope with
          | none => rfl
          | some s =>
              have hlt : s < i := hc.admissible.scope_lt he hs
              simp [ih s hlt fun j hj => h j (hj.trans hlt.le)]

end Catalog

/-- Decisions do not depend on what lies outside the lineage of an entity. -/
structure DecisionsAreLocal (p : Policy) : Prop where
  decisionFor?_eq : ∀ (calls calls' : List Catalog.Call) (i i' : EntityId) (e e' : Entity),
    (Catalog.build calls).get? i = some e → (Catalog.build calls').get? i' = some e' →
      e.access = e'.access →
        (Catalog.build calls).lineage i = (Catalog.build calls').lineage i' →
          ∃ d, (resolve (Catalog.build calls) p).decisionFor? i = some d ∧
            (resolve (Catalog.build calls') p).decisionFor? i' = some d
  /-- Further calls change no decision. -/
  decisionFor?_build_append : ∀ (calls more : List Catalog.Call) (i : EntityId),
    i < (Catalog.build calls).size →
      (resolve (Catalog.build (calls ++ more)) p).decisionFor? i =
        (resolve (Catalog.build calls) p).decisionFor? i

/-- Under every policy decisions are local. -/
theorem decisionsAreLocal (p : Policy) : DecisionsAreLocal p where
  decisionFor?_eq calls calls' i i' e e' he he' ha hl := by
    have hc := Catalog.sound_build calls
    have hc' := Catalog.sound_build calls'
    have hi := Catalog.lt_size_iff.mpr ⟨e, he⟩
    have hi' := Catalog.lt_size_iff.mpr ⟨e', he'⟩
    obtain ⟨d, hd, -⟩ := hc.exists_decision p hi
    refine ⟨d, hd, ?_⟩
    rw [← hd]
    exact (decisionFor?_congr hc hc' hi hi' (Rule.matches_congr hc hc' he he' ha hl)).symm
  decisionFor?_build_append calls more i hi := by
    have hc := Catalog.sound_build calls
    have hc' := Catalog.sound_build (calls ++ more)
    have hget : ∀ j ≤ i, (Catalog.build (calls ++ more)).get? j = (Catalog.build calls).get? j := by
      intro j hj
      rw [Catalog.build, List.foldl_append]
      exact Catalog.get?_foldl_after _ more (lt_of_le_of_lt hj hi)
    obtain ⟨e, he⟩ := Catalog.lt_size_iff.mp hi
    have he' := (hget i le_rfl).trans he
    exact decisionFor?_congr hc' hc (Catalog.lt_size_iff.mpr ⟨e, he'⟩) hi
      (Rule.matches_congr hc' hc he' he rfl (hc.lineage_congr hc' hget))

end Exposure
