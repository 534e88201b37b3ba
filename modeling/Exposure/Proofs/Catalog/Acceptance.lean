import Exposure.Proofs.Catalog.Records

/-!
# Which records make a catalog

A record is added when its name is new, its scope is known and its access level fits, and all three
are asked of the records in front of it.  For a whole list only one condition has to do with the
order: every scope comes before what names it.  The others can be told from the list as a set, since
no two accepted records have the same name.
-/

namespace Exposure

variable {rs rs' : List EntityRecord} {r x : EntityRecord}

namespace EntityRecord

/-- The scope of a record is a class among the listed ones. -/
def InClass (rs : List EntityRecord) (r : EntityRecord) : Prop :=
  ∃ x ∈ rs, r.scope = some x.name ∧ x.kind = .classType

/-- The scope of a record, if it has one, is the name of a listed one. -/
def ScopeKnown (rs : List EntityRecord) (r : EntityRecord) : Prop :=
  ∀ q, r.scope = some q → ∃ x ∈ rs, x.name = q

/-- Methods and fields are in a class, and so is exactly what has an access level. -/
def AccessFits (rs : List EntityRecord) (r : EntityRecord) : Prop :=
  (r.kind.isMember = true → r.InClass rs) ∧ (r.access.isSpecifier = true ↔ r.InClass rs)

/-- A record fits after the listed ones. -/
structure Fits (rs : List EntityRecord) (r : EntityRecord) : Prop where
  fresh : ∀ x ∈ rs, x.name ≠ r.name
  scope_known : r.ScopeKnown rs
  access : r.AccessFits rs

/-- Whatever a record names as its scope comes before it. -/
def ParentsFirst (rs : List EntityRecord) : Prop :=
  ∀ before r after, rs = before ++ r :: after → r.ScopeKnown before

/-- Records that make a catalog. -/
structure Acceptable (rs : List EntityRecord) : Prop where
  nodup_names : (rs.map name).Nodup
  parents_first : ParentsFirst rs
  access : ∀ r ∈ rs, r.AccessFits rs

theorem InClass.mono (hsub : rs ⊆ rs') (h : r.InClass rs) : r.InClass rs' := by
  obtain ⟨x, hx, hscope⟩ := h
  exact ⟨x, hsub hx, hscope⟩

theorem ScopeKnown.mono (hsub : rs ⊆ rs') (h : r.ScopeKnown rs) : r.ScopeKnown rs' := by
  intro q hq
  obtain ⟨x, hx, hname⟩ := h q hq
  exact ⟨x, hsub hx, hname⟩

theorem accessFits_congr (h : r.InClass rs ↔ r.InClass rs') :
    r.AccessFits rs ↔ r.AccessFits rs' := by
  rw [AccessFits, AccessFits, h]

/-! ## One more record -/

theorem parentsFirst_nil : ParentsFirst [] := by
  intro before r after h
  simp at h

theorem parentsFirst_concat_iff :
    ParentsFirst (rs ++ [r]) ↔ ParentsFirst rs ∧ r.ScopeKnown rs := by
  constructor
  · intro h
    refine ⟨fun before x after hrs => ?_, h rs r [] rfl⟩
    exact h before x (after ++ [r]) (by rw [hrs, List.append_assoc, List.cons_append])
  · rintro ⟨hrs, hr⟩ before x after h
    obtain rfl | ⟨after, y, rfl⟩ := after.eq_nil_or_concat'
    · obtain ⟨rfl, hlast⟩ := List.append_inj' h rfl
      exact List.singleton_inj.mp hlast ▸ hr
    · rw [← List.cons_append, ← List.append_assoc] at h
      exact hrs before x after (List.append_inj' h rfl).1

theorem ParentsFirst.scopeKnown (h : ParentsFirst rs) (hr : r ∈ rs) : r.ScopeKnown rs := by
  obtain ⟨before, after, rfl⟩ := List.append_of_mem hr
  exact (h before r after rfl).mono (List.subset_append_left _ _)

/-- A record with a new name is the scope of none whose scope was known without it. -/
theorem inClass_concat_iff (hfresh : ∀ y ∈ rs, y.name ≠ r.name) (hx : x.ScopeKnown rs) :
    x.InClass (rs ++ [r]) ↔ x.InClass rs := by
  refine ⟨?_, InClass.mono (List.subset_append_left _ _)⟩
  rintro ⟨y, hy, hscope, hk⟩
  rcases List.mem_append.mp hy with hy | hy
  · exact ⟨y, hy, hscope, hk⟩
  · obtain rfl := List.mem_singleton.mp hy
    obtain ⟨z, hz, hname⟩ := hx _ hscope
    exact absurd hname (hfresh z hz)

theorem nodup_names_concat_iff :
    ((rs ++ [r]).map name).Nodup ↔ (rs.map name).Nodup ∧ ∀ x ∈ rs, x.name ≠ r.name := by
  rw [List.map_append, List.map_singleton, ← List.concat_eq_append, List.nodup_concat, and_comm]
  simp

theorem acceptable_concat_iff : Acceptable (rs ++ [r]) ↔ Acceptable rs ∧ r.Fits rs := by
  constructor
  · rintro ⟨hnames, hfirst, haccess⟩
    obtain ⟨hnodup, hfresh⟩ := nodup_names_concat_iff.mp hnames
    obtain ⟨hparents, hknown⟩ := parentsFirst_concat_iff.mp hfirst
    rw [List.forall_mem_append, List.forall_mem_singleton] at haccess
    refine ⟨⟨hnodup, hparents, fun x hx => ?_⟩, hfresh, hknown, ?_⟩
    · exact (accessFits_congr (inClass_concat_iff hfresh (hparents.scopeKnown hx))).mp
        (haccess.1 x hx)
    · exact (accessFits_congr (inClass_concat_iff hfresh hknown)).mp haccess.2
  · rintro ⟨⟨hnodup, hparents, haccess⟩, hfits⟩
    refine ⟨nodup_names_concat_iff.mpr ⟨hnodup, hfits.fresh⟩,
      parentsFirst_concat_iff.mpr ⟨hparents, hfits.scope_known⟩, ?_⟩
    rw [List.forall_mem_append, List.forall_mem_singleton]
    refine ⟨fun x hx => ?_, ?_⟩
    · exact (accessFits_congr (inClass_concat_iff hfits.fresh (hparents.scopeKnown hx))).mpr
        (haccess x hx)
    · exact (accessFits_congr (inClass_concat_iff hfits.fresh hfits.scope_known)).mpr hfits.access

/-- Only the place of the scopes depends on the order. -/
theorem Acceptable.of_perm (h : Acceptable rs) (hperm : rs'.Perm rs) (hfirst : ParentsFirst rs') :
    Acceptable rs' where
  nodup_names := (hperm.map name).nodup_iff.mpr h.nodup_names
  parents_first := hfirst
  access r hr := by
    refine (accessFits_congr ?_).mp (h.access r (hperm.mem_iff.mp hr))
    exact ⟨InClass.mono hperm.symm.subset, InClass.mono hperm.subset⟩

end EntityRecord

/-! ## Records of a catalog -/

namespace Catalog

variable {c : Catalog} {e : Entity}

theorem mem_toRecords : x ∈ c.toRecords ↔ ∃ s f, c.get? s = some f ∧ c.recordOf f = x := by
  rw [toRecords, List.mem_map]
  constructor
  · rintro ⟨f, hf, hx⟩
    obtain ⟨s, hs⟩ := List.mem_iff_getElem?.mp hf
    exact ⟨s, f, hs, hx⟩
  · rintro ⟨s, f, hs, hx⟩
    exact ⟨f, List.mem_of_getElem? hs, hx⟩

/-- The scope of a record is the name of the entity that the id stands for. -/
theorem recordOf_scope_eq_some_iff {q : QualifiedName} :
    (c.recordOf e).scope = some q ↔
      ∃ s f, e.scope = some s ∧ c.get? s = some f ∧ f.name = q := by
  simp only [recordOf, Option.map_eq_some_iff, Option.bind_eq_some_iff]
  constructor
  · rintro ⟨f, ⟨s, hs, hf⟩, hname⟩
    exact ⟨s, f, hs, hf, hname⟩
  · rintro ⟨s, f, hs, hf, hname⟩
    exact ⟨f, ⟨s, hs, hf⟩, hname⟩

/-- The scope of an entity's record is known. -/
theorem scopeKnown_recordOf (c : Catalog) (e : Entity) :
    (c.recordOf e).ScopeKnown c.toRecords := by
  intro q hq
  obtain ⟨s, f, -, hf, hname⟩ := recordOf_scope_eq_some_iff.mp hq
  exact ⟨c.recordOf f, mem_toRecords.mpr ⟨s, f, hf, rfl⟩, hname⟩

/-- A record whose scope is known is that of an entity. -/
theorem exists_recordOf_eq (hr : r.ScopeKnown c.toRecords) :
    ∃ e, (∀ s, e.scope = some s → s < c.size) ∧ c.recordOf e = r := by
  obtain ⟨name, kind, access, scope⟩ := r
  cases scope with
  | none => exact ⟨⟨name, kind, access, none⟩, by simp, rfl⟩
  | some q =>
      obtain ⟨x, hx, rfl⟩ := hr q rfl
      obtain ⟨s, f, hs, rfl⟩ := mem_toRecords.mp hx
      refine ⟨⟨name, kind, access, some s⟩, ?_, ?_⟩
      · intro s' hs'
        obtain rfl := Option.some.inj hs'
        exact lt_size_iff.mpr ⟨f, hs⟩
      · rw [EntityRecord.mk.injEq]
        exact ⟨rfl, rfl, rfl, recordOf_scope_eq_some_iff.mpr ⟨s, f, rfl, hs, rfl⟩⟩

namespace Sound

/-- An entity is in a class when its record is; a name belongs to one entity only. -/
theorem inClass_recordOf_iff (hc : c.Sound) :
    (c.recordOf e).InClass c.toRecords ↔ e.InClass c.entities := by
  constructor
  · rintro ⟨x, hx, hscope, hk⟩
    obtain ⟨j, f, hf, rfl⟩ := mem_toRecords.mp hx
    obtain ⟨s, g, hs, hg, hname⟩ := recordOf_scope_eq_some_iff.mp hscope
    obtain rfl := hc.admissible.eq_of_name_eq hg hf hname
    exact ⟨s, f, hs, hf, hk⟩
  · rintro ⟨s, f, hs, hf, hk⟩
    refine ⟨c.recordOf f, mem_toRecords.mpr ⟨s, f, hf, rfl⟩, ?_, hk⟩
    exact recordOf_scope_eq_some_iff.mpr ⟨s, f, hs, hf, rfl⟩

/-- An entity fits when its scope is known and its record fits. -/
theorem fits_iff (hc : c.Sound) :
    e.Fits c.entities ↔
      (∀ s, e.scope = some s → s < c.size) ∧ (c.recordOf e).Fits c.toRecords := by
  have hfresh : (∀ x ∈ c.toRecords, x.name ≠ e.name) ↔ ∀ f ∈ c.entities, f.name ≠ e.name := by
    rw [toRecords, List.forall_mem_map]
    rfl
  constructor
  · intro h
    refine ⟨h.scope_lt, hfresh.mpr h.fresh, scopeKnown_recordOf c e, ?_⟩
    rw [EntityRecord.AccessFits, hc.inClass_recordOf_iff]
    exact ⟨h.member, h.access⟩
  · rintro ⟨hscope, h⟩
    have haccess := h.access
    rw [EntityRecord.AccessFits, hc.inClass_recordOf_iff] at haccess
    exact ⟨hfresh.mp h.fresh, hscope, haccess.1, haccess.2⟩

/-- A record is added when it fits after those of the catalog. -/
theorem exists_addRecord_iff (hc : c.Sound) :
    (∃ c', c.addRecord r = .ok c') ↔ r.Fits c.toRecords := by
  simp only [hc.addRecord_eq_ok_iff]
  constructor
  · rintro ⟨-, e, he, rfl, -⟩
    exact (hc.fits_iff.mp he).2
  · intro h
    obtain ⟨e, hscope, rfl⟩ := exists_recordOf_eq h.scope_known
    exact ⟨_, e, hc.fits_iff.mpr ⟨hscope, h⟩, rfl, rfl⟩

end Sound

/-- Records make a catalog exactly when they are acceptable. -/
theorem exists_ofRecords_iff :
    (∃ c, ofRecords rs = .ok c) ↔ EntityRecord.Acceptable rs := by
  induction rs using List.reverseRecOn with
  | nil =>
      refine iff_of_true ⟨empty, ofRecords_nil⟩ ⟨List.nodup_nil, ?_, by simp⟩
      exact EntityRecord.parentsFirst_nil
  | append_singleton rs r ih =>
      rw [EntityRecord.acceptable_concat_iff, ← ih]
      simp only [ofRecords_concat_eq_ok_iff]
      constructor
      · rintro ⟨c', c, hrs, hr⟩
        obtain ⟨hc, rfl⟩ := ofRecords_eq_ok_iff.mp hrs
        exact ⟨⟨c, hrs⟩, hc.exists_addRecord_iff.mp ⟨c', hr⟩⟩
      · rintro ⟨⟨c, hrs⟩, hr⟩
        obtain ⟨hc, rfl⟩ := ofRecords_eq_ok_iff.mp hrs
        obtain ⟨c', hc'⟩ := hc.exists_addRecord_iff.mpr hr
        exact ⟨c', c, hrs, hc'⟩

/-- A method in front of its class is refused, as its scope is not known yet. -/
example :
    ofRecords
        [⟨⟨["A"], "run"⟩, .method, .pub, some (.top "A")⟩,
          ⟨.top "A", .classType, .notApplicable, none⟩] =
      .error (.unknownScope ⟨["A"], "run"⟩ (.name (.top "A"))) := by
  decide +kernel

end Catalog

end Exposure
