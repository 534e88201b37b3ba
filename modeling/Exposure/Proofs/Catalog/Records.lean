import Exposure.Catalog.Record
import Exposure.Proofs.Catalog.Sound

/-!
# Records and catalogs

The records of a catalog name scopes where the catalog has ids.  For sound catalogs nothing is lost:
adding records one after the other gives a catalog exactly when they are the records of a sound one,
and then it gives this catalog.
-/

namespace Exposure.Catalog

variable {c c' : Catalog} {es : List Entity} {e : Entity} {r : EntityRecord}
  {rs : List EntityRecord} {s : EntityId}

theorem admissible_concat_iff : Admissible (es ++ [e]) ↔ Admissible es ∧ e.Fits es := by
  refine ⟨fun h => ⟨?_, ?_⟩, fun h => h.1.concat h.2⟩
  · intro i x hx
    have hi : i < es.length := (List.getElem?_eq_some_iff.mp hx).1
    have hfits := h i x (by rw [List.getElem?_append_left hi, hx])
    rwa [List.take_append_of_le_length (le_of_lt hi)] at hfits
  · simpa using h es.length e (by simp)

/-- A sound catalog is empty or has its last entity put behind a sound catalog. -/
theorem Sound.eq_empty_or_insert (hc : c.Sound) :
    c = empty ∨ ∃ (c₀ : Catalog) (e : Entity),
      c₀.Sound ∧ e.Fits c₀.entities ∧ c = c₀.insert e := by
  obtain hnil | ⟨es, e, hconcat⟩ := c.entities.eq_nil_or_concat'
  · left
    rw [← hc.canonical, hnil]
    rfl
  · right
    have hadmissible := hc.admissible
    rw [hconcat, admissible_concat_iff] at hadmissible
    refine ⟨ofEntities es, e, ⟨?_, ?_⟩, ?_, ?_⟩
    · rw [entities_ofEntities]
    · rw [entities_ofEntities]
      exact hadmissible.1
    · rw [entities_ofEntities]
      exact hadmissible.2
    · rw [← hc.canonical, hconcat, ofEntities_concat]

/-! ## What a record says -/

/-- A sound catalog knows the scopes of its entities. -/
theorem Sound.scope_lt_size (hc : c.Sound) (he : e ∈ c.entities) (hs : e.scope = some s) :
    s < c.size := by
  obtain ⟨i, hi⟩ := List.mem_iff_getElem?.mp he
  exact (hc.admissible.scope_lt hi hs).trans (lt_size_iff.mpr ⟨e, hi⟩)

/-- The record of an entity does not change when another entity is put behind it. -/
theorem recordOf_insert (hs : ∀ s, e.scope = some s → s < c.size) (x : Entity) :
    (c.insert x).recordOf e = c.recordOf e := by
  rw [recordOf, recordOf]
  cases h : e.scope with
  | none => rfl
  | some s =>
      have hget : (c.insert x).get? s = c.get? s := by
        rw [get?, entities_insert, List.getElem?_append_left (hs s h), get?]
      rw [Option.bind_some, Option.bind_some, hget]

theorem Sound.toRecords_insert (hc : c.Sound) (he : e.Fits c.entities) :
    (c.insert e).toRecords = c.toRecords ++ [c.recordOf e] := by
  rw [toRecords, entities_insert, List.map_append, List.map_singleton,
    recordOf_insert he.scope_lt, toRecords]
  congr 1
  apply List.map_congr_left
  intro x hx
  exact recordOf_insert (fun s hs => hc.scope_lt_size hx hs) e

/-! ## Adding records -/

/-- An accepted entity is put behind the others. -/
theorem Sound.map_add_eq_ok_iff (hc : c.Sound) :
    (c.add e).map Prod.snd = .ok c' ↔ e.Fits c.entities ∧ c' = c.insert e := by
  rw [← hc.refusal?_eq_none_iff, add]
  cases c.refusal? e <;> simp [Except.map, eq_comm]

/-- The record of an entity is added as the entity is. -/
theorem Sound.addRecord_recordOf (hc : c.Sound) (hscope : ∀ s, e.scope = some s → s < c.size) :
    c.addRecord (c.recordOf e) = (c.add e).map Prod.snd := by
  obtain ⟨name, kind, access, scope⟩ := e
  cases scope with
  | none => rfl
  | some s =>
      obtain ⟨x, hx⟩ := lt_size_iff.mp (hscope s rfl)
      have hlookup : c.lookup x.name = some s := hc.lookup_eq_some_iff.mpr ⟨x, hx, rfl⟩
      simp only [addRecord, recordOf, Option.bind_some, hx, Option.map_some, hlookup]

/-- A record is accepted when it is the record of an entity that fits. -/
theorem Sound.addRecord_eq_ok_iff (hc : c.Sound) :
    c.addRecord r = .ok c' ↔ ∃ e, e.Fits c.entities ∧ c.recordOf e = r ∧ c' = c.insert e := by
  constructor
  · obtain ⟨name, kind, access, scope⟩ := r
    cases scope with
    | none =>
        intro h
        obtain ⟨hfits, rfl⟩ := hc.map_add_eq_ok_iff.mp h
        exact ⟨_, hfits, rfl, rfl⟩
    | some q =>
        intro h
        simp only [addRecord] at h
        split at h
        · next s hs =>
          obtain ⟨hfits, rfl⟩ := hc.map_add_eq_ok_iff.mp h
          obtain ⟨x, hx, rfl⟩ := hc.lookup_eq_some_iff.mp hs
          refine ⟨_, hfits, ?_, rfl⟩
          rw [recordOf, Option.bind_some, hx, Option.map_some]
        · cases h
  · rintro ⟨e, hfits, rfl, rfl⟩
    rw [hc.addRecord_recordOf hfits.scope_lt]
    exact hc.map_add_eq_ok_iff.mpr ⟨hfits, rfl⟩

theorem ofRecords_concat_eq_ok_iff :
    ofRecords (rs ++ [r]) = .ok c' ↔ ∃ c, ofRecords rs = .ok c ∧ c.addRecord r = .ok c' := by
  have hconcat : ofRecords (rs ++ [r]) = ofRecords rs >>= fun c => c.addRecord r := by
    simp [ofRecords, List.foldlM_append]
  rw [hconcat]
  cases ofRecords rs <;> simp [bind, Except.bind]

/-- The records that make a catalog are the records of this catalog, which is sound. -/
theorem ofRecords_eq_ok_iff : ofRecords rs = .ok c ↔ c.Sound ∧ c.toRecords = rs := by
  -- from the end, since a record may name any entity in front of it
  induction rs using List.reverseRecOn generalizing c with
  | nil =>
      rw [ofRecords_nil, Except.ok.injEq]
      constructor
      · rintro rfl
        exact ⟨sound_empty, rfl⟩
      · rintro ⟨hc, hrs⟩
        obtain rfl | ⟨c₀, e, hc₀, he, rfl⟩ := hc.eq_empty_or_insert
        · rfl
        · simp [hc₀.toRecords_insert he] at hrs
  | append_singleton rs r ih =>
      simp only [ofRecords_concat_eq_ok_iff, ih]
      constructor
      · rintro ⟨c₀, ⟨hc₀, rfl⟩, hr⟩
        obtain ⟨e, he, rfl, rfl⟩ := hc₀.addRecord_eq_ok_iff.mp hr
        exact ⟨hc₀.insert he, hc₀.toRecords_insert he⟩
      · rintro ⟨hc, hrs⟩
        obtain rfl | ⟨c₀, e, hc₀, he, rfl⟩ := hc.eq_empty_or_insert
        · simp [toRecords, empty] at hrs
        · rw [hc₀.toRecords_insert he] at hrs
          obtain ⟨rfl, hr⟩ := List.append_inj' hrs rfl
          obtain rfl := List.singleton_inj.mp hr
          exact ⟨c₀, ⟨hc₀, rfl⟩, hc₀.addRecord_eq_ok_iff.mpr ⟨e, he, rfl, rfl⟩⟩

end Exposure.Catalog
