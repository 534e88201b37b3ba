import Mathlib.Tactic.TFAE
import Exposure.Catalog.Dump
import Exposure.Proofs.Catalog.Records
import Exposure.Proofs.Json.Reading

/-!
# Dumps read back

Reading the dump of a catalog adds the records of the catalog once more, but with names that come
from their written forms.  So the catalog comes back exactly when every name in it does; kinds,
access levels and scopes are never the reason that it does not.
-/

namespace Exposure

variable {c c' : Catalog}

/-- What a record is read back as: its names are those of their written forms. -/
def EntityRecord.reread (r : EntityRecord) : EntityRecord :=
  ⟨.parse r.name.display, r.kind, r.access, r.scope.map fun q => .parse q.display⟩

/-! ## Reading what was written -/

namespace Dump

open Json (Reads Takes Gathers)

theorem reads_name (q : QualifiedName) : Reads name (.text q.display) (.parse q.display) := by
  intro rest
  rw [name, Json.reads_text]
  rfl

theorem reads_kind (k : EntityKind) : Reads kind (.text k.keyword) k :=
  Json.reads_choice (EntityKind.ofKeyword?_keyword k) _

theorem reads_access (a : Access) : Reads access (.text a.keyword) a :=
  Json.reads_choice (Access.ofKeyword?_keyword a) _

theorem takes_name (q : QualifiedName) {f : Fields} (hf : f.name = none) :
    Takes recordEntry "name" (.text q.display) f { f with name := some (.parse q.display) } := by
  intro rest
  rw [recordEntry, if_pos rfl, hf, (reads_name q).once]
  rfl

theorem takes_kind (k : EntityKind) {f : Fields} (hf : f.kind = none) :
    Takes recordEntry "kind" (.text k.keyword) f { f with kind := some k } := by
  intro rest
  rw [recordEntry, if_neg (by decide), if_pos rfl, hf, (reads_kind k).once]
  rfl

theorem takes_access (a : Access) {f : Fields} (hf : f.access = none) :
    Takes recordEntry "access" (.text a.keyword) f { f with access := some a } := by
  intro rest
  rw [recordEntry, if_neg (by decide), if_neg (by decide), if_pos rfl, hf,
    (reads_access a).once]
  rfl

theorem takes_scope (q : QualifiedName) {f : Fields} (hf : f.scope = none) :
    Takes recordEntry "scope" (.text q.display) f
      { f with scope := some (some (.parse q.display)) } := by
  intro rest
  rw [recordEntry, if_neg (by decide), if_neg (by decide), if_neg (by decide), if_pos rfl, hf,
    (reads_name q).optional.once]
  rfl

/-- The entries of a written record fill the fields, the scope only if there is one. -/
theorem gathers_record (r : EntityRecord) :
    Gathers recordEntry
      ([("name", .text r.name.display), ("kind", .text r.kind.keyword),
        ("access", .text r.access.keyword)] ++
        (r.scope.map fun q => ("scope", Json.Tree.text q.display)).toList)
      {} ⟨some (.parse r.name.display), some r.kind, some r.access,
        r.scope.map fun q => some (.parse q.display)⟩ := by
  refine .cons (takes_name r.name rfl)
    (.cons (takes_kind r.kind rfl) (.cons (takes_access r.access rfl) ?_))
  cases r.scope with
  | none => exact .nil _
  | some q => exact .cons (takes_scope q rfl) (.nil _)

theorem reads_record (r : EntityRecord) : Reads record r.toTree r.reread := by
  apply Reads.structure?
  intro rest
  rw [recordObject, (gathers_record r).entries_intercalate]
  cases hs : r.scope <;> simp [Json.required, bind, Except.bind, EntityRecord.reread, hs] <;> rfl

theorem reads_records (c : Catalog) :
    Reads records c.toTree (c.toRecords.map EntityRecord.reread) := by
  have hlist : Reads (Json.list record) (.list (c.toRecords.map EntityRecord.toTree))
      (c.toRecords.map EntityRecord.reread) := by
    apply Reads.list
    simp [List.forall₂_map_left_iff, List.forall₂_map_right_iff, List.forall₂_same, reads_record]
  have hentries : Gathers dumpEntry [("entities", .list (c.toRecords.map EntityRecord.toTree))]
      none (some (c.toRecords.map EntityRecord.reread)) := by
    refine .cons (fun rest => ?_) (.nil _)
    rw [dumpEntry, if_pos rfl, hlist.once]
  apply Reads.structure?
  intro rest
  rw [dumpObject, hentries.entries_intercalate]
  rfl

/-- Reading a dump adds the records with their names read from their written forms. -/
theorem read_dump (c : Catalog) :
    read c.dump =
      (Catalog.ofRecords (c.toRecords.map EntityRecord.reread)).mapError .content := by
  have hrecords := reads_records c []
  rw [List.append_nil] at hrecords
  rw [read, Catalog.dump, hrecords]
  dsimp only
  cases Catalog.ofRecords (c.toRecords.map EntityRecord.reread) <;> rfl

/-- Reading a dump gives the sound catalog with these records, if there is one. -/
theorem read_dump_eq_ok_iff :
    read c.dump = .ok c' ↔ c'.Sound ∧ c'.toRecords = c.toRecords.map EntityRecord.reread := by
  rw [read_dump, ← Catalog.ofRecords_eq_ok_iff]
  cases Catalog.ofRecords (c.toRecords.map EntityRecord.reread) <;> simp [Except.mapError]

end Dump

/-! ## Names that come back -/

namespace Catalog

/-- The records come back when the names do; the name of a scope is one of them. -/
theorem map_reread_toRecords_iff (c : Catalog) :
    c.toRecords = c.toRecords.map EntityRecord.reread ↔
      ∀ e ∈ c.entities, QualifiedName.parse e.name.display = e.name := by
  have hfixed : c.toRecords = c.toRecords.map EntityRecord.reread ↔
      ∀ e ∈ c.entities, (c.recordOf e).reread = c.recordOf e := by
    rw [toRecords, List.map_map, List.map_inj_left]
    exact forall₂_congr fun e _ => eq_comm
  rw [hfixed]
  constructor
  · intro h e he
    exact congrArg EntityRecord.name (h e he)
  · intro h e he
    have hscope : ∀ q ∈ (e.scope.bind c.get?).map Entity.name,
        QualifiedName.parse q.display = q := by
      intro q hq
      obtain ⟨x, hx, rfl⟩ := Option.map_eq_some_iff.mp hq
      obtain ⟨s, -, hs⟩ := Option.bind_eq_some_iff.mp hx
      exact h x (List.mem_of_getElem? hs)
    rw [EntityRecord.reread, recordOf, EntityRecord.mk.injEq]
    refine ⟨h e he, rfl, rfl, ?_⟩
    cases hq : (e.scope.bind c.get?).map Entity.name with
    | none => rfl
    | some q => rw [Option.map_some, hscope q hq]

/-- Sound catalogs with the same entities are the same. -/
theorem Sound.eq_of_entities_eq (hc : c.Sound) (hc' : c'.Sound) (h : c'.entities = c.entities) :
    c' = c := by
  rw [← hc'.canonical, h, hc.canonical]

/-- The dump of a catalog is read back as the same catalog when all names in it come back from their
written forms, and only then; it is enough that the entities are the same. -/
theorem build_dump_roundTrip (calls : List Call) :
    List.TFAE [
      Dump.read (build calls).dump = .ok (build calls),
      ∃ c, Dump.read (build calls).dump = .ok c ∧ c.entities = (build calls).entities,
      ∀ e ∈ (build calls).entities, QualifiedName.parse e.name.display = e.name] := by
  have hsound := sound_build calls
  tfae_have 1 → 2 := fun h => ⟨_, h, rfl⟩
  tfae_have 2 → 3 := by
    rintro ⟨c, hread, hentities⟩
    obtain ⟨hc, hrecords⟩ := Dump.read_dump_eq_ok_iff.mp hread
    obtain rfl := hsound.eq_of_entities_eq hc hentities
    exact (map_reread_toRecords_iff _).mp hrecords
  tfae_have 3 → 1 := by
    intro h
    exact Dump.read_dump_eq_ok_iff.mpr ⟨hsound, (map_reread_toRecords_iff _).mpr h⟩
  tfae_finish

/-- The name of a member is one segment whatever it is; with a separator in it, it does not come
back. -/
example : let q := (QualifiedName.top "A").child "b::c"; QualifiedName.parse q.display ≠ q := by
  decide +kernel

end Catalog

end Exposure
