import Exposure.Pass.FrontEnd
import Exposure.Proofs.Catalog.Dump
import Exposure.Proofs.Json.Yielding
import Exposure.Proofs.Name.Rereading

/-!
# Catalogs that were read, written and read again

A catalog that a dump was read as is sound, and all names in it were read.  So its own dump is read
as the same catalog exactly when every name comes back, and of a name that was read it is known when
it does.
-/

namespace Exposure

variable {c : Catalog} {text file file' : String}

namespace Dump

open Json (Gives Yields gives_ok gives_trivial yields_entries gives_required gives_fieldOf)

/-! ## What a dump is read as -/

theorem yields_name : Yields name QualifiedName.IsParsed :=
  fun _ => (gives_trivial _).map fun r _ => ⟨r.1, rfl⟩

theorem yields_recordEntry (key : String) (f : Fields) (hf : ∀ q ∈ f.name, q.IsParsed) :
    Yields (recordEntry key f) fun f => ∀ q ∈ f.name, q.IsParsed := by
  intro cs
  rw [recordEntry]
  split_ifs
  · exact (yields_name.once "name" cs).map fun r hr => hr
  all_goals exact (gives_trivial _).map fun r _ => hf

theorem yields_recordObject : Yields recordObject fun r => r.name.IsParsed := by
  intro cs
  refine (yields_entries yields_recordEntry (by simp) (cs.length + 1) true cs).bind ?_
  rintro ⟨f, rest⟩ hf
  refine (gives_required "name" f.name rest).bind fun q hq => ?_
  refine (gives_trivial (Json.required "kind" f.kind rest)).bind fun k _ => ?_
  exact gives_ok (hf q hq)

theorem yields_recordList : Yields recordList fun r => r.name.IsParsed := by
  intro cs
  refine (yields_name.nextField true cs).bind ?_
  rintro ⟨name?, rest⟩ hname
  refine (gives_fieldOf 0 recordFields name? rest).bind fun q hq => ?_
  -- the other fields do not matter
  refine (gives_trivial _).bind ?_
  rintro ⟨kind?, rest⟩ -
  refine (gives_trivial (Json.fieldOf 1 recordFields kind? rest)).bind fun k _ => ?_
  refine (gives_trivial _).bind ?_
  rintro ⟨access?, rest⟩ -
  refine (gives_trivial _).bind ?_
  rintro ⟨scope?, rest⟩ -
  exact gives_ok (hname q hq)

theorem yields_record : Yields record fun r => r.name.IsParsed :=
  yields_recordObject.structure? yields_recordList recordForm

theorem yields_dumpEntry (key : String) (old : Option (List EntityRecord))
    (hold : ∀ rs ∈ old, ∀ r ∈ rs, r.name.IsParsed) :
    Yields (dumpEntry key old) fun rs? => ∀ rs ∈ rs?, ∀ r ∈ rs, r.name.IsParsed := by
  intro cs
  rw [dumpEntry]
  split_ifs
  · exact yields_record.list.once "entities" cs
  · exact (gives_trivial _).map fun r _ => hold

theorem yields_dumpObject : Yields dumpObject fun rs => ∀ r ∈ rs, r.name.IsParsed := by
  intro cs
  refine (yields_entries yields_dumpEntry (by simp) (cs.length + 1) true cs).bind ?_
  rintro ⟨rs?, rest⟩ hrs?
  exact (gives_required "entities" rs? rest).bind fun rs hrs => gives_ok (hrs? rs hrs)

theorem yields_dumpList : Yields dumpList fun rs => ∀ r ∈ rs, r.name.IsParsed := by
  intro cs
  refine (yields_record.list.nextField true cs).bind ?_
  rintro ⟨rs?, rest⟩ hrs?
  exact (gives_fieldOf 0 dumpFields rs? rest).bind fun rs hrs => gives_ok (hrs? rs hrs)

theorem yields_records : Yields records fun rs => ∀ r ∈ rs, r.name.IsParsed :=
  yields_dumpObject.structure? yields_dumpList dumpForm

/-- A dump is read as the catalog of its records. -/
theorem exists_records_of_read (h : read text = .ok c) :
    ∃ rs rest, records text.toList = .ok (rs, rest) ∧ Catalog.ofRecords rs = .ok c := by
  rw [read] at h
  split at h
  · cases h
  · next rs rest hrs =>
    split at h
    · cases h
    · next c' hc =>
      split at h
      · cases h
      · cases h
        exact ⟨rs, rest, hrs, hc⟩

theorem sound_of_read (h : read text = .ok c) : c.Sound := by
  obtain ⟨rs, rest, -, hc⟩ := exists_records_of_read h
  exact (Catalog.ofRecords_eq_ok_iff.mp hc).1

theorem isParsed_of_read (h : read text = .ok c) : ∀ e ∈ c.entities, e.name.IsParsed := by
  obtain ⟨rs, rest, hrs, hc⟩ := exists_records_of_read h
  obtain ⟨-, rfl⟩ := Catalog.ofRecords_eq_ok_iff.mp hc
  intro e he
  exact yields_records text.toList _ hrs (c.recordOf e) (List.mem_map_of_mem he)

end Dump

/-! ## Reading once more -/

namespace Catalog

/-- The dump of a sound catalog is read as the same catalog exactly when all names come back. -/
theorem Sound.read_dump_eq_self_iff (hc : c.Sound) :
    Dump.read c.dump = .ok c ↔ ∀ e ∈ c.entities, QualifiedName.parse e.name.display = e.name := by
  rw [Dump.read_dump_eq_ok_iff, and_iff_right hc, map_reread_toRecords_iff]

end Catalog

namespace FrontEnd

theorem readDump_eq_ok_iff : readDump file text = .ok c ↔ Dump.read text = .ok c := by
  rw [readDump]
  cases Dump.read text <;> simp [Except.mapError]

/-- The dump of a catalog that was read is read as the same catalog exactly when no segment that
encloses a name in it ends with a colon; it is enough that the entities are the same. -/
theorem readDump_dump_roundTrip (h : readDump file text = .ok c) :
    List.TFAE [
      readDump file' c.dump = .ok c,
      ∃ c', readDump file' c.dump = .ok c' ∧ c'.entities = c.entities,
      ∀ e ∈ c.entities, ∀ s ∈ e.name.enclosing, s.toList.getLast? ≠ some ':'] := by
  have hread := readDump_eq_ok_iff.mp h
  have hsound := Dump.sound_of_read hread
  tfae_have 1 → 2 := fun h => ⟨c, h, rfl⟩
  tfae_have 2 → 1 := by
    rintro ⟨c', hread', hentities⟩
    have hsound' := Dump.sound_of_read (readDump_eq_ok_iff.mp hread')
    rwa [hsound.eq_of_entities_eq hsound' hentities] at hread'
  tfae_have 1 ↔ 3 := by
    rw [readDump_eq_ok_iff, hsound.read_dump_eq_self_iff]
    exact forall₂_congr fun e he => (Dump.isParsed_of_read hread e he).parse_display_iff
  tfae_finish

/-- A colon with a blank behind it in front of a separator. -/
theorem readDump_dump_roundTrip_of_colon_segment :
    let text := "\x7b\"entities\":[\x7b\"name\":\"a: ::b\",\"kind\":\"class\"\x7d]\x7d"
    let c := Catalog.ofEntities [⟨⟨["a:"], "b"⟩, .classType, .notApplicable, none⟩]
    readDump "<catalog>" text = .ok c ∧ List.TFAE [
      readDump "<catalog>" c.dump = .ok c,
      ∃ c', readDump "<catalog>" c.dump = .ok c' ∧ c'.entities = c.entities,
      ∀ e ∈ c.entities, ∀ s ∈ e.name.enclosing, s.toList.getLast? ≠ some ':'] := by
  intro text c
  have hread : readDump "<catalog>" text = .ok c := by decide +kernel
  exact ⟨hread, readDump_dump_roundTrip hread⟩

/-- Two names that are different when they are read, and are written alike. -/
theorem readDump_dump_refused :
    let text := "\x7b\"entities\":[\x7b\"name\":\"a: ::b\",\"kind\":\"class\"\x7d," ++
      "\x7b\"name\":\"a:::b\",\"kind\":\"class\"\x7d]\x7d"
    let c := Catalog.ofEntities [⟨⟨["a:"], "b"⟩, .classType, .notApplicable, none⟩,
      ⟨⟨["a"], ":b"⟩, .classType, .notApplicable, none⟩]
    readDump "<catalog>" text = .ok c ∧
      readDump "<catalog>" c.dump =
        .error ⟨some ⟨"<catalog>", 0, 0, 0⟩, "duplicate entity: a:::b"⟩ := by
  intro text c
  refine ⟨by decide +kernel, ?_⟩
  rw [readDump, Dump.read_dump]
  decide +kernel

end FrontEnd

end Exposure
