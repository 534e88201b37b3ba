import Exposure.Proofs.Resolution.Decided
import Exposure.Surface

/-!
# The views of a resolution

A resolution can be asked by name, by id or entry by entry; the surface and the manifest go through
the catalog once more and ask it for every id.  All of them see the same decisions, since names are
found at the places of their entities and every entity has an entry.  A decision names a rule of the
policy, so an explanation always has a text to quote.
-/

namespace Exposure

variable {c : Catalog} {p : Policy} {i : EntityId} {e : Entity} {q : QualifiedName} {d : Decision}

/-! ## Entries -/

/-- The entries have the names of the entities, in the order of the catalog. -/
theorem map_fst_entries_resolve (c : Catalog) (p : Policy) :
    (resolve c p).entries.map Prod.fst = c.entities.map Entity.name := by
  rw [← c.map_name_iter, resolve, List.map_fst_zip]
  simp [Progress.run, Progress.start]

theorem map_fst_getElem?_entries (c : Catalog) (p : Policy) (i : EntityId) :
    ((resolve c p).entries[i]?).map Prod.fst = (c.get? i).map Entity.name := by
  rw [← List.getElem?_map, map_fst_entries_resolve, List.getElem?_map, Catalog.get?]

/-- An entity has an entry at its place, with its name and the decision for its id. -/
theorem exists_getElem?_entries (p : Policy) (he : c.get? i = some e) :
    ∃ d, (resolve c p).entries[i]? = some (e.name, d) ∧ (resolve c p).decisionFor? i = some d := by
  have hname := map_fst_getElem?_entries c p i
  rw [he, Option.map_some, Option.map_eq_some_iff] at hname
  obtain ⟨⟨q, d⟩, hx, rfl⟩ := hname
  exact ⟨d, hx, by rw [Resolution.decisionFor?, hx, Option.map_some]⟩

/-- Going through the catalog and asking for every id gives the entries. -/
theorem map_decisionFor?_iter (c : Catalog) (p : Policy) :
    (c.iter.map fun x => (x.2.name, (resolve c p).decisionFor? x.1)) =
      (resolve c p).entries.map fun x => (x.1, some x.2) := by
  apply List.ext_getElem?
  intro i
  rw [List.getElem?_map, List.getElem?_map, c.getElem?_iter]
  cases he : c.get? i with
  | none =>
      have hname := map_fst_getElem?_entries c p i
      rw [he, Option.map_none, Option.map_eq_none_iff] at hname
      rw [hname, Option.map_none, Option.map_none, Option.map_none]
  | some e =>
      obtain ⟨d, hx, hd⟩ := exists_getElem?_entries p he
      rw [hx, Option.map_some, Option.map_some, Option.map_some, hd]

/-! ## The surface -/

/-- A name that is kept when its decision exposes it. -/
def keepExposed (x : QualifiedName × Option Decision) : Option QualifiedName :=
  if x.2.any Decision.exposed then some x.1 else none

theorem filterMap_keepExposed_entries (r : Resolution) :
    (r.entries.map fun x => (x.1, some x.2)).filterMap keepExposed = r.exposedNames := by
  rw [Resolution.exposedNames, List.filterMap_map, ← List.filterMap_eq_filter,
    List.map_filterMap]
  congr 1
  funext x
  cases h : x.2.exposed <;> simp [keepExposed, h]

/-- The surface has the exposed names. -/
theorem map_name_entities_surface (moduleName : String) (c : Catalog) (p : Policy) :
    (Surface.mk moduleName c (resolve c p)).entities.map Entity.name =
      (resolve c p).exposedNames := by
  rw [← filterMap_keepExposed_entries, ← map_decisionFor?_iter, List.filterMap_map,
    Surface.entities, List.map_map, ← List.filterMap_eq_filter, List.map_filterMap]
  congr 1
  funext x
  cases h : ((resolve c p).decisionFor? x.1).any Decision.exposed <;> simp [keepExposed, h]

/-- The manifest has the exposed names. -/
theorem map_name_manifestEntries (moduleName : String) (c : Catalog) (p : Policy) :
    (Surface.mk moduleName c (resolve c p)).manifestEntries.map Surface.ManifestEntry.name =
      (resolve c p).exposedNames := by
  rw [← filterMap_keepExposed_entries, ← map_decisionFor?_iter, List.filterMap_map,
    Surface.manifestEntries, List.map_filterMap]
  congr 1
  funext x
  cases hd : (resolve c p).decisionFor? x.1 with
  | none => simp [keepExposed, Surface.manifestEntry?, hd]
  | some d => cases h : d.exposed <;> simp [keepExposed, Surface.manifestEntry?, hd, h]

/-- An entry of the manifest is made of an exposed entity and its decision. -/
theorem mem_manifestEntries {s : Surface} {m : Surface.ManifestEntry} :
    m ∈ s.manifestEntries ↔ ∃ i e d, s.catalog.get? i = some e ∧
      s.resolution.decisionFor? i = some d ∧ d.exposed = true ∧
        m = ⟨e.name, e.kind, e.access, d.ruleIndex⟩ := by
  simp only [Surface.manifestEntries, Surface.manifestEntry?, List.mem_filterMap, Prod.exists,
    Catalog.mem_iter, Option.map_eq_some_iff, Option.filter_eq_some_iff]
  constructor
  · rintro ⟨i, e, he, d, ⟨hd, h⟩, rfl⟩
    exact ⟨i, e, d, he, hd, h, rfl⟩
  · rintro ⟨i, e, d, he, hd, h, rfl⟩
    exact ⟨i, e, he, d, ⟨hd, h⟩, rfl⟩

/-! ## Counts -/

namespace Resolution

theorem exposedCount_eq_length (r : Resolution) : r.exposedCount = r.exposedNames.length := by
  rw [exposedCount, exposedNames, List.length_map, List.countP_eq_length_filter]

theorem exposedCount_add_hiddenCount (r : Resolution) :
    r.exposedCount + r.hiddenCount = r.size :=
  Nat.add_sub_of_le List.countP_le_length

theorem exposedNames_sublist (r : Resolution) :
    r.exposedNames.Sublist (r.entries.map Prod.fst) :=
  List.filter_sublist.map Prod.fst

end Resolution

/-! ## Names and rules -/

namespace Catalog.Sound

theorem decision?_eq_none (hc : c.Sound) (p : Policy) (hq : ∀ e ∈ c.entities, e.name ≠ q) :
    (resolve c p).decision? q = none := by
  have hlookup : c.lookup q = none := by
    rw [Option.eq_none_iff_forall_ne_some]
    intro i hi
    obtain ⟨e, he, hname⟩ := hc.lookup_eq_some_iff.mp hi
    exact hq e (List.mem_of_getElem? he) hname
  rw [hc.decision?_eq_bind, hlookup, Option.bind_none]

/-- The known names are decided, and no others. -/
theorem exists_decision?_iff (hc : c.Sound) :
    (∃ d, (resolve c p).decision? q = some d) ↔ ∃ e ∈ c.entities, e.name = q := by
  constructor
  · rintro ⟨d, hd⟩
    by_contra! hq
    rw [hc.decision?_eq_none p hq] at hd
    cases hd
  · rintro ⟨e, he, rfl⟩
    obtain ⟨i, hi⟩ := List.mem_iff_getElem?.mp he
    obtain ⟨d, -, hd⟩ := exists_getElem?_entries p hi
    exact ⟨d, (hc.decision?_eq p hi).trans hd⟩

/-- A decision names a rule of the policy. -/
theorem exists_rule_of_decision? (hc : c.Sound) (hd : (resolve c p).decision? q = some d) :
    ∃ r, p.rules[d.ruleIndex]? = some r := by
  rw [hc.decision?_eq_bind, Option.bind_eq_some_iff] at hd
  obtain ⟨i, -, hd⟩ := hd
  obtain ⟨⟨r, hr, -⟩, -⟩ := hc.isGreatest_of_decisionFor? hd
  exact ⟨r, hr⟩

/-- The exposed names are those of the entities that are decided to be exposed. -/
theorem mem_exposedNames_iff (hc : c.Sound) (p : Policy) (he : c.get? i = some e) :
    e.name ∈ (resolve c p).exposedNames ↔
      ∃ d, (resolve c p).decisionFor? i = some d ∧ d.exposed = true := by
  rw [← map_name_entities_surface "" c p]
  simp only [Surface.entities, List.map_map, List.mem_map, List.mem_filter, Prod.exists,
    Catalog.mem_iter, Option.any_eq_true, Function.comp_apply]
  constructor
  · rintro ⟨j, f, ⟨hf, hexposed⟩, hname⟩
    obtain rfl := hc.admissible.eq_of_name_eq hf he hname
    exact hexposed
  · intro h
    exact ⟨i, e, ⟨he, h⟩, rfl⟩

end Catalog.Sound

theorem ruleText_resolve {k : Nat} {r : Rule} (hr : p.rules[k]? = some r) :
    (resolve c p).ruleText k = r.display := by
  have hrules : (resolve c p).rules = p.rules.map Rule.display := rfl
  rw [Resolution.ruleText, hrules, List.getElem?_map, hr, Option.map_some, Option.getD_some]

theorem isSome_explain?_iff (r : Resolution) (q : QualifiedName) :
    (r.explain? q).isSome ↔ ∃ d, r.decision? q = some d := by
  rw [Resolution.explain?, Option.isSome_map, Option.isSome_iff_exists]

/-! ## All views -/

/-- The views of a resolution say the same of every entity. -/
structure ViewsAgree (c : Catalog) (p : Policy) : Prop where
  size_eq : (resolve c p).size = c.size
  /-- By place, by id and by name an entity has the same decision. -/
  decision_of_entity : ∀ i e, c.get? i = some e →
    ∃ d, (resolve c p).entries[i]? = some (e.name, d) ∧
      (resolve c p).decisionFor? i = some d ∧ (resolve c p).decision? e.name = some d
  decision_of_unknown : ∀ q, (∀ e ∈ c.entities, e.name ≠ q) → (resolve c p).decision? q = none
  /-- The exposed names come in the order of the catalog. -/
  exposedNames_sublist : (resolve c p).exposedNames.Sublist (c.entities.map Entity.name)
  mem_exposedNames_iff : ∀ i e, c.get? i = some e →
    (e.name ∈ (resolve c p).exposedNames ↔
      ∃ d, (resolve c p).decisionFor? i = some d ∧ d.exposed = true)
  surface_names : ∀ moduleName,
    (Surface.mk moduleName c (resolve c p)).entities.map Entity.name = (resolve c p).exposedNames
  manifest_names : ∀ moduleName,
    (Surface.mk moduleName c (resolve c p)).manifestEntries.map Surface.ManifestEntry.name =
      (resolve c p).exposedNames
  /-- An entry of the manifest has the kind and the access level of its entity and the rule of its
  decision. -/
  manifest_entry : ∀ moduleName, ∀ m ∈ (Surface.mk moduleName c (resolve c p)).manifestEntries,
    ∃ i e d, c.get? i = some e ∧ (resolve c p).decisionFor? i = some d ∧ d.exposed = true ∧
      m = ⟨e.name, e.kind, e.access, d.ruleIndex⟩
  surface_size : ∀ moduleName,
    (Surface.mk moduleName c (resolve c p)).size = (resolve c p).exposedCount
  exposedCount_eq : (resolve c p).exposedCount = (resolve c p).exposedNames.length
  counts : (resolve c p).exposedCount + (resolve c p).hiddenCount = c.size
  /-- What the catalog knows is explained, and nothing else. -/
  explain_isSome_iff : ∀ q, ((resolve c p).explain? q).isSome ↔ ∃ e ∈ c.entities, e.name = q
  /-- An explanation gives the verdict and quotes the rule of the policy that decided. -/
  explain_eq : ∀ q d, (resolve c p).decision? q = some d →
    ∃ r, p.rules[d.ruleIndex]? = some r ∧
      let verdict := if d.exposed then "exposed" else "hidden"
      (resolve c p).explain? q =
        some s!"`{q.display}` {verdict} by rule #{d.ruleIndex} ({r.display})"

theorem viewsAgree_of_sound (hc : c.Sound) (p : Policy) : ViewsAgree c p where
  size_eq := Resolution.size_resolve c p
  decision_of_entity i e he := by
    obtain ⟨d, hx, hd⟩ := exists_getElem?_entries p he
    exact ⟨d, hx, hd, (hc.decision?_eq p he).trans hd⟩
  decision_of_unknown _ hq := hc.decision?_eq_none p hq
  exposedNames_sublist := by
    rw [← map_fst_entries_resolve c p]
    exact (resolve c p).exposedNames_sublist
  mem_exposedNames_iff _ _ he := hc.mem_exposedNames_iff p he
  surface_names moduleName := map_name_entities_surface moduleName c p
  manifest_names moduleName := map_name_manifestEntries moduleName c p
  manifest_entry _ _ hm := mem_manifestEntries.mp hm
  surface_size _ := rfl
  exposedCount_eq := (resolve c p).exposedCount_eq_length
  counts := by rw [Resolution.exposedCount_add_hiddenCount, Resolution.size_resolve]
  explain_isSome_iff q := by rw [isSome_explain?_iff, hc.exists_decision?_iff]
  explain_eq q d hd := by
    obtain ⟨r, hr⟩ := hc.exists_rule_of_decision? hd
    refine ⟨r, hr, ?_⟩
    rw [Resolution.explain?, hd, Option.map_some, ruleText_resolve hr]

end Exposure
