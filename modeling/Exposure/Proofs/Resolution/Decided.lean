import Mathlib.Data.List.Induction
import Exposure.Proofs.Resolution.LastMatch

/-!
# Decisions from matches

What a resolution says of an entity depends on nothing but which rules match the entity.  Whether it
is exposed depends on even less: on the last of them being one that exposes.  This second view needs
no places of rules and goes well with policies that are made of several parts.
-/

namespace Exposure

variable {c c' : Catalog} {rs rs' : List Rule} {r : Rule} {i i' : EntityId} {p : Policy}

namespace Rule

/-- The last of the listed rules that matches an entity exposes it. -/
def LastExposes (c : Catalog) (rs : List Rule) (i : EntityId) : Prop :=
  ∃ before r after, rs = before ++ r :: after ∧ r.Matches c i ∧ r.exposes = true ∧
    ∀ x ∈ after, ¬ x.Matches c i

theorem not_lastExposes_nil : ¬ LastExposes c [] i := by
  rintro ⟨before, r, after, h, -⟩
  simp at h

/-- A new rule decides the entities that it matches, and earlier rules the others. -/
theorem lastExposes_concat :
    LastExposes c (rs ++ [r]) i ↔
      r.Matches c i ∧ r.exposes = true ∨ ¬ r.Matches c i ∧ LastExposes c rs i := by
  constructor
  · rintro ⟨before, x, after, h, hx, he, hnone⟩
    obtain rfl | ⟨after, y, rfl⟩ := after.eq_nil_or_concat'
    · obtain ⟨-, hlast⟩ := List.append_inj' h rfl
      exact List.singleton_inj.mp hlast ▸ .inl ⟨hx, he⟩
    · rw [← List.cons_append, ← List.append_assoc] at h
      obtain ⟨rfl, hlast⟩ := List.append_inj' h rfl
      obtain rfl := List.singleton_inj.mp hlast
      refine .inr ⟨hnone r (by simp), before, x, after, rfl, hx, he, ?_⟩
      exact fun z hz => hnone z (List.mem_append_left _ hz)
  · rintro (⟨hr, he⟩ | ⟨hr, before, x, after, rfl, hx, he, hnone⟩)
    · exact ⟨rs, r, [], rfl, hr, he, by simp⟩
    · refine ⟨before, x, after ++ [r], by simp, hx, he, ?_⟩
      intro z hz
      rcases List.mem_append.mp hz with hz | hz
      · exact hnone z hz
      · exact List.mem_singleton.mp hz ▸ hr

/-- Rules that expose nothing only take away what others expose. -/
theorem lastExposes_append_of_hiding (h : ∀ x ∈ rs', x.exposes = false) :
    LastExposes c (rs ++ rs') i ↔ LastExposes c rs i ∧ ∀ x ∈ rs', ¬ x.Matches c i := by
  induction rs' using List.reverseRecOn with
  | nil => simp
  | append_singleton rs' r ih =>
      rw [List.forall_mem_append, List.forall_mem_singleton] at h
      rw [← List.append_assoc, lastExposes_concat, ih h.1, List.forall_mem_append,
        List.forall_mem_singleton, h.2]
      simp only [Bool.false_eq_true, and_false, false_or]
      exact ⟨fun ⟨hr, hrs, hnone⟩ => ⟨hrs, hnone, hr⟩, fun ⟨hrs, hnone, hr⟩ => ⟨hr, hrs, hnone⟩⟩

/-- Of rules that all expose any one is enough. -/
theorem lastExposes_append_of_exposing (h : ∀ x ∈ rs', x.exposes = true) :
    LastExposes c (rs ++ rs') i ↔ LastExposes c rs i ∨ ∃ x ∈ rs', x.Matches c i := by
  induction rs' using List.reverseRecOn with
  | nil => simp
  | append_singleton rs' r ih =>
      rw [List.forall_mem_append, List.forall_mem_singleton] at h
      rw [← List.append_assoc, lastExposes_concat, ih h.1, h.2]
      by_cases hr : r.Matches c i <;> simp [hr, or_and_right, exists_or]

/-- Whether the last rule that matches exposes can be told at its place. -/
theorem lastExposes_iff_of_isGreatest {k : Nat} (hk : IsGreatest (matching c rs i) k)
    (hr : rs[k]? = some r) : LastExposes c rs i ↔ r.exposes = true := by
  obtain ⟨⟨r', hr', hmatch⟩, hlast⟩ := hk
  obtain rfl : r' = r := Option.some.inj (hr'.symm.trans hr)
  constructor
  · rintro ⟨before, x, after, rfl, hx, he, hnone⟩
    have hle : before.length ≤ k := hlast ⟨x, by simp, hx⟩
    rcases hle.eq_or_lt with rfl | hlt
    · obtain rfl : x = r' := by simpa using hr
      exact he
    · -- the place lies behind the rule, where nothing matches
      obtain ⟨n, rfl⟩ := Nat.exists_eq_add_of_lt hlt
      rw [List.getElem?_append_right (by omega)] at hr
      have hafter : after[n]? = some r' := by
        simpa [show before.length + n + 1 - before.length = n + 1 by omega] using hr
      exact absurd hmatch (hnone r' (List.mem_of_getElem? hafter))
  · intro he
    obtain ⟨hlt, rfl⟩ := List.getElem?_eq_some_iff.mp hr
    refine ⟨rs.take k, rs[k], rs.drop (k + 1), by simp, hmatch, he, ?_⟩
    intro x hx hmx
    obtain ⟨n, hn⟩ := List.mem_iff_getElem?.mp hx
    rw [List.getElem?_drop] at hn
    have hle := hlast ⟨x, hn, hmx⟩
    omega

end Rule

/-! ## Names -/

theorem Catalog.index_ofEntities (es : List Entity) :
    (ofEntities es).index = .ofNames (es.map Entity.name) := by
  induction es using List.reverseRecOn with
  | nil => rfl
  | append_singleton es e ih =>
      have hinsert : ((ofEntities es).insert e).index =
          (ofEntities es).index.insert e.name es.length := by rw [insert, size_ofEntities]
      rw [ofEntities_concat, hinsert, ih]
      simp [NameIndex.ofNames, List.zipIdx_append]

/-- A resolution finds names where its catalog does. -/
theorem Catalog.Sound.index_resolve (hc : c.Sound) (p : Policy) :
    (resolve c p).index = c.index := by
  have hindex := Catalog.index_ofEntities c.entities
  rw [hc.canonical, ← c.map_name_iter] at hindex
  exact hindex.symm

/-- The decision for a name is that for the id which the catalog has for it. -/
theorem Catalog.Sound.decision?_eq_bind (hc : c.Sound) (p : Policy) (q : QualifiedName) :
    (resolve c p).decision? q = (c.lookup q).bind (resolve c p).decisionFor? := by
  rw [Resolution.decision?, hc.index_resolve]
  rfl

/-- The decision for the name of an entity is that for its id. -/
theorem Catalog.Sound.decision?_eq {e : Entity} (hc : c.Sound) (p : Policy)
    (he : c.get? i = some e) :
    (resolve c p).decision? e.name = (resolve c p).decisionFor? i := by
  rw [hc.decision?_eq_bind, hc.lookup_eq_some_iff.mpr ⟨e, he, rfl⟩, Option.bind_some]

/-! ## Decisions -/

/-- An entity is decided, and it is exposed exactly when the last rule that matches it exposes. -/
theorem Catalog.Sound.exists_decision (hc : c.Sound) (p : Policy) (hi : i < c.size) :
    ∃ d, (resolve c p).decisionFor? i = some d ∧
      (d.exposed = true ↔ Rule.LastExposes c p.rules i) := by
  obtain ⟨k, r, hk, hr, hd⟩ := hc.exists_decisionFor?_eq p hi
  exact ⟨_, hd, (Rule.lastExposes_iff_of_isGreatest hk hr).symm⟩

/-- Entities that the same rules match are decided alike. -/
theorem decisionFor?_congr (hc : c.Sound) (hc' : c'.Sound) (hi : i < c.size) (hi' : i' < c'.size)
    (h : ∀ r : Rule, r.Matches c i ↔ r.Matches c' i') :
    (resolve c p).decisionFor? i = (resolve c' p).decisionFor? i' := by
  obtain ⟨k, r, hk, hr, hd⟩ := hc.exists_decisionFor?_eq p hi
  obtain ⟨k', r', hk', hr', hd'⟩ := hc'.exists_decisionFor?_eq p hi'
  have hset : Rule.matching c p.rules i = Rule.matching c' p.rules i' := by
    ext n
    simp only [Rule.matching, h]
  obtain rfl : k = k' := hk.unique (hset ▸ hk')
  rw [hd, hd', Option.some.inj (hr.symm.trans hr')]

end Exposure
