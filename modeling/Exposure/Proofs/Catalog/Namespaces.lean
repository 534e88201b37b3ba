import Exposure.Proofs.Catalog.Representation

/-!
# Access levels of namespaces

A namespace is no member, but what a class encloses is checked whatever its kind is.  So a namespace
has no access level outside of classes and must have one inside of a class, and a catalog has a
namespace with an access level exactly when one of its classes has a namespace among its members.
-/

namespace Exposure.Catalog

variable {c : Catalog} {e : Entity} {i s : EntityId}

theorem notApplicable_iff (a : Access) : a = .notApplicable ↔ ¬ a.isSpecifier = true := by
  rw [Bool.not_eq_true, Access.isSpecifier_eq_false_iff]

/-- An entity of a sound catalog has no access level exactly when it is not in a class. -/
theorem Sound.access_eq_notApplicable_iff (h : c.Sound) (he : c.get? i = some e) :
    e.access = .notApplicable ↔ ¬ e.InClass c.entities := by
  rw [notApplicable_iff, (h.fits he).2]

/-- The entities in classes are the members of classes. -/
theorem Sound.inClass_iff_mem_members (h : c.Sound) (he : c.get? i = some e) :
    e.InClass c.entities ↔ ∃ s p, c.get? s = some p ∧ p.kind = .classType ∧ i ∈ c.members s := by
  have hmem : ∀ s, i ∈ c.members s ↔ e.scope = some s := by
    intro s
    rw [h.mem_members, scope?, he, Option.bind_some]
  simp only [hmem]
  constructor
  · rintro ⟨s, p, hs, hp, hk⟩
    exact ⟨s, p, hp, hk, hs⟩
  · rintro ⟨s, p, hp, hk, hs⟩
    exact ⟨s, p, hs, hp, hk⟩

/-- Anything but a method or a field is accepted under a new name in a known scope when it has an
access level exactly if the scope is a class. -/
theorem exists_add_iff (hm : e.isMember = false) (hname : c.lookup e.name = none)
    (hscope : ∀ s, e.scope = some s → s < c.size) :
    (∃ r, c.add e = .ok r) ↔ (e.access.isSpecifier = true ↔ e.InClass c.entities) := by
  have hkind : e.kind.isMember = false := hm
  simp only [add_eq_ok_iff, exists_and_left, exists_eq, and_true]
  rw [refusal?_eq_none_iff, accessProblem?_eq_none_iff, inClass_eq_true_iff, hkind,
    and_iff_right hname, and_iff_right hscope, and_iff_right nofun]

/-! ## Namespaces -/

/-- Which namespaces of a catalog have an access level. -/
structure NamespaceLevels (c : Catalog) : Prop where
  /-- A namespace has none exactly when it is not in a class. -/
  access_iff : ∀ i e, c.get? i = some e → e.kind = .namespaceScope →
    (e.access = .notApplicable ↔ ¬ e.InClass c.entities)
  /-- No namespace has one exactly when no class has a namespace among its members. -/
  forall_iff :
    (∀ i e, c.get? i = some e → e.kind = .namespaceScope → e.access = .notApplicable) ↔
      ∀ s p, c.get? s = some p → p.kind = .classType →
        ∀ i ∈ c.members s, ∀ e, c.get? i = some e → e.kind ≠ .namespaceScope
  /-- One more namespace, with a new name and in a known scope, is accepted exactly when it is with
  an access level in a class or without one elsewhere. -/
  exists_add_iff : ∀ e, e.kind = .namespaceScope → c.lookup e.name = none →
    (∀ s, e.scope = some s → s < c.size) →
      ((∃ r, c.add e = .ok r) ↔ (e.access = .notApplicable ↔ ¬ e.InClass c.entities))

theorem Sound.namespaceLevels (h : c.Sound) : NamespaceLevels c where
  access_iff i e he _ := h.access_eq_notApplicable_iff he
  forall_iff := by
    constructor
    · intro hall s p hp hk i hi e he hn
      have hin := (h.inClass_iff_mem_members he).mpr ⟨s, p, hp, hk, hi⟩
      exact (h.access_eq_notApplicable_iff he).mp (hall i e he hn) hin
    · intro hnone i e he hn
      refine (h.access_eq_notApplicable_iff he).mpr fun hin => ?_
      obtain ⟨s, p, hp, hk, hi⟩ := (h.inClass_iff_mem_members he).mp hin
      exact hnone s p hp hk i hi e he hn
  exists_add_iff e hk hname hscope := by
    have hm : e.isMember = false := by
      rw [Entity.isMember, hk]
      rfl
    rw [Catalog.exists_add_iff hm hname hscope, notApplicable_iff, not_iff_not]

/-- Whatever calls build, its namespaces have an access level exactly in classes. -/
theorem build_namespaceLevels (calls : List Call) : NamespaceLevels (build calls) :=
  (sound_build calls).namespaceLevels

/-- A class takes a public namespace, which then has an access level. -/
theorem build_public_namespace :
    let c := build [.add ⟨.top "Box", .classType, .notApplicable, none⟩,
      .addMember 0 "detail" .namespaceScope .pub]
    c.get? 1 = some ⟨⟨["Box"], "detail"⟩, .namespaceScope, .pub, some 0⟩ ∧
      ¬ ∀ i e, c.get? i = some e → e.kind = .namespaceScope → e.access = .notApplicable := by
  intro c
  have hget : c.get? 1 = some ⟨⟨["Box"], "detail"⟩, .namespaceScope, .pub, some 0⟩ := by decide
  refine ⟨hget, fun hall => ?_⟩
  cases hall 1 _ hget rfl

end Exposure.Catalog
