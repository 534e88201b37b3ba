import Exposure.Proofs.Catalog.Enclosure

/-!
# The walks agree

The climb along the scopes keeps no account of where it has been, and the search below a scope
follows the edges of a graph that is kept beside the entities.  In every catalog that calls build
both compute the steps from a scope to its members, and what lies below a scope falls apart into
what lies below its members.
-/

namespace Exposure.Catalog

variable {c : Catalog} {i j k s : EntityId}

namespace Sound

/-- Below a scope lie its members and what lies below them. -/
theorem mem_membersTransitive_iff_members (h : c.Sound) :
    i ∈ c.membersTransitive s ↔ ∃ m ∈ c.members s, i ∈ m :: c.membersTransitive m := by
  rw [h.mem_membersTransitive, encloses_iff_of_scope]
  simp only [List.mem_cons, h.mem_membersTransitive, h.mem_members]

/-- What lies below two members of one scope is apart. -/
theorem disjoint_of_mem_members (h : c.Sound) (hj : j ∈ c.members s) (hk : k ∈ c.members s)
    (hne : j ≠ k) :
    List.Disjoint (j :: c.membersTransitive j) (k :: c.membersTransitive k) := by
  have hjk := h.not_encloses_of_scope?_eq (h.mem_members.mp hj) (h.mem_members.mp hk)
  have hkj := h.not_encloses_of_scope?_eq (h.mem_members.mp hk) (h.mem_members.mp hj)
  intro i hij hik
  rw [List.mem_cons, h.mem_membersTransitive] at hij hik
  rcases hij with rfl | hij
  · exact hik.elim hne hkj
  · rcases hik with rfl | hik
    · exact hjk hij
    · rcases h.encloses_total hij hik with heq | henc | henc
      · exact hne heq
      · exact hjk henc
      · exact hkj henc

theorem pairwise_disjoint_members (h : c.Sound) (s : EntityId) :
    (c.members s).Pairwise fun j k =>
      List.Disjoint (j :: c.membersTransitive j) (k :: c.membersTransitive k) := by
  refine List.Pairwise.imp_of_mem ?_ (h.sortedLT_members s).nodup
  exact fun hj hk hne => h.disjoint_of_mem_members hj hk hne

end Sound

/-- The climb, the search and the lists of direct members tell the same of what lies in a scope, and
this relation is that of a forest. -/
structure ContainmentAgrees (c : Catalog) : Prop where
  /-- The climb ends. -/
  isMemberOf?_ends : ∀ i s, ∃ b, c.isMemberOf? i s = some b
  mem_membersTransitive_iff : ∀ i s,
    i ∈ c.membersTransitive s ↔ c.isMemberOf? i s = some true
  transGen_members_iff : ∀ i s,
    Relation.TransGen (fun a b => b ∈ c.members a) s i ↔ c.isMemberOf? i s = some true
  membersTransitive_ascending : ∀ s, (c.membersTransitive s).SortedLT
  self_not_mem_membersTransitive : ∀ s, s ∉ c.membersTransitive s
  membersTransitive_parts : ∀ i s,
    i ∈ c.membersTransitive s ↔ ∃ m ∈ c.members s, i ∈ m :: c.membersTransitive m
  parts_disjoint : ∀ s, (c.members s).Pairwise fun j k =>
    List.Disjoint (j :: c.membersTransitive j) (k :: c.membersTransitive k)
  isMemberOf?_irrefl : ∀ i, c.isMemberOf? i i = some false
  isMemberOf?_trans : ∀ i t s,
    c.isMemberOf? i t = some true → c.isMemberOf? t s = some true → c.isMemberOf? i s = some true
  /-- Of two scopes around one entity one lies in the other. -/
  scopes_comparable : ∀ i s t, s ≠ t →
    c.isMemberOf? i s = some true → c.isMemberOf? i t = some true →
      c.isMemberOf? t s = some true ∨ c.isMemberOf? s t = some true

theorem Sound.containmentAgrees (h : c.Sound) : ContainmentAgrees c where
  isMemberOf?_ends i s := by
    obtain ⟨b, hb, -⟩ := h.exists_isMemberOf? i s
    exact ⟨b, hb⟩
  mem_membersTransitive_iff i s := by
    rw [h.mem_membersTransitive, h.isMemberOf?_eq_true_iff]
  transGen_members_iff i s := by
    rw [← h.encloses_iff_transGen_members, h.isMemberOf?_eq_true_iff]
  membersTransitive_ascending := h.sortedLT_membersTransitive
  self_not_mem_membersTransitive s hs :=
    lt_irrefl s (h.lt_of_encloses (h.mem_membersTransitive.mp hs))
  membersTransitive_parts _ _ := h.mem_membersTransitive_iff_members
  parts_disjoint := h.pairwise_disjoint_members
  isMemberOf?_irrefl i := by
    obtain ⟨b, hb, hiff⟩ := h.exists_isMemberOf? i i
    rw [hb, Option.some.injEq, Bool.eq_false_iff, ne_eq, hiff]
    exact fun hi => lt_irrefl i (h.lt_of_encloses hi)
  isMemberOf?_trans i t s := by
    simp only [h.isMemberOf?_eq_true_iff]
    exact fun ht hs => hs.trans ht
  scopes_comparable i s t hne := by
    simp only [h.isMemberOf?_eq_true_iff]
    exact fun hs ht => (h.encloses_total hs ht).resolve_left hne

/-- In every catalog that calls build the climb, the search and the direct members agree. -/
theorem build_containmentAgrees (calls : List Call) : ContainmentAgrees (build calls) :=
  (sound_build calls).containmentAgrees

end Exposure.Catalog
