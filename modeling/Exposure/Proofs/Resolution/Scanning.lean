import Exposure.Proofs.Resolution.Locality

/-!
# Matching by a plain scan

A matcher looks names up, keeps the written names from one rule to the next, searches the graph
below every class that is named and then sorts what it has found and drops what it has found twice.
A plain scan does none of this: it goes through the catalog once and tells of each entity, by its
lineage, whether the rule matches.  Put to any sequence of rules, a matcher answers each of them as
the scan does.
-/

namespace Exposure

variable {c : Catalog} {m : Matcher} {t : Target} {r : Rule} {i : EntityId} {e : Entity}

/-! ## The scan -/

instance (t : Target) (q : QualifiedName) : Decidable (t.Names q) :=
  match t with
  | .exact name => inferInstanceAs (Decidable (q = name))
  | .glob pattern => inferInstanceAs (Decidable (pattern.isMatch q.display = true))

/-- Whether a target names an entity or a class around it. -/
def Target.admits (t : Target) (c : Catalog) (i : EntityId) (e : Entity) : Bool :=
  decide (t.Names e.name) ||
    (c.lineage i).tail.any fun x => x.2 = .classType && decide (t.Names x.1)

/-- Whether a rule matches an entity. -/
def Rule.admits (c : Catalog) (i : EntityId) (e : Entity) : Rule → Bool
  | .defaultDeny => true
  | .expose target | .hide target => target.admits c i e
  | .hideAccess access => e.kind.isMember && e.access = access

/-- The entities that a rule matches, from one walk through the catalog. -/
def Rule.scan (c : Catalog) (r : Rule) : List EntityId :=
  (c.iter.filter fun x => r.admits c x.1 x.2).map Prod.fst

theorem Target.admits_iff (hc : c.Sound) (he : c.get? i = some e) :
    t.admits c i e = true ↔ t.Reaches c i := by
  rw [t.reaches_iff_lineage hc he]
  simp [admits]

namespace Rule

theorem admits_iff (hc : c.Sound) (he : c.get? i = some e) :
    r.admits c i e = true ↔ r.Matches c i := by
  cases r with
  | defaultDeny => simp [admits, Matches]
  | expose t => exact Target.admits_iff hc he
  | hide t => exact Target.admits_iff hc he
  | hideAccess a => simp [admits, Matches, he, EntityKind.isMember_iff]

/-- The scan finds the entities that a rule matches. -/
theorem mem_scan (hc : c.Sound) : i ∈ r.scan c ↔ i < c.size ∧ r.Matches c i := by
  simp only [scan, List.mem_map, List.mem_filter, Prod.exists, Catalog.mem_iter,
    Catalog.lt_size_iff]
  constructor
  · rintro ⟨_, e, ⟨he, hr⟩, rfl⟩
    exact ⟨⟨e, he⟩, (admits_iff hc he).mp hr⟩
  · rintro ⟨⟨e, he⟩, hr⟩
    exact ⟨i, e, ⟨he, (admits_iff hc he).mpr hr⟩, rfl⟩

theorem sortedLT_scan (c : Catalog) (r : Rule) : (r.scan c).SortedLT :=
  c.sortedLT_map_fst_filter_iter fun x => r.admits c x.1 x.2

end Rule

/-! ## One matcher and many rules -/

namespace Matcher

/-- What a matcher answers to one rule after the other. -/
def answers (c : Catalog) : Matcher → List Rule → List (List EntityId)
  | _, [] => []
  | m, r :: rs => (m.matched c r).1 :: answers c (m.matched c r).2 rs

/-- Whatever it has kept, a matcher finds what the scan finds. -/
theorem matched_eq_scan (hc : c.Sound) (hm : m.Faithful c) (r : Rule) :
    (m.matched c r).1 = r.scan c := by
  apply (sortedLT_matched c m r).eq_of_mem_iff (r.sortedLT_scan c)
  intro i
  rw [mem_matched hc hm, Rule.mem_scan hc]

theorem answers_eq_map_scan (hc : c.Sound) (hm : m.Faithful c) (rules : List Rule) :
    answers c m rules = rules.map (Rule.scan c) := by
  -- for any faithful matcher, since every rule leaves one
  induction rules generalizing m with
  | nil => rfl
  | cons r rules ih => rw [answers, matched_eq_scan hc hm, ih (hm.snd_matched r), List.map_cons]

/-- A new matcher answers every rule of a sequence as a scan does. -/
structure AnswersAsScan (c : Catalog) (rules : List Rule) : Prop where
  /-- What the earlier rules have left in the matcher does not matter. -/
  answers_eq : answers c {} rules = rules.map (Rule.scan c)
  /-- The scan finds the entities that the rule matches. -/
  mem_scan_iff : ∀ r ∈ rules, ∀ i, i ∈ r.scan c ↔ i < c.size ∧ r.Matches c i
  /-- The entities come in the order of the catalog, each once. -/
  sortedLT_scan : ∀ r ∈ rules, (r.scan c).SortedLT

/-- Over every catalog that calls build a matcher answers as a scan does, whatever it is put to. -/
theorem answersAsScan_build (calls : List Catalog.Call) (rules : List Rule) :
    AnswersAsScan (Catalog.build calls) rules where
  answers_eq := answers_eq_map_scan (Catalog.sound_build calls) (faithful_new _) rules
  mem_scan_iff _ _ _ := Rule.mem_scan (Catalog.sound_build calls)
  sortedLT_scan r _ := r.sortedLT_scan _

/-- Of two classes that a glob names one lies in the other, and what lies in both is found once. -/
example :
    let c := Catalog.build
      [.add ⟨.top "A", .classType, .notApplicable, none⟩, .addMember 0 "A2" .classType .pub,
        .addMember 1 "run" .method .priv, .add ⟨.top "B", .function, .notApplicable, none⟩]
    answers c {} [.hideAccess .priv, .expose (.glob ⟨"*A*"⟩), .hide (.exact (.top "B"))] =
      [[2], [0, 1, 2], [3]] := by
  intro c
  rw [answers_eq_map_scan (Catalog.sound_build _) (faithful_new _)]
  decide +kernel

end Matcher

end Exposure
