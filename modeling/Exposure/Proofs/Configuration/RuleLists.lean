import Exposure.Proofs.Configuration.WrittenRules

/-!
# What a list of written rules makes

A list of rules stands alone: a key that would make rules, too, is refused before any rule is read.
The rules are then read in order, and the first that sets no action, several, or a malformed target
is reported.  What is read is the policy, behind one default if the list does not start with one; so
the place of a written rule in the policy is its place in the list, or one more for all of them.
-/

namespace Exposure

variable {r : RuleEntry} {x : Rule} {e : ConfigurationError} {entries : List RuleEntry}

/-! ## Reading lists -/

section Reading

variable {α β ε : Type} {f : α → Except ε β} {xs : List α} {ys : List β} {e : ε}

theorem map_eq_ok_iff {a : Except ε α} {g : α → β} {y : β} :
    a.map g = .ok y ↔ ∃ z, a = .ok z ∧ g z = y := by
  cases a <;> simp [Except.map]

theorem map_eq_error_iff {a : Except ε α} {g : α → β} : a.map g = .error e ↔ a = .error e := by
  cases a <;> simp [Except.map]

theorem mapM_eq_ok_iff_forall₂ :
    xs.mapM f = .ok ys ↔ List.Forall₂ (fun x y => f x = .ok y) xs ys := by
  induction xs generalizing ys with
  | nil => simp [pure, Except.pure, eq_comm]
  | cons x xs ih =>
      rw [mapM_cons_eq_ok_iff, List.forall₂_cons_left_iff]
      constructor
      · rintro ⟨z, zs, hz, hzs, rfl⟩
        exact ⟨z, zs, hz, ih.mp hzs, rfl⟩
      · rintro ⟨z, zs, hz, hzs, rfl⟩
        exact ⟨z, zs, hz, ih.mpr hzs, rfl⟩

/-- A list cannot be read when one of its elements cannot, and the first of these is reported. -/
theorem mapM_eq_error_iff :
    xs.mapM f = .error e ↔
      ∃ front x back, xs = front ++ x :: back ∧ (∀ y ∈ front, ∃ z, f y = .ok z) ∧
        f x = .error e := by
  constructor
  · intro h
    induction xs with
    | nil => cases h
    | cons x xs ih =>
        rw [List.mapM_cons] at h
        cases hx : f x with
        | error e' =>
            rw [hx] at h
            obtain rfl := Except.error.inj h
            exact ⟨[], x, xs, rfl, nofun, hx⟩
        | ok z =>
            rw [hx] at h
            cases hxs : xs.mapM f with
            | error e' =>
                rw [hxs] at h
                obtain rfl := Except.error.inj h
                obtain ⟨front, y, back, rfl, hfront, hy⟩ := ih hxs
                exact ⟨x :: front, y, back, rfl, List.forall_mem_cons.mpr ⟨⟨z, hx⟩, hfront⟩, hy⟩
            | ok zs =>
                rw [hxs] at h
                cases h
  · rintro ⟨front, x, back, rfl, hfront, hx⟩
    obtain ⟨zs, hzs⟩ := exists_mapM_eq_ok_iff.mpr hfront
    rw [List.mapM_append, hzs]
    change ((x :: back).mapM f >>= fun ws => pure (zs ++ ws)) = _
    rw [List.mapM_cons, hx]
    rfl

end Reading

/-- A malformed target is no conflict. -/
theorem Target.parse_ne_conflictingPolicy {s : String} {key : PolicyKey} :
    Target.parse s ≠ .error (.conflictingPolicy key) := by
  intro h
  rw [Target.parse] at h
  by_cases hempty : (Text.trim s).isEmpty = true
  · rw [if_pos hempty] at h
    cases h
  rw [if_neg hempty] at h
  by_cases hglob : (Text.trim s).toList.any Glob.isWildcard = true
  · rw [if_pos hglob, map_eq_error_iff, Glob.ofString] at h
    split_ifs at h
    cases h
  · rw [if_neg hglob] at h
    cases h

/-! ## One entry -/

/-- What an entry may set. -/
inductive RuleAction where
  | defaultDeny
  | expose
  | hide
  | hideAccess
deriving DecidableEq, Repr

/-- The actions in the order in which they are looked for. -/
def RuleAction.all : List RuleAction := [defaultDeny, expose, hide, hideAccess]

theorem RuleAction.mem_all (a : RuleAction) : a ∈ all := by
  cases a <;> simp [all]

namespace RuleEntry

/-- Whether an entry sets an action; the default is set when it is there and true. -/
def sets (r : RuleEntry) : RuleAction → Bool
  | .defaultDeny => r.defaultDeny
  | .expose => r.expose.isSome
  | .hide => r.hide.isSome
  | .hideAccess => r.hideAccess.isSome

theorem actionCount_eq_countP : r.actionCount = RuleAction.all.countP r.sets := by
  rcases r with ⟨_ | _, _ | _, _ | _, _ | _⟩ <;> rfl

theorem actionCount_eq_one_iff : r.actionCount = 1 ↔ ∃! a, r.sets a = true := by
  have hmem (a : RuleAction) : a ∈ RuleAction.all.filter r.sets ↔ r.sets a = true := by
    rw [List.mem_filter, and_iff_right (RuleAction.mem_all a)]
  have hnodup : (RuleAction.all.filter r.sets).Nodup :=
    List.Nodup.filter _ (by simp [RuleAction.all])
  rw [actionCount_eq_countP, List.countP_eq_length_filter, List.length_eq_one_iff]
  constructor
  · rintro ⟨a, ha⟩
    simp only [← hmem, ha, List.mem_singleton]
    exact ⟨a, rfl, fun b hb => hb⟩
  · rintro ⟨a, ha, hone⟩
    refine ⟨a, List.perm_singleton.mp ?_⟩
    rw [List.perm_ext_iff_of_nodup hnodup (List.nodup_singleton a)]
    intro b
    rw [hmem, List.mem_singleton]
    exact ⟨hone b, fun h => h ▸ ha⟩

/-- An entry that sets one action sets nothing else. -/
theorem eq_of_existsUnique_sets (h : ∃! a, r.sets a = true) :
    r = { defaultDeny := true } ∨ (∃ s, r = { expose := some s }) ∨
      (∃ s, r = { hide := some s }) ∨ ∃ a, r = { hideAccess := some a } := by
  rw [← actionCount_eq_one_iff] at h
  rcases r with ⟨_ | _, _ | _, _ | _, _ | _⟩ <;> simp [actionCount] at h ⊢

/-- The rule that an entry with one action stands for. -/
inductive Means : RuleEntry → Rule → Prop where
  | defaultDeny : Means { defaultDeny := true } .defaultDeny
  | expose {s : String} {t : Target} (ht : Target.parse s = .ok t) :
      Means { expose := some s } (.expose t)
  | hide {s : String} {t : Target} (ht : Target.parse s = .ok t) :
      Means { hide := some s } (.hide t)
  | hideAccess (a : Access) : Means { hideAccess := some a } (.hideAccess a)

/-- What is wrong with an entry: it sets no action or several, or its target is malformed. -/
inductive HasFault : RuleEntry → ConfigurationError → Prop where
  | actions {r : RuleEntry} (hactions : ¬ ∃! a, r.sets a = true) :
      HasFault r (.invalid .ruleActions)
  | expose {s : String} {e : ConfigurationError} (he : Target.parse s = .error e) :
      HasFault { expose := some s } e
  | hide {s : String} {e : ConfigurationError} (he : Target.parse s = .error e) :
      HasFault { hide := some s } e

theorem toRule_of_not_existsUnique_sets (h : ¬ ∃! a, r.sets a = true) :
    r.toRule = .error (.invalid .ruleActions) := by
  rw [toRule, if_pos (mt actionCount_eq_one_iff.mp h)]

/-- An entry is read as what it means. -/
theorem toRule_eq_ok_iff : r.toRule = .ok x ↔ r.Means x := by
  constructor
  · intro h
    have hone : ∃! a, r.sets a = true := by
      by_contra hactions
      rw [toRule_of_not_existsUnique_sets hactions] at h
      cases h
    obtain rfl | ⟨s, rfl⟩ | ⟨s, rfl⟩ | ⟨a, rfl⟩ := eq_of_existsUnique_sets hone
    · cases h
      exact .defaultDeny
    · rw [toRule_expose, Rule.parseExpose, map_eq_ok_iff] at h
      obtain ⟨t, ht, rfl⟩ := h
      exact .expose ht
    · rw [toRule_hide, Rule.parseHide, map_eq_ok_iff] at h
      obtain ⟨t, ht, rfl⟩ := h
      exact .hide ht
    · cases h
      exact .hideAccess a
  · rintro (_ | ht | ht | a)
    · rfl
    · rw [toRule_expose, Rule.parseExpose, map_eq_ok_iff]
      exact ⟨_, ht, rfl⟩
    · rw [toRule_hide, Rule.parseHide, map_eq_ok_iff]
      exact ⟨_, ht, rfl⟩
    · rfl

/-- An entry that cannot be read is refused for what is wrong with it. -/
theorem toRule_eq_error_iff : r.toRule = .error e ↔ r.HasFault e := by
  constructor
  · intro h
    by_cases hone : ∃! a, r.sets a = true
    · obtain rfl | ⟨s, rfl⟩ | ⟨s, rfl⟩ | ⟨a, rfl⟩ := eq_of_existsUnique_sets hone
      · cases h
      · rw [toRule_expose, Rule.parseExpose, map_eq_error_iff] at h
        exact .expose h
      · rw [toRule_hide, Rule.parseHide, map_eq_error_iff] at h
        exact .hide h
      · cases h
    · rw [toRule_of_not_existsUnique_sets hone] at h
      obtain rfl := Except.error.inj h
      exact .actions hone
  · rintro (hactions | he | he)
    · exact toRule_of_not_existsUnique_sets hactions
    · rwa [toRule_expose, Rule.parseExpose, map_eq_error_iff]
    · rwa [toRule_hide, Rule.parseHide, map_eq_error_iff]

theorem means_defaultDeny_iff (h : r.Means x) : x = .defaultDeny ↔ r.defaultDeny = true := by
  cases h <;> simp

theorem mapM_toRule_eq_ok_iff {rules : List Rule} :
    entries.mapM toRule = .ok rules ↔ List.Forall₂ Means entries rules := by
  simp only [mapM_eq_ok_iff_forall₂, toRule_eq_ok_iff]

/-- What is wrong with an entry is no conflict. -/
theorem not_hasFault_conflictingPolicy {key : PolicyKey} :
    ¬ r.HasFault (.conflictingPolicy key) := by
  intro h
  cases h with
  | expose he => exact Target.parse_ne_conflictingPolicy he
  | hide he => exact Target.parse_ne_conflictingPolicy he

end RuleEntry

/-! ## All entries -/

theorem Policy.eq_of_rules_eq {p q : Policy} (h : p.rules = q.rules) : p = q := by
  have hp := (Policy.ofRules_eq_ok_iff p.rules p).mpr rfl
  have hq := (Policy.ofRules_eq_ok_iff p.rules q).mpr h
  exact Except.ok.inj (hp.symm.trans hq)

namespace Configuration

variable {c : Configuration} {key : PolicyKey} {p : Policy}

/-- How many defaults stand in front of written rules in their policy: one, or none when the first
rule is the default. -/
def defaultsBefore (entries : List RuleEntry) : Nat :=
  if entries.head?.any RuleEntry.defaultDeny then 0 else 1

/-- The key that a list of rules may not stand beside; the keys are looked at in this order. -/
inductive ConflictsWith (c : Configuration) : PolicyKey → Prop where
  | expose (hexpose : c.classes ≠ [] ∨ c.declarations ≠ []) : ConflictsWith c .expose
  | hide (hclasses : c.classes = []) (hdeclarations : c.declarations = []) (hhide : c.hidden ≠ []) :
      ConflictsWith c .hide
  | hideAccess (hclasses : c.classes = []) (hdeclarations : c.declarations = [])
      (hhide : c.hidden = []) (hhideAccess : c.hiddenAccess.isSome = true) :
      ConflictsWith c .hideAccess

/-- No rules but the written ones are asked for. -/
structure RulesAlone (c : Configuration) : Prop where
  classes_eq : c.classes = []
  declarations_eq : c.declarations = []
  hidden_eq : c.hidden = []
  hiddenAccess_eq : c.hiddenAccess = none

theorem exists_conflictsWith_iff :
    (∃ key, c.ConflictsWith key) ↔
      c.classes ≠ [] ∨ c.declarations ≠ [] ∨ c.hidden ≠ [] ∨ c.hiddenAccess.isSome = true := by
  constructor
  · rintro ⟨key, hexpose | ⟨-, -, hhide⟩ | ⟨-, -, -, hhideAccess⟩⟩
    · exact hexpose.imp_right .inl
    · exact .inr (.inr (.inl hhide))
    · exact .inr (.inr (.inr hhideAccess))
  · intro h
    by_cases hexpose : c.classes ≠ [] ∨ c.declarations ≠ []
    · exact ⟨_, .expose hexpose⟩
    · obtain ⟨hclasses, hdeclarations⟩ := not_or.mp hexpose
      rw [not_not] at hclasses hdeclarations
      by_cases hhide : c.hidden = []
      · have hhideAccess : c.hiddenAccess.isSome = true := by
          simpa [hclasses, hdeclarations, hhide] using h
        exact ⟨_, .hideAccess hclasses hdeclarations hhide hhideAccess⟩
      · exact ⟨_, .hide hclasses hdeclarations hhide⟩

theorem conflict?_eq_some_iff : c.conflict? = some key ↔ c.ConflictsWith key := by
  simp only [conflict?, Bool.or_eq_true, Bool.not_eq_true', List.isEmpty_eq_false_iff]
  constructor
  · intro h
    split_ifs at h with hexpose hhide hhideAccess
    · cases h
      exact .expose hexpose
    · cases h
      obtain ⟨hclasses, hdeclarations⟩ := not_or.mp hexpose
      exact .hide (not_not.mp hclasses) (not_not.mp hdeclarations) hhide
    · cases h
      obtain ⟨hclasses, hdeclarations⟩ := not_or.mp hexpose
      exact .hideAccess (not_not.mp hclasses) (not_not.mp hdeclarations) (not_not.mp hhide)
        hhideAccess
  · rintro (hexpose | ⟨hclasses, hdeclarations, hhide⟩ |
      ⟨hclasses, hdeclarations, hhide, hhideAccess⟩)
    · rw [if_pos hexpose]
    · rw [if_neg (by simp [hclasses, hdeclarations]), if_pos hhide]
    · rw [if_neg (by simp [hclasses, hdeclarations]), if_neg (by simp [hhide]), if_pos hhideAccess]

theorem RulesAlone.not_conflictsWith (h : c.RulesAlone) : ¬ c.ConflictsWith key := by
  intro hconflict
  have hkeys := exists_conflictsWith_iff.mp ⟨key, hconflict⟩
  simp [h.classes_eq, h.declarations_eq, h.hidden_eq, h.hiddenAccess_eq] at hkeys

theorem exists_conflictsWith_or_rulesAlone (c : Configuration) :
    (∃ key, c.ConflictsWith key) ∨ c.RulesAlone := by
  rw [exists_conflictsWith_iff]
  by_cases h : c.classes ≠ [] ∨ c.declarations ≠ [] ∨ c.hidden ≠ [] ∨ c.hiddenAccess.isSome = true
  · exact .inl h
  · simp only [not_or, not_not, Bool.not_eq_true, Option.isSome_eq_false_iff,
      Option.isNone_iff_eq_none] at h
    exact .inr ⟨h.1, h.2.1, h.2.2.1, h.2.2.2⟩

/-! ## The entries -/

/-- The rules start with the default when the entries do. -/
theorem head?_rules_iff {rules : List Rule} (h : List.Forall₂ RuleEntry.Means entries rules) :
    rules.head? = some .defaultDeny ↔ entries.head?.any RuleEntry.defaultDeny = true := by
  cases h with
  | nil => simp
  | cons hhead _ =>
      rw [List.head?_cons, List.head?_cons, Option.some_inj, Option.any_some,
        RuleEntry.means_defaultDeny_iff hhead]

/-- Entries that can all be read make a policy of their rules. -/
theorem exists_policyOfEntries_eq_ok {rules : List Rule}
    (h : List.Forall₂ RuleEntry.Means entries rules) :
    ∃ p, policyOfEntries entries = .ok p ∧
      p.rules = List.replicate (defaultsBefore entries) .defaultDeny ++ rules := by
  have hentries : policyOfEntries entries =
      if rules.head? = some .defaultDeny then Policy.ofRules rules
      else Policy.ofRules (.defaultDeny :: rules) := by
    rw [policyOfEntries, RuleEntry.mapM_toRule_eq_ok_iff.mpr h]
    rfl
  by_cases hhead : rules.head? = some .defaultDeny
  · refine ⟨⟨rules, hhead⟩, ?_, ?_⟩
    · rw [hentries, if_pos hhead, Policy.ofRules_eq_ok_iff]
    · rw [defaultsBefore, if_pos ((head?_rules_iff h).mp hhead)]
      rfl
  · refine ⟨⟨.defaultDeny :: rules, rfl⟩, ?_, ?_⟩
    · rw [hentries, if_neg hhead, Policy.ofRules_eq_ok_iff]
    · rw [defaultsBefore, if_neg (mt (head?_rules_iff h).mpr hhead)]
      rfl

theorem policyOfEntries_of_mapM_eq_error (h : entries.mapM RuleEntry.toRule = .error e) :
    policyOfEntries entries = .error e := by
  rw [policyOfEntries, h]
  rfl

/-- Entries are refused for the first that cannot be read. -/
theorem policyOfEntries_eq_error_iff :
    policyOfEntries entries = .error e ↔
      ∃ front r back, entries = front ++ r :: back ∧ (∀ x ∈ front, ∃ rule, x.Means rule) ∧
        r.HasFault e := by
  have hread : policyOfEntries entries = .error e ↔
      entries.mapM RuleEntry.toRule = .error e := by
    refine ⟨fun h => ?_, policyOfEntries_of_mapM_eq_error⟩
    cases hrules : entries.mapM RuleEntry.toRule with
    | error e' =>
        obtain rfl := Except.error.inj ((policyOfEntries_of_mapM_eq_error hrules).symm.trans h)
        rfl
    | ok rules =>
        obtain ⟨p, hp, -⟩ :=
          exists_policyOfEntries_eq_ok (RuleEntry.mapM_toRule_eq_ok_iff.mp hrules)
        rw [hp] at h
        cases h
  rw [hread, mapM_eq_error_iff]
  simp only [RuleEntry.toRule_eq_ok_iff, RuleEntry.toRule_eq_error_iff]

theorem policyOfEntries_eq_ok_iff :
    policyOfEntries entries = .ok p ↔
      ∃ rules, List.Forall₂ RuleEntry.Means entries rules ∧
        p.rules = List.replicate (defaultsBefore entries) .defaultDeny ++ rules := by
  constructor
  · intro h
    cases hrules : entries.mapM RuleEntry.toRule with
    | error e =>
        rw [policyOfEntries_of_mapM_eq_error hrules] at h
        cases h
    | ok rules =>
        have hmeans := RuleEntry.mapM_toRule_eq_ok_iff.mp hrules
        obtain ⟨q, hq, hrules⟩ := exists_policyOfEntries_eq_ok hmeans
        obtain rfl := Except.ok.inj (h.symm.trans hq)
        exact ⟨rules, hmeans, hrules⟩
  · rintro ⟨rules, hmeans, hrules⟩
    obtain ⟨q, hq, hrules'⟩ := exists_policyOfEntries_eq_ok hmeans
    rw [hq, Policy.eq_of_rules_eq (hrules'.trans hrules.symm)]

/-- Entries make a policy when all of them can be read. -/
theorem exists_policyOfEntries_iff :
    (∃ p, policyOfEntries entries = .ok p) ↔ ∀ r ∈ entries, ∃ rule, r.Means rule := by
  simp only [← RuleEntry.toRule_eq_ok_iff, ← exists_mapM_eq_ok_iff]
  constructor
  · rintro ⟨p, hp⟩
    obtain ⟨rules, hmeans, -⟩ := policyOfEntries_eq_ok_iff.mp hp
    exact ⟨rules, RuleEntry.mapM_toRule_eq_ok_iff.mpr hmeans⟩
  · rintro ⟨rules, hrules⟩
    obtain ⟨p, hp, -⟩ := exists_policyOfEntries_eq_ok (RuleEntry.mapM_toRule_eq_ok_iff.mp hrules)
    exact ⟨p, hp⟩

/-- The written rules keep their order, and all of them are moved by the same number of places. -/
theorem get?_of_policyOfEntries_eq_ok (h : policyOfEntries entries = .ok p) :
    p.size = entries.length + defaultsBefore entries ∧
      ∀ n r, entries[n]? = some r →
        ∃ rule, r.Means rule ∧ p.get? (n + defaultsBefore entries) = some rule := by
  obtain ⟨rules, hmeans, hrules⟩ := policyOfEntries_eq_ok_iff.mp h
  refine ⟨?_, fun n r hr => ?_⟩
  · rw [Policy.size, hrules, List.length_append, List.length_replicate, hmeans.length_eq,
      Nat.add_comm]
  · have hget : p.get? (n + defaultsBefore entries) = rules[n]? := by
      rw [Policy.get?, hrules, List.getElem?_append_right (by simp), List.length_replicate,
        Nat.add_sub_cancel]
    obtain ⟨hlt, rfl⟩ := List.getElem?_eq_some_iff.mp hr
    have hlt' : n < rules.length := hmeans.length_eq ▸ hlt
    exact ⟨rules[n], hmeans.get hlt hlt', hget.trans (List.getElem?_eq_getElem hlt')⟩

/-! ## The policy of a list of rules -/

/-- Nothing of a list of rules is lost: it is refused for a key beside it, or for its first rule
that cannot be read, and otherwise it is the policy, behind a default if it does not start with
one. -/
structure KeepsRules (c : Configuration) (entries : List RuleEntry) : Prop where
  exists_conflict_iff :
    (∃ key, policy { c with rules := some entries } = .error (.conflictingPolicy key)) ↔
      c.classes ≠ [] ∨ c.declarations ≠ [] ∨ c.hidden ≠ [] ∨ c.hiddenAccess.isSome = true
  /-- The keys are looked at in their order, and whatever the rules are. -/
  conflict_iff : ∀ key,
    policy { c with rules := some entries } = .error (.conflictingPolicy key) ↔ c.ConflictsWith key
  error_iff : c.RulesAlone → ∀ e, policy { c with rules := some entries } = .error e ↔
    ∃ front r back, entries = front ++ r :: back ∧ (∀ x ∈ front, ∃ rule, x.Means rule) ∧
      r.HasFault e
  exists_ok_iff : (∃ p, policy { c with rules := some entries } = .ok p) ↔
    c.RulesAlone ∧ ∀ r ∈ entries, ∃ rule, r.Means rule
  ok_iff : ∀ p, policy { c with rules := some entries } = .ok p ↔
    c.RulesAlone ∧ ∃ rules, List.Forall₂ RuleEntry.Means entries rules ∧
      p.rules = List.replicate (defaultsBefore entries) .defaultDeny ++ rules
  /-- The first rule is the default, and the others have the places of their entries, moved by the
  number of defaults in front of them. -/
  get?_eq : ∀ p, policy { c with rules := some entries } = .ok p →
    p.get? 0 = some .defaultDeny ∧ p.size = entries.length + defaultsBefore entries ∧
      ∀ n r, entries[n]? = some r →
        ∃ rule, r.Means rule ∧ p.get? (n + defaultsBefore entries) = some rule

theorem policy_of_conflictsWith (h : c.ConflictsWith key) :
    policy { c with rules := some entries } = .error (.conflictingPolicy key) := by
  have hconflict : conflict? { c with rules := some entries } = c.conflict? := rfl
  simp only [policy, hconflict, conflict?_eq_some_iff.mpr h]

theorem policy_of_rulesAlone (h : c.RulesAlone) :
    policy { c with rules := some entries } = policyOfEntries entries := by
  have hconflict : conflict? { c with rules := some entries } = c.conflict? := rfl
  have hnone : c.conflict? = none := by
    rw [Option.eq_none_iff_forall_ne_some]
    exact fun key hkey => h.not_conflictsWith (conflict?_eq_some_iff.mp hkey)
  simp only [policy, hconflict, hnone]

theorem policy_eq_conflictingPolicy_iff :
    policy { c with rules := some entries } = .error (.conflictingPolicy key) ↔
      c.ConflictsWith key := by
  refine ⟨fun h => ?_, policy_of_conflictsWith⟩
  obtain ⟨key', hconflict⟩ | halone := c.exists_conflictsWith_or_rulesAlone
  · rw [policy_of_conflictsWith hconflict] at h
    cases h
    exact hconflict
  · rw [policy_of_rulesAlone halone, policyOfEntries_eq_error_iff] at h
    obtain ⟨-, r, -, -, -, hr⟩ := h
    exact (RuleEntry.not_hasFault_conflictingPolicy hr).elim

theorem policy_eq_ok_iff :
    policy { c with rules := some entries } = .ok p ↔
      c.RulesAlone ∧ policyOfEntries entries = .ok p := by
  obtain ⟨key, hconflict⟩ | halone := c.exists_conflictsWith_or_rulesAlone
  · rw [policy_of_conflictsWith hconflict]
    exact iff_of_false nofun fun h => h.1.not_conflictsWith hconflict
  · rw [policy_of_rulesAlone halone, and_iff_right halone]

theorem policy_keepsRules (c : Configuration) (entries : List RuleEntry) :
    KeepsRules c entries where
  exists_conflict_iff := by
    simp only [policy_eq_conflictingPolicy_iff, exists_conflictsWith_iff]
  conflict_iff _ := policy_eq_conflictingPolicy_iff
  error_iff halone e := by
    rw [policy_of_rulesAlone halone, policyOfEntries_eq_error_iff]
  exists_ok_iff := by
    simp only [policy_eq_ok_iff, exists_and_left, exists_policyOfEntries_iff]
  ok_iff p := by
    rw [policy_eq_ok_iff, policyOfEntries_eq_ok_iff]
  get?_eq p hp := by
    obtain ⟨-, hentries⟩ := policy_eq_ok_iff.mp hp
    exact ⟨p.getElem?_rules_zero, get?_of_policyOfEntries_eq_ok hentries⟩

/-- A default behind the first rule is kept, and it does not replace the one in front. -/
example :
    (policy { rules := some [{ hideAccess := some .priv }, { defaultDeny := true }] }).map
        Policy.rules =
      .ok [.defaultDeny, .hideAccess .priv, .defaultDeny] := by
  rfl

end Configuration

end Exposure
