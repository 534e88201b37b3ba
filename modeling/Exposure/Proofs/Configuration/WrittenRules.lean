import Exposure.Configuration.Basic
import Exposure.Proofs.Resolution.Conventional

/-!
# Lists of targets and written rules

The lists of a configuration say the same as one written rule for each of their entries.  The lists
are read target by target, each rule added to the policy before the next target is read, while
written rules are all read first and only then put behind the default.  Both end in the same policy,
and a malformed target makes both fail in the same way, wherever it stands.
-/

namespace Exposure

variable {classes declarations hidden : List String} {hiddenAccess : List Access}
  {entries : List RuleEntry} {r : RuleEntry}

namespace RuleEntry

/-- One entry for each entry of the lists, in the order in which the conventional policy has
them. -/
def ofLists (classes declarations hidden : List String) (hiddenAccess : List Access) :
    List RuleEntry :=
  (classes.map fun s => { expose := some s }) ++ (declarations.map fun s => { expose := some s }) ++
    (hidden.map fun s => { hide := some s }) ++ hiddenAccess.map fun a => { hideAccess := some a }

@[simp] theorem toRule_expose (s : String) :
    toRule { expose := some s } = Rule.parseExpose s := rfl

@[simp] theorem toRule_hide (s : String) : toRule { hide := some s } = Rule.parseHide s := rfl

@[simp] theorem toRule_hideAccess (a : Access) :
    toRule { hideAccess := some a } = .ok (.hideAccess a) := rfl

/-- Only an entry that says so is the default. -/
theorem defaultDeny_of_toRule (h : r.toRule = .ok .defaultDeny) : r.defaultDeny = true := by
  by_contra hr
  have hexpose (s : String) : Rule.parseExpose s ≠ .ok .defaultDeny := by
    unfold Rule.parseExpose
    cases Target.parse s <;> simp [Except.map]
  have hhide (s : String) : Rule.parseHide s ≠ .ok .defaultDeny := by
    unfold Rule.parseHide
    cases Target.parse s <;> simp [Except.map]
  rw [toRule, if_neg hr] at h
  split at h
  · cases h
  · split at h
    · exact hexpose _ h
    · exact hhide _ h
    · cases h
    · cases h

theorem defaultDeny_of_mem_ofLists
    (h : r ∈ ofLists classes declarations hidden hiddenAccess) : r.defaultDeny = false := by
  simp only [ofLists, List.mem_append, List.mem_map] at h
  rcases h with ((⟨s, -, rfl⟩ | ⟨s, -, rfl⟩) | ⟨s, -, rfl⟩) | ⟨a, -, rfl⟩ <;> rfl

end RuleEntry

namespace Policy

/-- The lists are read in the order of their entries, and each rule is put behind the others. -/
theorem conventional_eq_foldlM :
    conventional classes declarations hidden hiddenAccess =
      (RuleEntry.ofLists classes declarations hidden hiddenAccess).foldlM
        (fun p r => p.pushParsed r.toRule) hideAll := by
  have haccess (p : Policy) (as : List Access) :
      as.foldlM (fun p a => p.pushParsed (.ok (.hideAccess a))) p =
        .ok (as.foldl hideAccess p) := by
    induction as generalizing p with
    | nil => rfl
    | cons a as ih => exact ih (p.hideAccess a)
  simp only [conventional, RuleEntry.ofLists, List.foldlM_append, List.foldlM_map, bind_assoc,
    RuleEntry.toRule_expose, RuleEntry.toRule_hide, RuleEntry.toRule_hideAccess, haccess]
  rfl

end Policy

namespace Configuration

/-- Written rules without the default among them are put behind it. -/
theorem policyOfEntries_of_forall_ne (h : ∀ r ∈ entries, r.defaultDeny = false) :
    policyOfEntries entries = (entries.mapM RuleEntry.toRule).map Policy.hideAll.pushAll := by
  rw [policyOfEntries]
  cases hrules : entries.mapM RuleEntry.toRule with
  | error e => rfl
  | ok rules =>
      have hhead : rules.head? ≠ some .defaultDeny := by
        intro hhead
        obtain ⟨r, hr, hdefault⟩ := (mem_of_mapM_eq_ok hrules).mp (List.mem_of_mem_head? hhead)
        have htrue := RuleEntry.defaultDeny_of_toRule hdefault
        rw [h r hr] at htrue
        cases htrue
      have hpolicy : Policy.ofRules (.defaultDeny :: rules) =
          .ok (Policy.hideAll.pushAll rules) := by
        rw [Policy.ofRules_eq_ok_iff, Policy.rules_pushAll, Policy.rules_hideAll]
        rfl
      simp only [bind, Except.bind, Except.map, if_neg hhead, hpolicy]

/-- Whatever else two configurations say, lists in the one and a written rule for each of their
entries in the other make the same policy or fail in the same way. -/
theorem policy_lists_eq_policy_rules (c c' : Configuration)
    (classes declarations hidden : List String) (hiddenAccess : List Access) :
    policy { c with
        classes, declarations, hidden, hiddenAccess := some hiddenAccess, rules := none } =
      policy { c' with
        classes := [], declarations := [], hidden := [], hiddenAccess := none
        rules := some (RuleEntry.ofLists classes declarations hidden hiddenAccess) } := by
  calc
    _ = Policy.conventional classes declarations hidden hiddenAccess := rfl
    _ = ((RuleEntry.ofLists classes declarations hidden hiddenAccess).mapM
          RuleEntry.toRule).map Policy.hideAll.pushAll := by
      rw [Policy.conventional_eq_foldlM, Policy.foldlM_pushParsed]
    _ = policyOfEntries (RuleEntry.ofLists classes declarations hidden hiddenAccess) :=
      (policyOfEntries_of_forall_ne fun _ => RuleEntry.defaultDeny_of_mem_ofLists).symm
    _ = _ := rfl

end Configuration

end Exposure
