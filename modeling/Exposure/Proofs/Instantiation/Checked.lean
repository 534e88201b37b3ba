import Mathlib.Data.List.Basic
import Exposure.Instantiation.Header

/-!
# What the checks of a header accept

A table is checked row by row, then the options by themselves, and the aliases are compared with the
other names of the header last.  This file says of each check what has to hold for it to pass.
-/

namespace Exposure

/-- Arguments that are not blank say something when there are any. -/
theorem all_blank_eq_false_iff {as : List String} (h : ∀ a ∈ as, Text.blank a = false) :
    as.all Text.blank = false ↔ as ≠ [] := by
  cases as with
  | nil => simp
  | cons a as => simp [h a List.mem_cons_self]

/-- Nothing is wrong with a row when it names a template, has arguments, none of them blank, and its
alias is an identifier. -/
theorem Instantiation.fault?_eq_none_iff (r : Instantiation) :
    r.fault? = none ↔
      Text.blank r.generic = false ∧ r.arguments ≠ [] ∧
        (∀ a ∈ r.arguments, Text.blank a = false) ∧ isIdentifier r.aliasName = true := by
  by_cases hargs : ∀ a ∈ r.arguments, Text.blank a = false
  · have hidx : r.arguments.findIdx? Text.blank = none := List.findIdx?_eq_none_iff.mpr hargs
    rw [← all_blank_eq_false_iff hargs, and_iff_right hargs]
    simp only [fault?, hidx]
    cases Text.blank r.generic <;> cases r.arguments.all Text.blank <;> simp
  · have hidx : ∃ i, r.arguments.findIdx? Text.blank = some i := by
      rw [← Option.isSome_iff_exists, ← Option.ne_none_iff_isSome]
      exact fun h => hargs (List.findIdx?_eq_none_iff.mp h)
    obtain ⟨i, hi⟩ := hidx
    simp only [fault?, hi, hargs]
    cases Text.blank r.generic <;> cases r.arguments.all Text.blank <;> simp

namespace InstantiationTable

/-- Rows pass behind others when nothing is wrong with any of them, their aliases are distinct and
none of these is an alias of the others. -/
theorem checkAfter_eq_ok_iff {earlier rs : List Instantiation} :
    checkAfter earlier rs = .ok () ↔
      (∀ r ∈ rs, r.fault? = none) ∧ (rs.map Instantiation.aliasName).Nodup ∧
        ∀ r ∈ rs, ∀ x ∈ earlier, x.aliasName ≠ r.aliasName := by
  induction rs generalizing earlier with
  | nil => simp [checkAfter]
  | cons r rs ih =>
      rw [checkAfter]
      cases hf : r.fault? with
      | some e => simp [hf]
      | none =>
          cases hx : earlier.find? (·.aliasName = r.aliasName) with
          | some x =>
              have hmem := List.mem_of_find?_eq_some hx
              have heq : x.aliasName = r.aliasName := by simpa using List.find?_some hx
              simp only [reduceCtorEq, false_iff]
              rintro ⟨-, -, hne⟩
              exact hne r List.mem_cons_self x hmem heq
          | none =>
              have hne : ∀ x ∈ earlier, x.aliasName ≠ r.aliasName := by simpa using hx
              simp only [ih, List.forall_mem_cons, List.map_cons, List.nodup_cons,
                List.mem_append, List.mem_singleton, or_imp, forall_and, forall_eq, List.mem_map,
                not_exists, not_and, ne_eq]
              constructor
              · rintro ⟨hfault, hnodup, hearlier, hr⟩
                exact ⟨⟨hf, hfault⟩, ⟨fun y hy h => hr y hy h.symm, hnodup⟩, hne, hearlier⟩
              · rintro ⟨⟨-, hfault⟩, ⟨hr, hnodup⟩, -, hearlier⟩
                exact ⟨hfault, hnodup, hearlier, fun y hy h => hr y hy h.symm⟩

/-- A table passes when nothing is wrong with any row and the aliases are distinct. -/
theorem validate_eq_ok_iff (t : InstantiationTable) :
    t.validate = .ok () ↔ (∀ r ∈ t.rows, r.fault? = none) ∧ t.aliases.Nodup := by
  rw [validate, checkAfter_eq_ok_iff]
  simp [aliases]

end InstantiationTable

namespace HeaderOptions

/-- The options pass when the segments of the namespace and the probe function are identifiers. -/
theorem validate_eq_ok_iff (o : HeaderOptions) :
    o.validate = .ok () ↔
      (∀ s ∈ o.scopes, isIdentifier s = true) ∧ isIdentifier o.probeFunction = true := by
  unfold validate
  cases h : o.scopes.find? (! isIdentifier ·) with
  | some bad =>
      have hmem := List.mem_of_find?_eq_some h
      have hbad : isIdentifier bad = false := by simpa using List.find?_some h
      simp only [reduceCtorEq, false_iff]
      rintro ⟨hall, -⟩
      rw [hall bad hmem] at hbad
      cases hbad
  | none =>
      have hall : ∀ s ∈ o.scopes, isIdentifier s = true := by simpa using h
      rw [and_iff_right hall]
      cases isIdentifier o.probeFunction <;> simp

/-- An alias repeats no other name of the header. -/
theorem collision?_eq_none_iff (o : HeaderOptions) (a : String) :
    o.collision? a = none ↔ a ≠ o.probeFunction ∧ a ∉ o.scopes := by
  unfold collision?
  by_cases hp : a = o.probeFunction <;> by_cases hs : a ∈ o.scopes <;> simp [hp, hs]

/-- A table passes with the options when both pass by themselves and no alias is the probe function
or a segment of the namespace. -/
theorem check_eq_ok_iff (o : HeaderOptions) (t : InstantiationTable) :
    o.check t = .ok () ↔
      t.validate = .ok () ∧ o.validate = .ok () ∧
        ∀ a ∈ t.aliases, a ≠ o.probeFunction ∧ a ∉ o.scopes := by
  simp only [check, ← collision?_eq_none_iff, ← List.findSome?_eq_none_iff]
  cases t.validate <;> cases o.validate <;>
    cases t.aliases.findSome? o.collision? <;> simp [bind, Except.bind]

end HeaderOptions

end Exposure
