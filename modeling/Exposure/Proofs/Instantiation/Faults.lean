import Mathlib.Order.Bounds.Basic
import Exposure.Proofs.Instantiation.Checked

/-!
# Which fault of a table is reported

A table is refused for its first row that does not fit behind the rows in front of it, and for the
first check that this row fails.  The rows in front passed, so their aliases are distinct, and a row
can repeat the alias of only one of them.
-/

namespace Exposure

variable {s : String} {c : Char} {r x : Instantiation} {earlier rs rs' : List Instantiation}
  {e : ConfigurationError} {i position : Nat}

/-! ## Identifiers -/

/-- A letter of the basic Latin alphabet or the low line. -/
def IsLetter (c : Char) : Prop :=
  ('A' ≤ c ∧ c ≤ 'Z') ∨ ('a' ≤ c ∧ c ≤ 'z') ∨ c = '_'

/-- A letter, followed by letters and digits. -/
def Identifier (s : String) : Prop :=
  ∃ c cs, s.toList = c :: cs ∧ IsLetter c ∧ ∀ x ∈ cs, IsLetter x ∨ ('0' ≤ x ∧ x ≤ '9')

theorem isIdentifierStart_iff : isIdentifierStart c = true ↔ IsLetter c := by
  have hstart : isIdentifierStart c =
      (decide ('A' ≤ c ∧ c ≤ 'Z') || (decide ('a' ≤ c) && decide (c ≤ 'z')) || decide (c = '_')) :=
    rfl
  simp only [hstart, IsLetter, Bool.or_eq_true, Bool.and_eq_true, decide_eq_true_eq, or_assoc]

theorem isIdentifierRest_iff :
    isIdentifierRest c = true ↔ IsLetter c ∨ ('0' ≤ c ∧ c ≤ '9') := by
  have hrest : isIdentifierRest c = true ↔ isIdentifierStart c = true ∨ c.isDigit = true := by
    simp only [isIdentifierRest, isIdentifierStart, Char.isAlphanum, Bool.or_eq_true]
    exact or_right_comm
  rw [hrest, isIdentifierStart_iff]
  simp [Char.isDigit, Char.le_def]

theorem isIdentifier_iff : isIdentifier s = true ↔ Identifier s := by
  unfold isIdentifier Identifier
  cases s.toList with
  | nil => simp
  | cons c cs =>
      simp [isIdentifierStart_iff, isIdentifierRest_iff]

/-! ## One row -/

/-- The place that a search finds is the least one. -/
theorem findIdx?_eq_some_iff_isLeast {α : Type} {p : α → Bool} {as : List α} :
    as.findIdx? p = some position ↔
      IsLeast {i | ∃ a, as[i]? = some a ∧ p a = true} position := by
  rw [List.findIdx?_eq_some_iff_getElem]
  constructor
  · rintro ⟨hlt, hp, hbefore⟩
    refine ⟨⟨as[position], List.getElem?_eq_getElem hlt, hp⟩, ?_⟩
    rintro i ⟨a, ha, hpa⟩
    obtain ⟨hi, rfl⟩ := List.getElem?_eq_some_iff.mp ha
    exact not_lt.mp fun hlt' => hbefore i hlt' hpa
  · rintro ⟨⟨a, ha, hpa⟩, hleast⟩
    obtain ⟨hlt, rfl⟩ := List.getElem?_eq_some_iff.mp ha
    refine ⟨hlt, hpa, fun j hj hpj => ?_⟩
    exact absurd (hleast ⟨_, List.getElem?_eq_getElem (hj.trans hlt), hpj⟩) (not_le.mpr hj)

namespace Instantiation

/-- A row in order: it names a template, has arguments, none of them blank, and its alias is an
identifier. -/
structure WellFormed (r : Instantiation) : Prop where
  generic_not_blank : Text.blank r.generic = false
  arguments_ne_nil : r.arguments ≠ []
  arguments_not_blank : ∀ a ∈ r.arguments, Text.blank a = false
  identifier : Identifier r.aliasName

theorem fault?_eq_none_iff_wellFormed : r.fault? = none ↔ r.WellFormed := by
  rw [fault?_eq_none_iff, isIdentifier_iff]
  constructor
  · rintro ⟨hgeneric, hne, hargs, halias⟩
    exact ⟨hgeneric, hne, hargs, halias⟩
  · rintro ⟨hgeneric, hne, hargs, halias⟩
    exact ⟨hgeneric, hne, hargs, halias⟩

/-- What is wrong with a row by itself: the first check that fails. -/
inductive HasFault (r : Instantiation) : ConfigurationError → Prop where
  | missingGeneric (hgeneric : Text.blank r.generic = true) :
      HasFault r (.missingGeneric r.aliasName)
  | emptyArgumentList (hgeneric : Text.blank r.generic = false)
      (hargs : ∀ a ∈ r.arguments, Text.blank a = true) :
      HasFault r (.emptyArgumentList r.generic r.aliasName)
  | blankArgument {position : Nat} (hgeneric : Text.blank r.generic = false)
      (hargs : ∃ a ∈ r.arguments, Text.blank a = false)
      (hposition : IsLeast {i | ∃ a, r.arguments[i]? = some a ∧ Text.blank a = true} position) :
      HasFault r (.blankArgument r.generic r.aliasName position)
  | invalidAlias (hgeneric : Text.blank r.generic = false) (hne : r.arguments ≠ [])
      (hargs : ∀ a ∈ r.arguments, Text.blank a = false) (halias : ¬ Identifier r.aliasName) :
      HasFault r (.invalidAlias r.aliasName)

theorem HasFault.fault?_eq_some (h : r.HasFault e) : r.fault? = some e := by
  unfold fault?
  cases h with
  | missingGeneric hgeneric => rw [if_pos hgeneric]
  | emptyArgumentList hgeneric hargs =>
      rw [hgeneric, if_neg Bool.false_ne_true, if_pos (List.all_eq_true.mpr hargs)]
  | blankArgument hgeneric hargs hposition =>
      have hall : ¬ r.arguments.all Text.blank = true := by simpa using hargs
      rw [hgeneric, if_neg Bool.false_ne_true, if_neg hall,
        findIdx?_eq_some_iff_isLeast.mpr hposition]
  | invalidAlias hgeneric hne hargs halias =>
      rw [← isIdentifier_iff] at halias
      rw [hgeneric, (all_blank_eq_false_iff hargs).mpr hne, if_neg Bool.false_ne_true,
        if_neg Bool.false_ne_true, List.findIdx?_eq_none_iff.mpr hargs]
      exact if_neg halias

theorem hasFault_of_fault?_eq_some (h : r.fault? = some e) : r.HasFault e := by
  unfold fault? at h
  by_cases hgeneric : Text.blank r.generic = true
  · rw [if_pos hgeneric] at h
    obtain rfl := Option.some.inj h
    exact .missingGeneric hgeneric
  rw [if_neg hgeneric] at h
  rw [Bool.not_eq_true] at hgeneric
  by_cases hargs : ∀ a ∈ r.arguments, Text.blank a = true
  · rw [if_pos (List.all_eq_true.mpr hargs)] at h
    obtain rfl := Option.some.inj h
    exact .emptyArgumentList hgeneric hargs
  rw [if_neg (mt List.all_eq_true.mp hargs)] at h
  have hsome : ∃ a ∈ r.arguments, Text.blank a = false := by simpa using hargs
  cases hposition : r.arguments.findIdx? Text.blank with
  | some position =>
      simp only [hposition] at h
      obtain rfl := Option.some.inj h
      exact .blankArgument hgeneric hsome (findIdx?_eq_some_iff_isLeast.mp hposition)
  | none =>
      simp only [hposition] at h
      obtain ⟨a, ha, -⟩ := hsome
      by_cases halias : isIdentifier r.aliasName = true
      · rw [if_pos halias] at h
        cases h
      · rw [if_neg halias] at h
        obtain rfl := Option.some.inj h
        exact .invalidAlias hgeneric (List.ne_nil_of_mem ha)
          (List.findIdx?_eq_none_iff.mp hposition) (mt isIdentifier_iff.mpr halias)

/-- The fault of a row is the first check that fails. -/
theorem fault?_eq_some_iff : r.fault? = some e ↔ r.HasFault e :=
  ⟨hasFault_of_fault?_eq_some, HasFault.fault?_eq_some⟩

theorem HasFault.not_wellFormed (h : r.HasFault e) : ¬ r.WellFormed := by
  rw [← fault?_eq_none_iff_wellFormed, h.fault?_eq_some]
  exact Option.some_ne_none e

/-- What is wrong with a row behind the listed ones.  Its alias is compared last, with the one row
that has it, too. -/
inductive FaultAfter (earlier : List Instantiation) (r : Instantiation) :
    ConfigurationError → Prop where
  | alone {e : ConfigurationError} (hfault : r.HasFault e) : FaultAfter earlier r e
  | duplicateAlias {x : Instantiation} (hrow : r.WellFormed)
      (hx : earlier.filter (·.aliasName = r.aliasName) = [x]) :
      FaultAfter earlier r (.duplicateAlias r.aliasName x.generic r.generic)

end Instantiation

namespace InstantiationTable

/-- Among rows with distinct aliases the first with an alias is the only one. -/
theorem find?_eq_some_iff_filter {a : String}
    (h : (earlier.map Instantiation.aliasName).Nodup) :
    earlier.find? (·.aliasName = a) = some x ↔ earlier.filter (·.aliasName = a) = [x] := by
  constructor
  · intro hx
    obtain ⟨hname, front, back, rfl, hfront⟩ := List.find?_eq_some_iff_append.mp hx
    refine List.filter_eq_cons_iff.mpr ⟨front, back, rfl, by simpa using hfront, hname, ?_⟩
    rw [decide_eq_true_eq] at hname
    rw [List.map_append, List.map_cons] at h
    have hback := (List.nodup_cons.mp (List.nodup_append.mp h).2.1).1
    rw [List.filter_eq_nil_iff]
    rintro y hy hsame
    rw [decide_eq_true_eq] at hsame
    exact hback (List.mem_map.mpr ⟨y, hy, hsame.trans hname.symm⟩)
  · intro hx
    rw [← List.head?_filter, hx, List.head?_cons]

/-- Rows are checked behind all rows in front of them. -/
theorem checkAfter_append :
    checkAfter earlier (rs ++ rs') =
      checkAfter earlier rs >>= fun _ => checkAfter (earlier ++ rs) rs' := by
  induction rs generalizing earlier with
  | nil =>
      rw [List.nil_append, List.append_nil]
      rfl
  | cons r rs ih =>
      rw [List.cons_append, checkAfter, checkAfter]
      cases r.fault? with
      | some e => rfl
      | none =>
          cases earlier.find? (·.aliasName = r.aliasName) with
          | some x => rfl
          | none =>
              change checkAfter (earlier ++ [r]) (rs ++ rs') = _
              rw [ih, List.append_assoc, List.singleton_append]

/-- One row is refused for what is wrong with it behind rows that passed. -/
theorem checkAfter_singleton_eq_error_iff (h : (earlier.map Instantiation.aliasName).Nodup) :
    checkAfter earlier [r] = .error e ↔ r.FaultAfter earlier e := by
  rw [checkAfter]
  constructor
  · intro he
    cases hfault : r.fault? with
    | some e' =>
        rw [hfault] at he
        obtain rfl := Except.error.inj he
        exact .alone (Instantiation.fault?_eq_some_iff.mp hfault)
    | none =>
        rw [hfault] at he
        cases hfind : earlier.find? (·.aliasName = r.aliasName) with
        | some x =>
            simp only [hfind] at he
            obtain rfl := Except.error.inj he
            exact .duplicateAlias (Instantiation.fault?_eq_none_iff_wellFormed.mp hfault)
              ((find?_eq_some_iff_filter h).mp hfind)
        | none =>
            simp only [hfind] at he
            cases he
  · rintro (hfault | ⟨hrow, hx⟩)
    · rw [Instantiation.fault?_eq_some_iff.mpr hfault]
    · simp only [Instantiation.fault?_eq_none_iff_wellFormed.mpr hrow,
        (find?_eq_some_iff_filter h).mpr hx]

/-- Rows are refused for the first that does not pass behind those in front of it. -/
theorem checkAfter_eq_error_iff :
    checkAfter earlier rs = .error e ↔
      ∃ front r back, rs = front ++ r :: back ∧ checkAfter earlier front = .ok () ∧
        checkAfter (earlier ++ front) [r] = .error e := by
  constructor
  · intro h
    induction rs generalizing earlier with
    | nil => cases h
    | cons r rs ih =>
        rw [← List.singleton_append, checkAfter_append] at h
        cases hr : checkAfter earlier [r] with
        | error e' =>
            rw [hr] at h
            obtain rfl := Except.error.inj h
            exact ⟨[], r, rs, rfl, rfl, by rwa [List.append_nil]⟩
        | ok u =>
            rw [hr] at h
            obtain ⟨front, x, back, rfl, hfront, hx⟩ := ih h
            refine ⟨r :: front, x, back, rfl, ?_, by rwa [List.append_assoc] at hx⟩
            rw [← List.singleton_append, checkAfter_append, hr]
            exact hfront
  · rintro ⟨front, r, back, rfl, hfront, hr⟩
    rw [checkAfter_append, hfront]
    change checkAfter (earlier ++ front) (r :: back) = _
    rw [← List.singleton_append, checkAfter_append, hr]
    rfl

/-! ## All rows -/

variable {t : InstantiationTable}

/-- The row at a place is not in order, or it has the alias of an earlier one. -/
def Breaks (t : InstantiationTable) (i : Nat) : Prop :=
  ∃ r, t.rows[i]? = some r ∧
    (¬ r.WellFormed ∨ ∃ x ∈ t.rows.take i, x.aliasName = r.aliasName)

theorem checkAfter_singleton_eq_ok_iff :
    checkAfter earlier [r] = .ok () ↔
      r.WellFormed ∧ ∀ x ∈ earlier, x.aliasName ≠ r.aliasName := by
  rw [checkAfter_eq_ok_iff]
  simp [Instantiation.fault?_eq_none_iff_wellFormed]

/-- The rows in front of a place pass when none of them breaks the table. -/
theorem checkAfter_take_eq_ok_iff :
    checkAfter [] (t.rows.take i) = .ok () ↔ ∀ j < i, ¬ t.Breaks j := by
  induction i with
  | zero => simp [checkAfter]
  | succ i ih =>
      rw [Nat.forall_lt_succ_right, ← ih]
      cases hr : t.rows[i]? with
      | none =>
          have hbreaks : ¬ t.Breaks i := by
            rintro ⟨r, hr', -⟩
            rw [hr] at hr'
            cases hr'
          rw [List.take_add_one, hr, Option.toList_none, List.append_nil, and_iff_left hbreaks]
      | some r =>
          have hbreaks : ¬ t.Breaks i ↔ checkAfter (t.rows.take i) [r] = .ok () := by
            simp [Breaks, hr, checkAfter_singleton_eq_ok_iff]
          rw [List.take_add_one, hr, Option.toList_some, checkAfter_append, List.nil_append,
            hbreaks]
          cases checkAfter [] (t.rows.take i) <;> simp [bind, Except.bind]

/-- A row that is refused behind those in front of it breaks the table. -/
theorem breaks_of_faultAfter (hr : t.rows[i]? = some r)
    (h : r.FaultAfter (t.rows.take i) e) : t.Breaks i := by
  refine ⟨r, hr, ?_⟩
  cases h with
  | alone hfault => exact .inl hfault.not_wellFormed
  | @duplicateAlias x _ hx =>
      have hmem : x ∈ (t.rows.take i).filter (·.aliasName = r.aliasName) := by
        rw [hx]
        exact List.mem_singleton_self x
      obtain ⟨hmem, hname⟩ := List.mem_filter.mp hmem
      exact .inr ⟨x, hmem, decide_eq_true_eq.mp hname⟩

theorem isLeast_breaks_iff :
    IsLeast {i | t.Breaks i} i ↔ t.Breaks i ∧ checkAfter [] (t.rows.take i) = .ok () := by
  rw [checkAfter_take_eq_ok_iff]
  refine and_congr_right fun _ => ?_
  constructor
  · intro h j hj hbreaks
    exact absurd (h hbreaks) (not_le.mpr hj)
  · intro h j hbreaks
    exact not_lt.mp fun hj => h j hj hbreaks

/-- A table is refused for its first row that breaks it, and for what is wrong with this row behind
the rows in front of it. -/
theorem validate_eq_error_iff :
    t.validate = .error e ↔
      ∃ i r, IsLeast {i | t.Breaks i} i ∧ t.rows[i]? = some r ∧
        r.FaultAfter (t.rows.take i) e := by
  have hnodup {front : List Instantiation} (h : checkAfter [] front = .ok ()) :
      (front.map Instantiation.aliasName).Nodup := (checkAfter_eq_ok_iff.mp h).2.1
  rw [validate, checkAfter_eq_error_iff]
  constructor
  · rintro ⟨front, r, back, hsplit, hfront, hr⟩
    have htake : t.rows.take front.length = front := by rw [hsplit, List.take_left]
    have hget : t.rows[front.length]? = some r := by rw [hsplit]; simp
    rw [List.nil_append, checkAfter_singleton_eq_error_iff (hnodup hfront), ← htake] at hr
    refine ⟨front.length, r, isLeast_breaks_iff.mpr ⟨breaks_of_faultAfter hget hr, ?_⟩, hget, hr⟩
    rwa [htake]
  · rintro ⟨i, r, hleast, hget, hr⟩
    obtain ⟨-, hfront⟩ := isLeast_breaks_iff.mp hleast
    obtain ⟨hlt, rfl⟩ := List.getElem?_eq_some_iff.mp hget
    refine ⟨t.rows.take i, t.rows[i], t.rows.drop (i + 1), ?_, hfront, ?_⟩
    · rw [← List.drop_eq_getElem_cons hlt, List.take_append_drop]
    · rwa [List.nil_append, checkAfter_singleton_eq_error_iff (hnodup hfront)]

/-- A table passes exactly when its rows are in order and no alias repeats; otherwise its first row
that breaks it is reported. -/
structure ReportsFirst (t : InstantiationTable) : Prop where
  ok_iff : t.validate = .ok () ↔ (∀ r ∈ t.rows, r.WellFormed) ∧ t.aliases.Nodup
  error_iff : ∀ e, t.validate = .error e ↔
    ∃ i r, IsLeast {i | t.Breaks i} i ∧ t.rows[i]? = some r ∧ r.FaultAfter (t.rows.take i) e

theorem validate_reportsFirst (t : InstantiationTable) : ReportsFirst t where
  ok_iff := by
    rw [validate_eq_ok_iff]
    simp only [Instantiation.fault?_eq_none_iff_wellFormed]
  error_iff _ := validate_eq_error_iff

/-- The second row has a blank argument and the alias of the first; the argument is reported. -/
example :
    validate ⟨[⟨"Box", ["int"], "A"⟩, ⟨"Map", ["int", " "], "A"⟩, ⟨"", [], "B"⟩]⟩ =
      .error (.blankArgument "Map" "A" 1) := by
  decide +kernel

end InstantiationTable

end Exposure
