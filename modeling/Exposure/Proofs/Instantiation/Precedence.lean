import Exposure.Proofs.Instantiation.Faults

/-!
# Which fault of a header is reported

The table is checked first, then the names in the options, and then the aliases are compared with
these names, one after the other.  The first check that fails decides, and nothing is written.  A
header that is written declares identifiers only, and no name twice.
-/

namespace Exposure.HeaderOptions

variable {o : HeaderOptions} {t : InstantiationTable} {paths : List String} {a : String}
  {e : ConfigurationError}

/-! ## The options -/

/-- What is wrong with the options by themselves: the first name that is not an identifier, the
segments of the namespace in front of the probe function. -/
inductive HasFault (o : HeaderOptions) : ConfigurationError → Prop where
  | namespaceSegment {front : List String} {s : String} {back : List String}
      (hscopes : o.scopes = front ++ s :: back) (hfront : ∀ x ∈ front, Identifier x)
      (hs : ¬ Identifier s) : HasFault o (.invalidIdentifier .namespaceSegment s)
  | probeFunction (hscopes : ∀ s ∈ o.scopes, Identifier s)
      (hprobe : ¬ Identifier o.probeFunction) :
      HasFault o (.invalidIdentifier .probeFunction o.probeFunction)

theorem validate_eq_ok_iff_identifier :
    o.validate = .ok () ↔ (∀ s ∈ o.scopes, Identifier s) ∧ Identifier o.probeFunction := by
  simp only [o.validate_eq_ok_iff, isIdentifier_iff]

/-- The first segment that a search finds is the first that is not an identifier. -/
theorem find?_not_isIdentifier_eq_some_iff {ss : List String} {s : String} :
    ss.find? (! isIdentifier ·) = some s ↔
      ∃ front back, ss = front ++ s :: back ∧ (∀ x ∈ front, Identifier x) ∧ ¬ Identifier s := by
  simp only [List.find?_eq_some_iff_append, Bool.not_not, Bool.not_eq_true', ← Bool.not_eq_true,
    isIdentifier_iff]
  constructor
  · rintro ⟨hs, front, back, hsplit, hfront⟩
    exact ⟨front, back, hsplit, hfront, hs⟩
  · rintro ⟨front, back, hsplit, hfront, hs⟩
    exact ⟨hs, front, back, hsplit, hfront⟩

theorem validate_eq_error_iff : o.validate = .error e ↔ o.HasFault e := by
  unfold validate
  constructor
  · intro h
    cases hfind : o.scopes.find? (! isIdentifier ·) with
    | some s =>
        simp only [hfind] at h
        obtain rfl := Except.error.inj h
        obtain ⟨front, back, hsplit, hfront, hs⟩ := find?_not_isIdentifier_eq_some_iff.mp hfind
        exact .namespaceSegment hsplit hfront hs
    | none =>
        simp only [hfind] at h
        split_ifs at h with hprobe
        obtain rfl := Except.error.inj h
        refine .probeFunction (fun s hs => ?_) (mt isIdentifier_iff.mpr hprobe)
        have hnot := List.find?_eq_none.mp hfind s hs
        exact isIdentifier_iff.mp (by simpa using hnot)
  · rintro (⟨hsplit, hfront, hs⟩ | ⟨hscopes, hprobe⟩)
    · simp only [find?_not_isIdentifier_eq_some_iff.mpr ⟨_, _, hsplit, hfront, hs⟩]
    · have hnone : o.scopes.find? (! isIdentifier ·) = none := by
        simpa [isIdentifier_iff] using hscopes
      simp only [hnone, if_neg (mt isIdentifier_iff.mp hprobe)]

/-! ## Collisions -/

/-- How an alias repeats another name of the header; the probe function is compared first. -/
inductive Collides (o : HeaderOptions) (a : String) : ConfigurationError → Prop where
  | probeFunction (ha : a = o.probeFunction) : Collides o a (.aliasCollision a .probeFunction)
  | namespaceSegment (hne : a ≠ o.probeFunction) (ha : a ∈ o.scopes) :
      Collides o a (.aliasCollision a .namespaceSegment)

theorem collision?_eq_some_iff : o.collision? a = some e ↔ o.Collides a e := by
  unfold collision?
  constructor
  · intro h
    split_ifs at h with hprobe hscope
    · obtain rfl := Option.some.inj h
      exact .probeFunction hprobe
    · obtain rfl := Option.some.inj h
      exact .namespaceSegment hprobe hscope
  · rintro (hprobe | ⟨hne, hscope⟩)
    · rw [if_pos hprobe]
    · rw [if_neg hne, if_pos hscope]

/-! ## All checks -/

/-- What is wrong with a table and the options: the first check that fails, and of the aliases the
first that repeats another name. -/
inductive FaultWith (o : HeaderOptions) (t : InstantiationTable) : ConfigurationError → Prop where
  | table {e : ConfigurationError} (htable : t.validate = .error e) : FaultWith o t e
  | options {e : ConfigurationError} (htable : t.validate = .ok ()) (hoptions : o.HasFault e) :
      FaultWith o t e
  | collision {front : List String} {a : String} {back : List String} {e : ConfigurationError}
      (htable : t.validate = .ok ()) (hscopes : ∀ s ∈ o.scopes, Identifier s)
      (hprobe : Identifier o.probeFunction) (haliases : t.aliases = front ++ a :: back)
      (hfront : ∀ x ∈ front, x ≠ o.probeFunction ∧ x ∉ o.scopes) (ha : o.Collides a e) :
      FaultWith o t e

theorem findSome?_collision?_eq_some_iff {as : List String} :
    as.findSome? o.collision? = some e ↔
      ∃ front a back, as = front ++ a :: back ∧ (∀ x ∈ front, x ≠ o.probeFunction ∧ x ∉ o.scopes) ∧
        o.Collides a e := by
  simp only [List.findSome?_eq_some_iff, collision?_eq_none_iff, collision?_eq_some_iff]
  constructor
  · rintro ⟨front, a, back, hsplit, ha, hfront⟩
    exact ⟨front, a, back, hsplit, hfront, ha⟩
  · rintro ⟨front, a, back, hsplit, hfront, ha⟩
    exact ⟨front, a, back, hsplit, ha, hfront⟩

theorem check_of_validate_eq_ok (htable : t.validate = .ok ()) (hoptions : o.validate = .ok ()) :
    o.check t = match t.aliases.findSome? o.collision? with
      | some e => .error e
      | none => .ok () := by
  rw [check, htable, hoptions]
  rfl

theorem check_eq_error_iff : o.check t = .error e ↔ o.FaultWith t e := by
  constructor
  · intro h
    cases htable : t.validate with
    | error e' =>
        rw [check, htable] at h
        obtain rfl := Except.error.inj h
        exact .table htable
    | ok u =>
        cases hoptions : o.validate with
        | error e' =>
            rw [check, htable, hoptions] at h
            obtain rfl := Except.error.inj h
            exact .options htable (validate_eq_error_iff.mp hoptions)
        | ok u =>
            rw [check_of_validate_eq_ok htable hoptions] at h
            cases hfind : t.aliases.findSome? o.collision? with
            | none =>
                rw [hfind] at h
                cases h
            | some e' =>
                rw [hfind] at h
                obtain rfl := Except.error.inj h
                obtain ⟨hscopes, hprobe⟩ := validate_eq_ok_iff_identifier.mp hoptions
                obtain ⟨front, a, back, hsplit, hfront, ha⟩ :=
                  findSome?_collision?_eq_some_iff.mp hfind
                exact .collision htable hscopes hprobe hsplit hfront ha
  · rintro (htable | ⟨htable, hoptions⟩ | ⟨htable, hscopes, hprobe, hsplit, hfront, ha⟩)
    · rw [check, htable]
      rfl
    · rw [check, htable, validate_eq_error_iff.mpr hoptions]
      rfl
    · rw [check_of_validate_eq_ok htable (validate_eq_ok_iff_identifier.mpr ⟨hscopes, hprobe⟩),
        findSome?_collision?_eq_some_iff.mpr ⟨_, _, _, hsplit, hfront, ha⟩]

/-! ## The header -/

theorem generate_eq_error_iff : o.generate paths t = .error e ↔ o.check t = .error e := by
  unfold generate
  cases o.check t <;> simp [bind, Except.bind, pure, Except.pure]

theorem exists_generate_iff : (∃ s, o.generate paths t = .ok s) ↔ o.check t = .ok () := by
  simp only [o.generate_eq_ok_iff]
  exact ⟨fun ⟨_, h, _⟩ => h, fun h => ⟨_, h, rfl⟩⟩

theorem check_eq_ok_iff_identifier :
    o.check t = .ok () ↔
      t.validate = .ok () ∧ (∀ s ∈ o.scopes, Identifier s) ∧ Identifier o.probeFunction ∧
        ∀ a ∈ t.aliases, a ≠ o.probeFunction ∧ a ∉ o.scopes := by
  rw [o.check_eq_ok_iff, validate_eq_ok_iff_identifier, and_assoc]

/-- The names that a header declares are distinct. -/
theorem nodup_of_check_eq_ok (h : o.check t = .ok ()) : (o.probeFunction :: t.aliases).Nodup := by
  obtain ⟨htable, -, -, hfree⟩ := check_eq_ok_iff_identifier.mp h
  refine List.nodup_cons.mpr ⟨fun hprobe => (hfree _ hprobe).1 rfl, ?_⟩
  exact (t.validate_eq_ok_iff.mp htable).2

theorem identifier_of_check_eq_ok (h : o.check t = .ok ()) :
    ∀ a ∈ o.probeFunction :: t.aliases, Identifier a := by
  obtain ⟨htable, -, hprobe, -⟩ := check_eq_ok_iff_identifier.mp h
  refine List.forall_mem_cons.mpr ⟨hprobe, ?_⟩
  rw [InstantiationTable.aliases, List.forall_mem_map]
  intro r hr
  have hfault := (t.validate_eq_ok_iff.mp htable).1 r hr
  exact (Instantiation.fault?_eq_none_iff_wellFormed.mp hfault).identifier

/-- A header is written exactly when the checks pass, and a header that is not is refused for the
first check that fails. -/
structure ChecksExactly (o : HeaderOptions) (t : InstantiationTable) (paths : List String) :
    Prop where
  exists_generate_iff : (∃ s, o.generate paths t = .ok s) ↔ o.check t = .ok ()
  check_iff : o.check t = .ok () ↔
    t.validate = .ok () ∧ (∀ s ∈ o.scopes, Identifier s) ∧ Identifier o.probeFunction ∧
      ∀ a ∈ t.aliases, a ≠ o.probeFunction ∧ a ∉ o.scopes
  names : ∀ s, o.generate paths t = .ok s →
    (o.probeFunction :: t.aliases).Nodup ∧ ∀ a ∈ o.probeFunction :: t.aliases, Identifier a
  generate_error_iff : ∀ e, o.generate paths t = .error e ↔ o.check t = .error e
  check_error_iff : ∀ e, o.check t = .error e ↔ o.FaultWith t e

theorem checksExactly (o : HeaderOptions) (t : InstantiationTable) (paths : List String) :
    ChecksExactly o t paths where
  exists_generate_iff := exists_generate_iff
  check_iff := check_eq_ok_iff_identifier
  names s hs := by
    have hcheck := (o.generate_eq_ok_iff paths t s).mp hs
    exact ⟨nodup_of_check_eq_ok hcheck.1, identifier_of_check_eq_ok hcheck.1⟩
  generate_error_iff _ := generate_eq_error_iff
  check_error_iff _ := check_eq_error_iff

/-- An alias that is the probe function and a segment of the namespace collides with the function,
and an alias behind it is not looked at. -/
example :
    check { scopes := ["a", "run"], probeFunction := "run" }
        ⟨[⟨"Box", ["int"], "run"⟩, ⟨"Box", ["long"], "a"⟩]⟩ =
      .error (.aliasCollision "run" .probeFunction) := by
  decide +kernel

end Exposure.HeaderOptions
