import Exposure.Proofs.Resolution.LastMatch

/-!
# Members follow their classes

A target that reaches a class reaches everything below the class, and a rule for an access level
matches no class.  So every rule that matches a class matches what the class encloses, at any depth
and whatever stands in between.  As the last match decides, no member is decided by an earlier rule
than a class around it.
-/

namespace Exposure

variable {c : Catalog} {rs : List Rule} {r : Rule} {t : Target} {i s : EntityId} {e : Entity}

/-- A target reaches what lies in a class that it reaches, by this class or by one further out. -/
theorem Target.Reaches.of_encloses (ht : t.Reaches c s) (he : c.get? s = some e)
    (hk : e.kind = .classType) (hi : c.Encloses s i) : t.Reaches c i := by
  obtain ⟨r, f, hf, hname, hr⟩ := ht
  rcases hr with rfl | ⟨hfk, hrs⟩
  · obtain rfl := Option.some.inj (he.symm.trans hf)
    exact ⟨r, e, he, hname, .inr ⟨hk, hi⟩⟩
  · exact ⟨r, f, hf, hname, .inr ⟨hfk, hrs.trans hi⟩⟩

namespace Rule

/-- A rule that matches a class matches what lies in it. -/
theorem Matches.of_encloses (hr : r.Matches c s) (he : c.get? s = some e)
    (hk : e.kind = .classType) (hi : c.Encloses s i) : r.Matches c i := by
  cases r with
  | defaultDeny => trivial
  | expose t => exact Target.Reaches.of_encloses hr he hk hi
  | hide t => exact Target.Reaches.of_encloses hr he hk hi
  | hideAccess a =>
      obtain ⟨f, hf, hmember, -⟩ := hr
      obtain rfl := Option.some.inj (he.symm.trans hf)
      simp [hk] at hmember

theorem matching_subset_of_encloses (he : c.get? s = some e) (hk : e.kind = .classType)
    (hi : c.Encloses s i) : matching c rs s ⊆ matching c rs i := by
  rintro k ⟨r, hr, hmatch⟩
  exact ⟨r, hr, hmatch.of_encloses he hk hi⟩

end Rule

/-- A member is decided by no earlier rule than its class.  When only one of them is exposed, the
member is decided by a later rule, which does not match the class. -/
theorem ruleIndex_le_of_isMemberOf (calls : List Catalog.Call) (p : Policy)
    (he : (Catalog.build calls).get? s = some e) (hk : e.kind = .classType)
    (hi : (Catalog.build calls).isMemberOf? i s = some true) :
    ∃ d d', (resolve (Catalog.build calls) p).decisionFor? s = some d ∧
      (resolve (Catalog.build calls) p).decisionFor? i = some d' ∧
        d.ruleIndex ≤ d'.ruleIndex ∧
          (d.exposed ≠ d'.exposed → d.ruleIndex < d'.ruleIndex ∧
            ∃ r, p.rules[d'.ruleIndex]? = some r ∧ r.Matches (Catalog.build calls) i ∧
              ¬ r.Matches (Catalog.build calls) s) := by
  have hc := Catalog.sound_build calls
  have hencloses := hc.isMemberOf?_eq_true_iff.mp hi
  obtain ⟨k, r, hgreatest, hr, hd⟩ :=
    hc.exists_decisionFor?_eq p (Catalog.lt_size_iff.mpr ⟨e, he⟩)
  obtain ⟨k', r', hgreatest', hr', hd'⟩ := hc.exists_decisionFor?_eq p hencloses.lt_size
  have hle : k ≤ k' :=
    hgreatest'.2 (Rule.matching_subset_of_encloses he hk hencloses hgreatest.1)
  refine ⟨_, _, hd, hd', hle, fun hne => ?_⟩
  have hlt : k < k' := by
    refine lt_of_le_of_ne hle ?_
    rintro rfl
    exact hne (congrArg Rule.exposes (Option.some.inj (hr.symm.trans hr')))
  refine ⟨hlt, r', hr', Rule.matches_of_mem_matching hgreatest'.1 hr', fun hmatch => ?_⟩
  -- the class would be decided by the later rule as well
  exact absurd (hgreatest.2 ⟨r', hr', hmatch⟩) (Nat.not_le_of_lt hlt)

/-- A method of a nested class, hidden for its access level while the outer class is exposed. -/
theorem ruleIndex_le_of_nested_method :
    ∃ p : Policy,
      p.rules = [.defaultDeny, .expose (.exact (.top "A")), .hideAccess .priv] ∧
      let c := Catalog.build
        [.add ⟨.top "A", .classType, .notApplicable, none⟩, .addMember 0 "B" .classType .priv,
          .addMember 1 "run" .method .priv]
      c.isMemberOf? 2 0 = some true ∧
        ∃ d d', (resolve c p).decisionFor? 0 = some d ∧ (resolve c p).decisionFor? 2 = some d' ∧
          d.ruleIndex ≤ d'.ruleIndex ∧
            (d.exposed ≠ d'.exposed → d.ruleIndex < d'.ruleIndex ∧
              ∃ r, p.rules[d'.ruleIndex]? = some r ∧ r.Matches c 2 ∧ ¬ r.Matches c 0) := by
  let calls : List Catalog.Call :=
    [.add ⟨.top "A", .classType, .notApplicable, none⟩, .addMember 0 "B" .classType .priv,
      .addMember 1 "run" .method .priv]
  let p : Policy := ⟨[.defaultDeny, .expose (.exact (.top "A")), .hideAccess .priv], rfl⟩
  have hscopes : (Catalog.build calls).scope? 2 = some 1 ∧
      (Catalog.build calls).scope? 1 = some 0 := by decide +kernel
  have hmember : (Catalog.build calls).isMemberOf? 2 0 = some true := by
    rw [(Catalog.sound_build calls).isMemberOf?_eq_true_iff]
    exact .tail (.single hscopes.2) hscopes.1
  have hclass : (Catalog.build calls).get? 0 =
      some ⟨.top "A", .classType, .notApplicable, none⟩ := by decide +kernel
  exact ⟨p, rfl, hmember, ruleIndex_le_of_isMemberOf calls p hclass rfl hmember⟩

end Exposure
