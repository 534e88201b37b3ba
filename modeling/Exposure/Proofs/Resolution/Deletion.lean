import Exposure.Proofs.Resolution.LastMatch

/-!
# Rules that decide nothing

A rule may match entities and still decide none of them, because later rules match them too; an
inert rule does not even match one.  Such a rule can be deleted: the rules behind it move up by one
place, and every decision is made by the same rule as before.
-/

namespace Exposure

variable {c : Catalog} {rs : List Rule} {p : Policy} {i : EntityId} {j k m n : Nat}

/-! ## Places after a deletion -/

/-- Where the rule at a place stands once the rule at `k` is gone. -/
def placeWithout (k n : Nat) : Nat := if k < n then n - 1 else n

theorem placeWithout_mono (h : m ≤ n) : placeWithout k m ≤ placeWithout k n := by
  unfold placeWithout
  split <;> split <;> omega

/-- Only the deleted place comes to coincide with another one. -/
theorem placeWithout_lt (h : m < n) (hm : m ≠ k) : placeWithout k m < placeWithout k n := by
  unfold placeWithout
  split <;> split <;> omega

/-- The default stays where it is, and nothing else takes its place. -/
theorem one_le_placeWithout_iff (hk : 1 ≤ k) : 1 ≤ placeWithout k n ↔ 1 ≤ n := by
  unfold placeWithout
  split <;> omega

/-- Every place is the new one of a rule that stays. -/
theorem exists_placeWithout_eq (k j : Nat) : ∃ n, n ≠ k ∧ placeWithout k n = j := by
  rcases lt_or_ge j k with hj | hj
  · exact ⟨j, hj.ne, if_neg (by omega)⟩
  · exact ⟨j + 1, by omega, if_pos (by omega)⟩

theorem getElem?_eraseIdx_placeWithout (hn : n ≠ k) :
    (rs.eraseIdx k)[placeWithout k n]? = rs[n]? := by
  unfold placeWithout
  split
  · rename_i hkn
    rw [List.getElem?_eraseIdx, if_neg (by omega), Nat.sub_add_cancel (by omega)]
  · rw [List.getElem?_eraseIdx, if_pos (by omega)]

namespace Rule

theorem placeWithout_mem_matching (hn : n ≠ k) :
    placeWithout k n ∈ matching c (rs.eraseIdx k) i ↔ n ∈ matching c rs i := by
  simp only [matching, Set.mem_ofPred_eq, getElem?_eraseIdx_placeWithout hn]

/-- The last rule that matches an entity stays the last one when another rule is deleted. -/
theorem isGreatest_matching_eraseIdx (h : IsGreatest (matching c rs i) n) (hn : n ≠ k) :
    IsGreatest (matching c (rs.eraseIdx k) i) (placeWithout k n) := by
  refine ⟨(placeWithout_mem_matching hn).mpr h.1, ?_⟩
  intro j hj
  obtain ⟨m, hm, rfl⟩ := exists_placeWithout_eq k j
  exact placeWithout_mono (h.2 ((placeWithout_mem_matching hm).mp hj))

theorem matchesNothing_eraseIdx (hn : n ≠ k) :
    MatchesNothing c (rs.eraseIdx k) (placeWithout k n) ↔ MatchesNothing c rs n := by
  simp only [MatchesNothing, getElem?_eraseIdx_placeWithout hn]

end Rule

/-! ## Resolution without the rule -/

namespace Policy

/-- What is left is a policy, unless the default is deleted. -/
theorem exists_ofRules_eraseIdx (p : Policy) (hk : 1 ≤ k) :
    ∃ p', ofRules (p.rules.eraseIdx k) = .ok p' ∧ p'.rules = p.rules.eraseIdx k := by
  have hhead : (p.rules.eraseIdx k).head? = some .defaultDeny := by
    rw [List.head?_eq_getElem?, List.getElem?_eraseIdx, if_pos (Nat.lt_of_succ_le hk),
      p.getElem?_rules_zero]
  exact ⟨⟨_, hhead⟩, (ofRules_eq_ok_iff _ _).mpr rfl, rfl⟩

end Policy

namespace Catalog.Sound

variable {p' : Policy}

/-- A rule decides nothing when a later rule matches all that it matches. -/
theorem idle_of_overridden {r r' : Rule} (hc : c.Sound) (hkn : k < n)
    (hr : p.rules[k]? = some r) (hr' : p.rules[n]? = some r')
    (hmatches : ∀ i, r.Matches c i → r'.Matches c i) :
    ∀ i d, (resolve c p).decisionFor? i = some d → d.ruleIndex ≠ k := by
  rintro i d hd rfl
  have hgreatest := hc.isGreatest_of_decisionFor? hd
  have hmatch : r.Matches c i := Rule.matches_of_mem_matching hgreatest.1 hr
  -- the later rule would have decided the entity
  exact absurd (hgreatest.2 ⟨r', hr', hmatches i hmatch⟩) (Nat.not_le_of_lt hkn)

/-- The decisions are made by the same rules as before. -/
theorem decisionFor?_of_eraseIdx (hc : c.Sound) (hp : p'.rules = p.rules.eraseIdx k)
    (hidle : ∀ i d, (resolve c p).decisionFor? i = some d → d.ruleIndex ≠ k) (i : EntityId) :
    (resolve c p').decisionFor? i =
      ((resolve c p).decisionFor? i).map fun d => ⟨d.exposed, placeWithout k d.ruleIndex⟩ := by
  rcases lt_or_ge i c.size with hi | hi
  · obtain ⟨n, r, hn, hr, hd⟩ := hc.exists_decisionFor?_eq p hi
    obtain ⟨n', r', hn', hr', hd'⟩ := hc.exists_decisionFor?_eq p' hi
    have hne : n ≠ k := hidle i _ hd
    have hmoved := Rule.isGreatest_matching_eraseIdx hn hne
    rw [← hp] at hmoved
    obtain rfl := hn'.unique hmoved
    rw [hp, getElem?_eraseIdx_placeWithout hne, hr, Option.some.injEq] at hr'
    rw [hd, hd', Option.map_some, hr']
  · rw [hc.decisionFor?_of_size_le p' hi, hc.decisionFor?_of_size_le p hi, Option.map_none]

/-- The rules that match nothing are the same as before. -/
theorem inert_of_eraseIdx (hc : c.Sound) (hp : p'.rules = p.rules.eraseIdx k) (hk : 1 ≤ k) :
    (resolve c p').inert = ((resolve c p).inert.filter (· ≠ k)).map (placeWithout k) := by
  have hlast := lastMatchWins_of_sound hc p
  have hlast' := lastMatchWins_of_sound hc p'
  have hascending : (((resolve c p).inert.filter (· ≠ k)).map (placeWithout k)).SortedLT := by
    rw [List.sortedLT_iff_pairwise, List.pairwise_map]
    refine (hlast.inert_ascending.pairwise.filter _).imp_of_mem ?_
    intro m n hm _ hmn
    exact placeWithout_lt hmn (of_decide_eq_true (List.mem_filter.mp hm).2)
  have hmem (n : Nat) (hn : n ≠ k) :
      placeWithout k n ∈ (resolve c p').inert ↔ n ∈ (resolve c p).inert := by
    rw [hlast.mem_inert_iff, hlast'.mem_inert_iff, hp, Rule.matchesNothing_eraseIdx hn,
      one_le_placeWithout_iff hk]
  apply hlast'.inert_ascending.eq_of_mem_iff hascending
  intro j
  simp only [List.mem_map, List.mem_filter, decide_eq_true_eq]
  constructor
  · intro hj
    obtain ⟨n, hn, rfl⟩ := exists_placeWithout_eq k j
    exact ⟨n, ⟨(hmem n hn).mp hj, hn⟩, rfl⟩
  · rintro ⟨n, ⟨hinert, hn⟩, rfl⟩
    exact (hmem n hn).mpr hinert

end Catalog.Sound

/-- A rule after the default that decides no entity can be deleted: what is left is a policy, its
decisions are those from before, and so are its inert rules, under their new places. -/
theorem Policy.resolve_eraseIdx_of_idle (calls : List Catalog.Call) (p : Policy) {k : Nat}
    (hk : 1 ≤ k)
    (hidle : ∀ i d, (resolve (Catalog.build calls) p).decisionFor? i = some d →
      d.ruleIndex ≠ k) :
    ∃ p', ofRules (p.rules.eraseIdx k) = .ok p' ∧
      (∀ i, (resolve (Catalog.build calls) p').decisionFor? i =
        ((resolve (Catalog.build calls) p).decisionFor? i).map fun d =>
          ⟨d.exposed, placeWithout k d.ruleIndex⟩) ∧
      (resolve (Catalog.build calls) p').inert =
        ((resolve (Catalog.build calls) p).inert.filter (· ≠ k)).map (placeWithout k) := by
  have hc := Catalog.sound_build calls
  obtain ⟨p', hp', hrules⟩ := p.exists_ofRules_eraseIdx hk
  exact ⟨p', hp', hc.decisionFor?_of_eraseIdx hrules hidle, hc.inert_of_eraseIdx hrules hk⟩

/-- A class is hidden and then exposed again, so the rule that hides it can be deleted. -/
theorem Policy.resolve_eraseIdx_of_overridden :
    ∃ p p' : Policy,
      p.rules = [.defaultDeny, .expose (.exact (.top "B")), .hide (.exact (.top "A")),
        .expose (.exact (.top "A")), .hideAccess .priv] ∧
      ofRules (p.rules.eraseIdx 2) = .ok p' ∧
      let c := Catalog.build
        [.add ⟨.top "A", .classType, .notApplicable, none⟩, .addMember 0 "run" .method .pub,
          .addMember 0 "state" .field .priv]
      (∀ i d, (resolve c p).decisionFor? i = some d → d.ruleIndex ≠ 2) ∧
        (∀ i, (resolve c p').decisionFor? i =
          ((resolve c p).decisionFor? i).map fun d => ⟨d.exposed, placeWithout 2 d.ruleIndex⟩) ∧
        (resolve c p').inert = ((resolve c p).inert.filter (· ≠ 2)).map (placeWithout 2) := by
  let calls : List Catalog.Call :=
    [.add ⟨.top "A", .classType, .notApplicable, none⟩, .addMember 0 "run" .method .pub,
      .addMember 0 "state" .field .priv]
  let p : Policy :=
    ⟨[.defaultDeny, .expose (.exact (.top "B")), .hide (.exact (.top "A")),
      .expose (.exact (.top "A")), .hideAccess .priv], rfl⟩
  have hidle : ∀ i d, (resolve (Catalog.build calls) p).decisionFor? i = some d →
      d.ruleIndex ≠ 2 :=
    (Catalog.sound_build calls).idle_of_overridden (show 2 < 3 by decide) rfl rfl fun _ h => h
  obtain ⟨p', hp', hdecisions, hinert⟩ := resolve_eraseIdx_of_idle calls p (by decide) hidle
  exact ⟨p, p', rfl, hp', hidle, hdecisions, hinert⟩

end Exposure
