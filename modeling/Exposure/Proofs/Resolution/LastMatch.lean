import Mathlib.Order.Bounds.Basic
import Exposure.Proofs.Resolution.Matching
import Exposure.Resolution

/-!
# The last match decides

Resolution applies one rule after the other to all entities at once and overwrites what earlier
rules decided.  Seen from one entity, the last rule that matches it decides.  The default matches
everything, so there always is such a rule; it is never applied, because the decisions start out as
it leaves them.
-/

namespace Exposure

variable {c : Catalog} {rs : List Rule} {r : Rule} {i : EntityId} {k : Nat}

/-- The places of the rules that match an entity. -/
def Rule.matching (c : Catalog) (rs : List Rule) (i : EntityId) : Set Nat :=
  {k | ∃ r, rs[k]? = some r ∧ r.Matches c i}

/-- The rule at a place of a list matches no entity. -/
def Rule.MatchesNothing (c : Catalog) (rs : List Rule) (k : Nat) : Prop :=
  ∃ r, rs[k]? = some r ∧ ∀ i < c.size, ¬ r.Matches c i

namespace Rule

theorem lt_of_mem_matching (h : k ∈ matching c rs i) : k < rs.length := by
  obtain ⟨r, hr, -⟩ := h
  exact (List.getElem?_eq_some_iff.mp hr).1

theorem matches_of_mem_matching (h : k ∈ matching c rs i) (hr : rs[k]? = some r) :
    r.Matches c i := by
  obtain ⟨x, hx, hmatch⟩ := h
  rwa [Option.some.inj (hr.symm.trans hx)]

/-- What some rule of a longer list does is done by an earlier rule or by the new one. -/
theorem exists_getElem?_concat {P : Rule → Prop} :
    (∃ x, (rs ++ [r])[k]? = some x ∧ P x) ↔
      (∃ x, rs[k]? = some x ∧ P x) ∨ k = rs.length ∧ P r := by
  rcases lt_trichotomy k rs.length with hk | rfl | hk
  · rw [List.getElem?_append_left hk]
    simp [hk.ne]
  · simp
  · rw [List.getElem?_eq_none (by simpa using Nat.succ_le_of_lt hk),
      List.getElem?_eq_none hk.le]
    simp [hk.ne']

theorem mem_matching_concat :
    k ∈ matching c (rs ++ [r]) i ↔ k ∈ matching c rs i ∨ k = rs.length ∧ r.Matches c i :=
  exists_getElem?_concat

theorem matchesNothing_concat :
    MatchesNothing c (rs ++ [r]) k ↔
      MatchesNothing c rs k ∨ k = rs.length ∧ ∀ i < c.size, ¬ r.Matches c i :=
  exists_getElem?_concat

theorem MatchesNothing.lt_length (h : MatchesNothing c rs k) : k < rs.length := by
  obtain ⟨r, hr, -⟩ := h
  exact (List.getElem?_eq_some_iff.mp hr).1

/-- A new rule that matches is the last one that does. -/
theorem isGreatest_matching_concat (h : r.Matches c i) :
    IsGreatest (matching c (rs ++ [r]) i) rs.length := by
  refine ⟨mem_matching_concat.mpr (.inr ⟨rfl, h⟩), ?_⟩
  intro k hk
  rcases mem_matching_concat.mp hk with hk | ⟨rfl, -⟩
  · exact (lt_of_mem_matching hk).le
  · exact le_rfl

theorem matching_concat_of_not (h : ¬ r.Matches c i) :
    matching c (rs ++ [r]) i = matching c rs i := by
  ext k
  rw [mem_matching_concat]
  exact or_iff_left fun hk => h hk.2

end Rule

namespace Progress

variable {s : Progress}

/-- What holds when rules have been applied, the default among them. -/
structure Agrees (c : Catalog) (rs : List Rule) (s : Progress) : Prop where
  started : 1 ≤ rs.length
  faithful : s.matcher.Faithful c
  length_eq : s.decisions.length = c.size
  decided : ∀ i < c.size, ∃ k r, IsGreatest (Rule.matching c rs i) k ∧ rs[k]? = some r ∧
    s.decisions[i]? = some ⟨r.exposes, k⟩
  inert_ascending : s.inert.SortedLT
  mem_inert_iff : ∀ k, k ∈ s.inert ↔ 1 ≤ k ∧ Rule.MatchesNothing c rs k

/-- The decisions start out as the default leaves them. -/
theorem agrees_start (c : Catalog) : Agrees c [.defaultDeny] (start c) where
  started := le_rfl
  faithful := Matcher.faithful_new c
  length_eq := by simp [start]
  decided i hi := by
    refine ⟨0, .defaultDeny, @Rule.isGreatest_matching_concat c [] .defaultDeny i trivial, rfl, ?_⟩
    simp [start, hi, Rule.exposes]
  inert_ascending := List.sortedLT_iff_pairwise.mpr List.Pairwise.nil
  mem_inert_iff k := by
    simp only [start, List.not_mem_nil, false_iff]
    rintro ⟨hk, r, hr, -⟩
    have hlt := (List.getElem?_eq_some_iff.mp hr).1
    simp only [List.length_singleton] at hlt
    omega

/-- A further rule decides the entities that it matches and leaves the others as they were. -/
theorem Agrees.decided_apply (h : Agrees c rs s) (hc : c.Sound) (hi : i < c.size) :
    ∃ k x, IsGreatest (Rule.matching c (rs ++ [r]) i) k ∧ (rs ++ [r])[k]? = some x ∧
      (apply c s (r, rs.length)).decisions[i]? = some ⟨x.exposes, k⟩ := by
  obtain ⟨k, x, hk, hx, hd⟩ := h.decided i hi
  rw [decisions_apply, getElem?_overwrite, hd, Option.map_some]
  by_cases hr : r.Matches c i
  · refine ⟨rs.length, r, Rule.isGreatest_matching_concat hr, by simp, ?_⟩
    rw [if_pos ((Matcher.mem_matched hc h.faithful).mpr ⟨hi, hr⟩)]
  · refine ⟨k, x, by rwa [Rule.matching_concat_of_not hr], ?_, ?_⟩
    · rw [List.getElem?_append_left (Rule.lt_of_mem_matching hk.1), hx]
    · rw [if_neg fun hm => hr ((Matcher.mem_matched hc h.faithful).mp hm).2]

/-- One more rule. -/
theorem Agrees.apply (h : Agrees c rs s) (hc : c.Sound) (r : Rule) :
    Agrees c (rs ++ [r]) (apply c s (r, rs.length)) where
  started := by simp
  faithful := by
    rw [matcher_apply]
    exact h.faithful.snd_matched r
  length_eq := by rw [decisions_apply, length_overwrite, h.length_eq]
  decided _ hi := h.decided_apply hc hi
  inert_ascending := by
    rw [inert_apply]
    split
    · rw [List.sortedLT_iff_pairwise, List.pairwise_append]
      refine ⟨h.inert_ascending.pairwise, List.pairwise_singleton _ _, ?_⟩
      intro k hk n hn
      rw [List.mem_singleton.mp hn]
      exact ((h.mem_inert_iff k).mp hk).2.lt_length
    · exact h.inert_ascending
  mem_inert_iff k := by
    have hnil := Matcher.matched_eq_nil_iff hc h.faithful r
    have hstarted := h.started
    rw [inert_apply, Rule.matchesNothing_concat, ← hnil]
    split
    -- the new place is behind the default, so it is never the place that is left out
    · rename_i hmatched
      rw [List.mem_append, List.mem_singleton, h.mem_inert_iff]
      constructor
      · rintro (⟨hk, hnone⟩ | rfl)
        · exact ⟨hk, .inl hnone⟩
        · exact ⟨hstarted, .inr ⟨rfl, hmatched⟩⟩
      · rintro ⟨hk, hnone | ⟨rfl, -⟩⟩
        · exact .inl ⟨hk, hnone⟩
        · exact .inr rfl
    · rename_i hmatched
      rw [h.mem_inert_iff, or_iff_left fun hk => hmatched hk.2]

/-- All the rules. -/
theorem Agrees.foldl (h : Agrees c rs s) (hc : c.Sound) (rest : List Rule) :
    Agrees c (rs ++ rest) ((rest.zipIdx rs.length).foldl (Progress.apply c) s) := by
  induction rest generalizing rs s with
  | nil => simpa using h
  | cons r rest ih =>
      have hstep := ih (h.apply hc r)
      rwa [List.append_assoc, List.length_append] at hstep

theorem agrees_run (hc : c.Sound) (p : Policy) : Agrees c p.rules (run c p) := by
  obtain ⟨rest, hrest⟩ := List.head?_eq_some_iff.mp p.startsWithDefault
  have hall := (agrees_start c).foldl hc rest
  rw [run, hrest, List.zipIdx_cons, List.drop_one, List.tail_cons]
  exact hall

theorem faithful_foldl (c : Catalog) (done : List (Rule × Nat)) :
    (done.foldl (Progress.apply c) (start c)).matcher.Faithful c := by
  induction done using List.reverseRecOn with
  | nil => exact Matcher.faithful_new c
  | append_singleton done x ih =>
      rw [List.foldl_append, List.foldl_cons, List.foldl_nil, matcher_apply]
      exact ih.snd_matched x.1

/-- Whatever rules have been applied, there is a slot for every entity that a rule matches. -/
theorem lt_length_decisions (hc : c.Sound) (done : List (Rule × Nat)) (r : Rule) :
    ∀ i ∈ ((done.foldl (Progress.apply c) (start c)).matcher.matched c r).1,
      i < (done.foldl (Progress.apply c) (start c)).decisions.length := by
  intro i hi
  rw [length_decisions_foldl]
  simpa [start] using ((Matcher.mem_matched hc (faithful_foldl c done)).mp hi).1

end Progress

/-- Every entity is decided by the last rule that matches it, and exposed when this rule exposes a
target. -/
structure LastMatchWins (c : Catalog) (p : Policy) : Prop where
  decisionFor?_eq : ∀ i < c.size, ∃ k r exposed, IsGreatest (Rule.matching c p.rules i) k ∧
    p.rules[k]? = some r ∧ (exposed = true ↔ ∃ target, r = .expose target) ∧
      (resolve c p).decisionFor? i = some ⟨exposed, k⟩
  decisionFor?_of_unknown : ∀ i, c.size ≤ i → (resolve c p).decisionFor? i = none
  /-- No decision is ever written outside of the list. -/
  slots_in_range : ∀ (done : List (Rule × Nat)) (r : Rule),
    ∀ i ∈ ((done.foldl (Progress.apply c) (.start c)).matcher.matched c r).1,
      i < (done.foldl (Progress.apply c) (.start c)).decisions.length
  inert_ascending : (resolve c p).inert.SortedLT
  mem_inert_iff : ∀ k, k ∈ (resolve c p).inert ↔ 1 ≤ k ∧ Rule.MatchesNothing c p.rules k

namespace Catalog.Sound

/-- An entity is decided by the last rule that matches it. -/
theorem exists_decisionFor?_eq (hc : c.Sound) (p : Policy) (hi : i < c.size) :
    ∃ k r, IsGreatest (Rule.matching c p.rules i) k ∧ p.rules[k]? = some r ∧
      (resolve c p).decisionFor? i = some ⟨r.exposes, k⟩ := by
  rw [Resolution.decisionFor?_resolve]
  exact (Progress.agrees_run hc p).decided i hi

theorem decisionFor?_of_size_le (hc : c.Sound) (p : Policy) (hi : c.size ≤ i) :
    (resolve c p).decisionFor? i = none := by
  rw [Resolution.decisionFor?_resolve, List.getElem?_eq_none]
  rwa [(Progress.agrees_run hc p).length_eq]

/-- A decision names the last rule that matches its entity. -/
theorem isGreatest_of_decisionFor? {p : Policy} {d : Decision} (hc : c.Sound)
    (hd : (resolve c p).decisionFor? i = some d) :
    IsGreatest (Rule.matching c p.rules i) d.ruleIndex := by
  rcases lt_or_ge i c.size with hi | hi
  · obtain ⟨k, r, hk, -, hd'⟩ := hc.exists_decisionFor?_eq p hi
    obtain rfl := Option.some.inj (hd.symm.trans hd')
    exact hk
  · rw [hc.decisionFor?_of_size_le p hi] at hd
    cases hd

end Catalog.Sound

theorem lastMatchWins_of_sound (hc : c.Sound) (p : Policy) : LastMatchWins c p where
  decisionFor?_eq i hi := by
    obtain ⟨k, r, hk, hr, hd⟩ := hc.exists_decisionFor?_eq p hi
    exact ⟨k, r, r.exposes, hk, hr, r.exposes_eq_true_iff, hd⟩
  decisionFor?_of_unknown _ hi := hc.decisionFor?_of_size_le p hi
  slots_in_range := Progress.lt_length_decisions hc
  inert_ascending := (Progress.agrees_run hc p).inert_ascending
  mem_inert_iff := (Progress.agrees_run hc p).mem_inert_iff

/-- In every catalog that calls build and under every policy the last match wins. -/
theorem resolve_lastMatchWins (calls : List Catalog.Call) (p : Policy) :
    LastMatchWins (Catalog.build calls) p :=
  lastMatchWins_of_sound (Catalog.sound_build calls) p

end Exposure
