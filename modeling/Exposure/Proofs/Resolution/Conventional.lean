import Exposure.Policy.Basic
import Exposure.Proofs.Resolution.Decided

/-!
# The conventional policy in closed form

The rules of the conventional policy come in two groups: rules that expose, and behind them rules
that only hide.  So their order does not matter any more.  An entity is exposed when some target of
the first two lists covers it, no hidden target does, and its access level is not hidden.
-/

namespace Exposure

/-! ## Reading lists -/

section MapM

variable {α β ε : Type} {f : α → Except ε β} {xs : List α} {ys : List β}

theorem mapM_cons_eq_ok_iff {x : α} :
    (x :: xs).mapM f = .ok ys ↔ ∃ z zs, f x = .ok z ∧ xs.mapM f = .ok zs ∧ ys = z :: zs := by
  rw [List.mapM_cons]
  cases f x with
  | error e => simp [bind, Except.bind]
  | ok z => cases xs.mapM f <;> simp [bind, Except.bind, pure, Except.pure, eq_comm]

/-- What comes of a list is what comes of its elements. -/
theorem mem_of_mapM_eq_ok {y : β} (h : xs.mapM f = .ok ys) :
    y ∈ ys ↔ ∃ x ∈ xs, f x = .ok y := by
  induction xs generalizing ys with
  | nil => simp_all [pure, Except.pure]
  | cons x xs ih =>
      obtain ⟨z, zs, hz, hzs, rfl⟩ := mapM_cons_eq_ok_iff.mp h
      simp [ih hzs, hz, eq_comm]

/-- A list can be read when each of its elements can. -/
theorem exists_mapM_eq_ok_iff :
    (∃ ys, xs.mapM f = .ok ys) ↔ ∀ x ∈ xs, ∃ y, f x = .ok y := by
  induction xs with
  | nil => simp [pure, Except.pure]
  | cons x xs ih =>
      rw [List.forall_mem_cons, ← ih]
      simp only [mapM_cons_eq_ok_iff]
      constructor
      · rintro ⟨ys, z, zs, hz, hzs, rfl⟩
        exact ⟨⟨z, hz⟩, zs, hzs⟩
      · rintro ⟨⟨z, hz⟩, zs, hzs⟩
        exact ⟨_, z, zs, hz, hzs, rfl⟩

end MapM

/-! ## The rules of the conventional policy -/

namespace Policy

/-- Add rules at the end. -/
def pushAll (p : Policy) (rs : List Rule) : Policy := rs.foldl push p

@[simp] theorem rules_pushAll (p : Policy) (rs : List Rule) :
    (p.pushAll rs).rules = p.rules ++ rs := by
  induction rs generalizing p with
  | nil => simp [pushAll]
  | cons r rs ih =>
      have hstep : p.pushAll (r :: rs) = (p.push r).pushAll rs := rfl
      rw [hstep, ih, rules_push, List.append_assoc, List.singleton_append]

theorem pushAll_append (p : Policy) (rs rs' : List Rule) :
    p.pushAll (rs ++ rs') = (p.pushAll rs).pushAll rs' :=
  List.foldl_append

/-- Rules that may be malformed are added one by one or all at once. -/
theorem foldlM_pushParsed {α : Type} (read : α → Except ConfigurationError Rule) (p : Policy)
    (ss : List α) :
    ss.foldlM (fun p s => p.pushParsed (read s)) p = (ss.mapM read).map p.pushAll := by
  induction ss generalizing p with
  | nil => rfl
  | cons s ss ih =>
      rw [List.foldlM_cons, List.mapM_cons]
      cases read s with
      | error e => rfl
      | ok r =>
          have hstep : p.pushParsed (.ok r) = .ok (p.push r) := rfl
          rw [hstep]
          change ss.foldlM (fun p s => p.pushParsed (read s)) (p.push r) = _
          rw [ih]
          cases ss.mapM read <;> rfl

theorem foldl_hideAccess (p : Policy) (as : List Access) :
    as.foldl hideAccess p = p.pushAll (as.map .hideAccess) := by
  rw [pushAll, List.foldl_map]
  rfl

/-- The conventional policy has rules that expose, then rules that hide. -/
theorem conventional_eq_ok_iff {classes declarations hidden : List String}
    {hiddenAccess : List Access} {p : Policy} :
    conventional classes declarations hidden hiddenAccess = .ok p ↔
      ∃ shown covers, (classes ++ declarations).mapM Rule.parseExpose = .ok shown ∧
        hidden.mapM Rule.parseHide = .ok covers ∧
          p = hideAll.pushAll (shown ++ (covers ++ hiddenAccess.map .hideAccess)) := by
  have hexpose (p : Policy) (ss : List String) :
      ss.foldlM expose p = (ss.mapM Rule.parseExpose).map p.pushAll := foldlM_pushParsed _ p ss
  have hhide (p : Policy) (ss : List String) :
      ss.foldlM hide p = (ss.mapM Rule.parseHide).map p.pushAll := foldlM_pushParsed _ p ss
  have hmerge : conventional classes declarations hidden hiddenAccess =
      (classes ++ declarations).foldlM expose hideAll >>= fun p =>
        hidden.foldlM hide p >>= fun p => pure (hiddenAccess.foldl hideAccess p) := by
    rw [List.foldlM_append, bind_assoc]
    rfl
  rw [hmerge, hexpose]
  cases (classes ++ declarations).mapM Rule.parseExpose with
  | error e => simp [bind, Except.bind, Except.map]
  | ok shown =>
      simp only [Except.map, bind, Except.bind, hhide]
      cases hidden.mapM Rule.parseHide with
      | error e => simp
      | ok covers =>
          simp [pure, Except.pure, foldl_hideAccess, pushAll_append, eq_comm]

/-- Whether lists are accepted depends on their entries alone. -/
theorem exists_conventional_iff {classes declarations hidden : List String}
    {hiddenAccess : List Access} :
    (∃ p, conventional classes declarations hidden hiddenAccess = .ok p) ↔
      (∀ s, s ∈ classes ∨ s ∈ declarations → ∃ r, Rule.parseExpose s = .ok r) ∧
        ∀ s ∈ hidden, ∃ r, Rule.parseHide s = .ok r := by
  simp only [conventional_eq_ok_iff, ← List.mem_append]
  rw [← exists_mapM_eq_ok_iff, ← exists_mapM_eq_ok_iff]
  constructor
  · rintro ⟨p, shown, covers, hs, hc, -⟩
    exact ⟨⟨shown, hs⟩, covers, hc⟩
  · rintro ⟨⟨shown, hs⟩, covers, hc⟩
    exact ⟨_, shown, covers, hs, hc, rfl⟩

end Policy

/-! ## What the lists cover -/

variable {c : Catalog} {i : EntityId} {e : Entity} {p : Policy} {texts : List String}
  {rs : List Rule} {make : Target → Rule}

/-- Some text of a list is a target that reaches the entity. -/
def Catalog.Covered (c : Catalog) (texts : List String) (i : EntityId) : Prop :=
  ∃ s ∈ texts, ∃ t, Target.parse s = .ok t ∧ t.Reaches c i

theorem Catalog.covered_append {texts' : List String} :
    c.Covered (texts ++ texts') i ↔ c.Covered texts i ∨ c.Covered texts' i := by
  simp only [Covered, List.mem_append, or_and_right, exists_or]

theorem Catalog.covered_congr {texts' : List String} (h : ∀ s, s ∈ texts' ↔ s ∈ texts) :
    c.Covered texts' i ↔ c.Covered texts i := by
  simp only [Covered, h]

/-- The rules that come of a list of texts are those of its targets. -/
theorem Rule.mem_of_mapM_parse (h : texts.mapM (fun s => (Target.parse s).map make) = .ok rs)
    {r : Rule} : r ∈ rs ↔ ∃ s ∈ texts, ∃ t, Target.parse s = .ok t ∧ make t = r := by
  have hmap (s : String) : (Target.parse s).map make = .ok r ↔
      ∃ t, Target.parse s = .ok t ∧ make t = r := by
    cases Target.parse s <;> simp [Except.map]
  simp only [mem_of_mapM_eq_ok h, hmap]

/-- What some rule of a list matches is what its texts cover. -/
theorem Rule.exists_matches_iff_covered
    (h : texts.mapM (fun s => (Target.parse s).map make) = .ok rs)
    (hmake : ∀ t, (make t).Matches c i ↔ t.Reaches c i) :
    (∃ r ∈ rs, r.Matches c i) ↔ c.Covered texts i := by
  constructor
  · rintro ⟨r, hr, hmatch⟩
    obtain ⟨s, hs, t, ht, rfl⟩ := (mem_of_mapM_parse h).mp hr
    exact ⟨s, hs, t, ht, (hmake t).mp hmatch⟩
  · rintro ⟨s, hs, t, ht, hreach⟩
    exact ⟨make t, (mem_of_mapM_parse h).mpr ⟨s, hs, t, ht, rfl⟩, (hmake t).mpr hreach⟩

/-- The rules for access levels match the methods and fields of these levels. -/
theorem Rule.exists_hideAccess_matches_iff (he : c.get? i = some e) (levels : List Access) :
    (∃ r ∈ levels.map Rule.hideAccess, r.Matches c i) ↔
      (e.kind = .method ∨ e.kind = .field) ∧ e.access ∈ levels := by
  constructor
  · rintro ⟨r, hr, hmatch⟩
    obtain ⟨a, ha, rfl⟩ := List.mem_map.mp hr
    obtain ⟨f, hf, hk, rfl⟩ := hmatch
    obtain rfl := Option.some.inj (he.symm.trans hf)
    exact ⟨hk, ha⟩
  · rintro ⟨hk, ha⟩
    exact ⟨_, List.mem_map_of_mem ha, e, he, hk, rfl⟩

section Lists

variable {classes declarations hidden classes' declarations' hidden' : List String}
  {hiddenAccess hiddenAccess' : List Access}

/-- What the conventional policy exposes, as a formula that knows no order. -/
theorem Policy.lastExposes_conventional_iff
    (hp : conventional classes declarations hidden hiddenAccess = .ok p)
    (he : c.get? i = some e) :
    Rule.LastExposes c p.rules i ↔
      (c.Covered classes i ∨ c.Covered declarations i) ∧ ¬ c.Covered hidden i ∧
        ¬ ((e.kind = .method ∨ e.kind = .field) ∧ e.access ∈ hiddenAccess) := by
  obtain ⟨shown, covers, hshown, hcovers, rfl⟩ := conventional_eq_ok_iff.mp hp
  have hexpose : ∀ r ∈ shown, r.exposes = true := by
    intro r hr
    obtain ⟨s, -, t, -, rfl⟩ := (Rule.mem_of_mapM_parse hshown).mp hr
    rfl
  have hhide : ∀ r ∈ covers ++ hiddenAccess.map .hideAccess, r.exposes = false := by
    intro r hr
    rcases List.mem_append.mp hr with hr | hr
    · obtain ⟨s, -, t, -, rfl⟩ := (Rule.mem_of_mapM_parse hcovers).mp hr
      rfl
    · obtain ⟨a, -, rfl⟩ := List.mem_map.mp hr
      rfl
  have hdefault : ¬ Rule.LastExposes c [.defaultDeny] i := by
    rw [← List.nil_append [Rule.defaultDeny],
      Rule.lastExposes_append_of_hiding (by simp [Rule.exposes])]
    exact fun h => Rule.not_lastExposes_nil h.1
  have hclasses :
      (∃ r ∈ shown, r.Matches c i) ↔ c.Covered classes i ∨ c.Covered declarations i := by
    rw [← Catalog.covered_append]
    exact Rule.exists_matches_iff_covered hshown fun _ => Iff.rfl
  have hhidden : (∃ r ∈ covers, r.Matches c i) ↔ c.Covered hidden i :=
    Rule.exists_matches_iff_covered hcovers fun _ => Iff.rfl
  -- the default and the rules that expose, then the rules that only hide
  rw [rules_pushAll, rules_hideAll, ← List.append_assoc, Rule.lastExposes_append_of_hiding hhide,
    Rule.lastExposes_append_of_exposing hexpose, or_iff_right hdefault, hclasses,
    List.forall_mem_append, ← hhidden, ← Rule.exists_hideAccess_matches_iff he hiddenAccess]
  push Not
  rfl

/-- What the conventional policy of four lists makes of a catalog. -/
structure ConventionalForm (c : Catalog) (classes declarations hidden : List String)
    (hiddenAccess : List Access) (p : Policy) : Prop where
  /-- The decisions by id and by name say the same and follow the formula. -/
  exposed_iff : ∀ i e, c.get? i = some e →
    ∃ d, (resolve c p).decisionFor? i = some d ∧ (resolve c p).isExposed e.name = d.exposed ∧
      (d.exposed = true ↔
        (c.Covered classes i ∨ c.Covered declarations i) ∧ ¬ c.Covered hidden i ∧
          ¬ ((e.kind = .method ∨ e.kind = .field) ∧ e.access ∈ hiddenAccess))
  /-- Order and repetition do not matter, nor on which of the first two lists an entry stands. -/
  exposed_congr : ∀ classes' declarations' hidden' hiddenAccess',
    (∀ s, s ∈ classes' ∨ s ∈ declarations' ↔ s ∈ classes ∨ s ∈ declarations) →
      (∀ s, s ∈ hidden' ↔ s ∈ hidden) → (∀ a, a ∈ hiddenAccess' ↔ a ∈ hiddenAccess) →
        ∃ p', Policy.conventional classes' declarations' hidden' hiddenAccess' = .ok p' ∧
          ∀ i, ((resolve c p').decisionFor? i).map Decision.exposed =
            ((resolve c p).decisionFor? i).map Decision.exposed
  /-- A method or field of a hidden level stays hidden. -/
  hidden_of_access : ∀ i e, c.get? i = some e → e.kind = .method ∨ e.kind = .field →
    e.access ∈ hiddenAccess →
      ∃ d, (resolve c p).decisionFor? i = some d ∧ d.exposed = false

/-- Lists with the same entries expose the same. -/
theorem Policy.map_exposed_congr (hc : c.Sound) {p' : Policy}
    (hp : conventional classes declarations hidden hiddenAccess = .ok p)
    (hp' : conventional classes' declarations' hidden' hiddenAccess' = .ok p')
    (hclasses : ∀ s, s ∈ classes' ∨ s ∈ declarations' ↔ s ∈ classes ∨ s ∈ declarations)
    (hhidden : ∀ s, s ∈ hidden' ↔ s ∈ hidden)
    (haccess : ∀ a, a ∈ hiddenAccess' ↔ a ∈ hiddenAccess) (i : EntityId) :
    ((resolve c p').decisionFor? i).map Decision.exposed =
      ((resolve c p).decisionFor? i).map Decision.exposed := by
  by_cases hi : i < c.size
  · have hshown : ∀ s, s ∈ classes' ++ declarations' ↔ s ∈ classes ++ declarations := by
      simpa using hclasses
    obtain ⟨e, he⟩ := Catalog.lt_size_iff.mp hi
    obtain ⟨d, hd, hexposed⟩ := hc.exists_decision p hi
    obtain ⟨d', hd', hexposed'⟩ := hc.exists_decision p' hi
    rw [lastExposes_conventional_iff hp he] at hexposed
    rw [lastExposes_conventional_iff hp' he, Catalog.covered_congr hhidden, haccess,
      ← Catalog.covered_append, Catalog.covered_congr hshown, Catalog.covered_append,
      ← hexposed] at hexposed'
    rw [hd, hd', Option.map_some, Option.map_some, Bool.eq_iff_iff.mpr hexposed']
  · have hnone (p : Policy) : (resolve c p).decisionFor? i = none :=
      hc.decisionFor?_of_size_le p (Nat.le_of_not_lt hi)
    rw [hnone p, hnone p']

/-- Whenever four lists are accepted, the conventional policy has its closed form. -/
theorem Policy.conventional_closedForm (calls : List Catalog.Call)
    (classes declarations hidden : List String) (hiddenAccess : List Access) (p : Policy)
    (hp : conventional classes declarations hidden hiddenAccess = .ok p) :
    ConventionalForm (Catalog.build calls) classes declarations hidden hiddenAccess p where
  exposed_iff i e he := by
    have hc := Catalog.sound_build calls
    obtain ⟨d, hd, hexposed⟩ := hc.exists_decision p (Catalog.lt_size_iff.mpr ⟨e, he⟩)
    refine ⟨d, hd, ?_, hexposed.trans (lastExposes_conventional_iff hp he)⟩
    rw [Resolution.isExposed, hc.decision?_eq p he, hd, Option.any_some]
  exposed_congr classes' declarations' hidden' hiddenAccess' hclasses hhidden haccess := by
    obtain ⟨p', hp'⟩ :
        ∃ p', conventional classes' declarations' hidden' hiddenAccess' = .ok p' := by
      have hok := exists_conventional_iff.mp ⟨p, hp⟩
      simp only [exists_conventional_iff, hclasses, hhidden]
      exact hok
    exact ⟨p', hp', map_exposed_congr (Catalog.sound_build calls) hp hp' hclasses hhidden haccess⟩
  hidden_of_access i e he hk ha := by
    obtain ⟨d, hd, hexposed⟩ :=
      (Catalog.sound_build calls).exists_decision p (Catalog.lt_size_iff.mpr ⟨e, he⟩)
    refine ⟨d, hd, Bool.eq_false_iff.mpr fun h => ?_⟩
    exact ((lastExposes_conventional_iff hp he).mp (hexposed.mp h)).2.2 ⟨hk, ha⟩

/-- A class is exposed but for a member that is listed and for its private members. -/
theorem Policy.conventional_closedForm_of_class :
    ∃ p, conventional ["A"] ["run"] ["A::helper"] [.priv] = .ok p ∧
      ConventionalForm
        (Catalog.build
          [.add ⟨.top "A", .classType, .notApplicable, none⟩,
            .addMember 0 "run" .method .pub, .addMember 0 "helper" .method .pub,
            .addMember 0 "state" .field .priv])
        ["A"] ["run"] ["A::helper"] [.priv] p := by
  let p : Policy :=
    ⟨[.defaultDeny, .expose (.exact (.top "A")), .expose (.exact (.top "run")),
      .hide (.exact ⟨["A"], "helper"⟩), .hideAccess .priv], rfl⟩
  have hp : conventional ["A"] ["run"] ["A::helper"] [.priv] = .ok p := by decide +kernel
  exact ⟨p, hp, conventional_closedForm _ _ _ _ _ p hp⟩

end Lists

end Exposure
