import Exposure.Proofs.Ascending
import Exposure.Proofs.Glob.Pieces
import Exposure.Proofs.Name.RoundTrip
import Exposure.Proofs.Resolution.Matching

/-!
# Selecting an entity by its written name

A target is text, and so is the written form of a name.  Read as a target, the written form is
either a name, which is looked up, or a glob, which is tried on all written names.  When the names
of a catalog come back from their written forms, both ways lead to the entity: the name that is read
is its own, and a glob matches its own text.
-/

namespace Exposure

variable {c : Catalog} {m : Matcher} {e : Entity} {i : EntityId} {q : QualifiedName} {t : Target}

/-! ## Reading a written name as a target -/

theorem QualifiedName.trim_display (h : parse q.display = q) (hne : q ≠ ⟨[], ""⟩) :
    Text.trim q.display = q.display := by
  have htrimmed := (Text.trimChars_eq_self_iff _).mpr (whole_display h hne).toTrimmed
  rw [Text.trim, htrimmed, String.ofList_toList]

/-- A written name is read as a target without being changed first. -/
theorem Target.parse_display (h : QualifiedName.parse q.display = q) (hne : q ≠ ⟨[], ""⟩) :
    parse q.display =
      if q.display.toList.any Glob.isWildcard then (Glob.ofString q.display).map glob
      else .ok (exact q) := by
  have hempty : q.display.isEmpty = false := by
    rw [Bool.eq_false_iff, ne_eq, String.isEmpty_iff, ← String.toList_eq_nil_iff]
    exact (QualifiedName.whole_display h hne).ne_nil
  simp only [parse, QualifiedName.trim_display h hne, hempty, h, Bool.false_eq_true, if_false]

/-- The empty text is no target. -/
theorem Target.ne_empty_of_parse_display (ht : parse q.display = .ok t) : q ≠ ⟨[], ""⟩ := by
  rintro rfl
  cases ht

/-- The target that a written name is read as names what the name belongs to. -/
theorem Target.names_of_parse_display (h : QualifiedName.parse q.display = q)
    (ht : parse q.display = .ok t) : t.Names q := by
  rw [parse_display h (ne_empty_of_parse_display ht)] at ht
  split at ht
  · cases hg : Glob.ofString q.display with
    | error err =>
        rw [hg] at ht
        cases ht
    | ok g =>
        rw [hg] at ht
        obtain rfl := Except.ok.inj ht
        have hself := g.isMatch_source
        rwa [Glob.source_of_ofString hg] at hself
  · obtain rfl := Except.ok.inj ht
    rfl

/-! ## Looking up and scanning -/

/-- Names that come back from their written forms are told apart by them. -/
theorem QualifiedName.display_inj {p : QualifiedName} (hp : parse p.display = p)
    (hq : parse q.display = q) : p.display = q.display ↔ p = q := by
  refine ⟨fun h => ?_, fun h => h ▸ rfl⟩
  rw [← hp, h, hq]

/-- The ids of the entities whose written name is a given text. -/
def Catalog.writtenAs (c : Catalog) (text : String) : List EntityId :=
  (c.iter.filter fun x => x.2.name.display = text).map Prod.fst

/-- A scan for the written name of an entity finds this entity alone. -/
theorem Catalog.Sound.writtenAs_display (hc : c.Sound)
    (hnames : ∀ e ∈ c.entities, QualifiedName.parse e.name.display = e.name)
    (he : c.get? i = some e) : c.writtenAs e.name.display = [i] := by
  have hid : ∀ x ∈ c.iter, (x.2.name.display = e.name.display) = (x.1 = i) := by
    rintro ⟨j, f⟩ hx
    have hf := mem_iter.mp hx
    rw [eq_iff_iff, QualifiedName.display_inj (hnames f (List.mem_of_getElem? hf))
      (hnames e (List.mem_of_getElem? he))]
    constructor
    · exact fun hname => hc.admissible.eq_of_name_eq hf he hname
    · rintro rfl
      rw [Option.some.inj (hf.symm.trans he)]
  have hfilter : c.iter.filter (fun x => x.2.name.display = e.name.display) =
      c.iter.filter fun x => x.1 = i :=
    List.filter_congr fun x hx => by simp only [hid x hx]
  have hmem : i ∈ List.range c.size := List.mem_range.mpr (lt_size_iff.mpr ⟨e, he⟩)
  calc
    c.writtenAs e.name.display = (c.iter.filter fun x => x.1 = i).map Prod.fst := by
      rw [writtenAs, hfilter]
    _ = (List.range c.size).filter (· = i) := by
      rw [← map_fst_iter, List.filter_map]
      rfl
    _ = [i] := by
      rw [List.filter_eq, List.count_eq_one_of_mem List.nodup_range hmem]
      rfl

theorem Target.reaches_exact_iff (hc : c.Sound) (he : c.get? i = some e) {j : EntityId} :
    (exact e.name).Reaches c j ↔ j = i ∨ e.kind = .classType ∧ c.Encloses i j := by
  constructor
  · rintro ⟨r, f, hf, hname, h⟩
    obtain rfl := hc.admissible.eq_of_name_eq hf he hname
    obtain rfl := Option.some.inj (hf.symm.trans he)
    exact h.imp_left Eq.symm
  · exact fun h => ⟨i, e, he, rfl, h.imp_left Eq.symm⟩

namespace Matcher

/-- A matcher that has been put to a sequence of rules. -/
def afterRules (c : Catalog) (rules : List Rule) : Matcher :=
  rules.foldl (fun m r => (m.matched c r).2) {}

theorem faithful_afterRules (c : Catalog) (rules : List Rule) :
    (afterRules c rules).Faithful c := by
  -- for any faithful start, since the written names may have been built by an earlier glob
  suffices h : ∀ m : Matcher, m.Faithful c →
      (rules.foldl (fun m r => (m.matched c r).2) m).Faithful c from h _ (faithful_new c)
  induction rules with
  | nil => exact fun _ h => h
  | cons r rules ih => exact fun m h => ih _ (h.snd_matched r)

/-- The name of an entity names it alone. -/
theorem named_exact (hc : c.Sound) (he : c.get? i = some e) :
    (m.named c (.exact e.name)).1 = [i] := by
  rw [named, hc.lookup_eq_some_iff.mpr ⟨e, he, rfl⟩, Option.toList_some]

/-- The rule of a name matches its entity and, when it is a class, what lies in it. -/
theorem matched_exact (hc : c.Sound) (hm : m.Faithful c) (he : c.get? i = some e) :
    (m.matched c (.expose (.exact e.name))).1 =
      i :: if e.kind = .classType then c.membersTransitive i else [] := by
  have hascending : (i :: if e.kind = .classType then c.membersTransitive i else []).SortedLT := by
    rw [List.sortedLT_iff_pairwise, List.pairwise_cons]
    split
    · refine ⟨fun j hj => ?_, (hc.sortedLT_membersTransitive i).pairwise⟩
      exact hc.lt_of_encloses (hc.mem_membersTransitive.mp hj)
    · exact ⟨by simp, .nil⟩
  apply (sortedLT_matched c m _).eq_of_mem_iff hascending
  intro j
  refine (mem_reached hc hm).trans ?_
  rw [Target.reaches_exact_iff hc he, List.mem_cons]
  split_ifs with hk
  · rw [and_iff_right hk, hc.mem_membersTransitive]
  · rw [or_iff_left fun h => hk h.1, or_iff_left List.not_mem_nil]

end Matcher

/-! ## Selection -/

/-- A text without wildcards. -/
def Target.Plain (text : String) : Prop := ∀ ch ∈ text.toList, ch ≠ '*' ∧ ch ≠ '?'

theorem Target.plain_iff {text : String} :
    Plain text ↔ text.toList.any Glob.isWildcard = false := by
  rw [List.any_eq_false]
  refine forall₂_congr fun ch _ => ?_
  rw [Bool.not_eq_true, Glob.isWildcard_eq_false_iff]

/-- What the written name of an entity selects when it is given as a target. -/
structure SelectsByText (c : Catalog) (i : EntityId) (e : Entity) : Prop where
  /-- Without wildcards it is read as the name of the entity. -/
  parse_of_plain : Target.Plain e.name.display → Target.parse e.name.display = .ok (.exact e.name)
  /-- With wildcards it is read as a glob, and refused only when this is too large. -/
  parse_of_not_plain : ¬ Target.Plain e.name.display →
    Target.parse e.name.display = (Glob.ofString e.name.display).map .glob
  /-- The entity is matched, with wildcards or without, whatever rules the matcher has seen. -/
  mem_matched : ∀ t rules, Target.parse e.name.display = .ok t →
    i ∈ ((Matcher.afterRules c rules).matched c (.expose t)).1
  /-- Without wildcards the look-up finds what a scan for the written name finds. -/
  named_of_plain : Target.Plain e.name.display → ∀ t rules, Target.parse e.name.display = .ok t →
    ((Matcher.afterRules c rules).named c t).1 = c.writtenAs e.name.display
  /-- Without wildcards exactly the entity is matched and, when it is a class, what lies in it. -/
  matched_of_plain : Target.Plain e.name.display → ∀ t rules, Target.parse e.name.display = .ok t →
    ((Matcher.afterRules c rules).matched c (.expose t)).1 =
      i :: if e.kind = .classType then c.membersTransitive i else []

theorem Catalog.Sound.selectsByText (hc : c.Sound)
    (hnames : ∀ e ∈ c.entities, e.name ≠ ⟨[], ""⟩ ∧ QualifiedName.parse e.name.display = e.name)
    (he : c.get? i = some e) : SelectsByText c i e := by
  obtain ⟨hne, hname⟩ := hnames e (List.mem_of_getElem? he)
  have hplain (h : Target.Plain e.name.display) :
      Target.parse e.name.display = .ok (.exact e.name) := by
    rw [Target.parse_display hname hne, Target.plain_iff.mp h, if_neg Bool.false_ne_true]
  refine ⟨hplain, fun h => ?_, fun t rules ht => ?_, fun h t rules ht => ?_, fun h t rules ht => ?_⟩
  · rw [Target.plain_iff, Bool.not_eq_false] at h
    rw [Target.parse_display hname hne, if_pos h]
  · refine (Matcher.mem_reached hc (Matcher.faithful_afterRules c rules)).mpr ?_
    exact ⟨i, e, he, Target.names_of_parse_display hname ht, .inl rfl⟩
  · obtain rfl := Except.ok.inj ((hplain h).symm.trans ht)
    rw [Matcher.named_exact hc he, hc.writtenAs_display (fun f hf => (hnames f hf).2) he]
  · obtain rfl := Except.ok.inj ((hplain h).symm.trans ht)
    exact Matcher.matched_exact hc (Matcher.faithful_afterRules c rules) he

/-- When all names that calls build come back from their written forms, each of these forms selects
its entity. -/
theorem Catalog.build_selectsByText (calls : List Catalog.Call)
    (hnames : ∀ e ∈ (Catalog.build calls).entities,
      e.name ≠ ⟨[], ""⟩ ∧ QualifiedName.parse e.name.display = e.name)
    (i : EntityId) (e : Entity) (he : (Catalog.build calls).get? i = some e) :
    SelectsByText (Catalog.build calls) i e :=
  (Catalog.sound_build calls).selectsByText hnames he

/-- A class with a method whose name has a wildcard, beside a function. -/
theorem Catalog.build_selectsByText_of_operator :
    let calls : List Catalog.Call :=
      [.add ⟨⟨["math"], "vec<a::b>"⟩, .classType, .notApplicable, none⟩,
        .addMember 0 "operator*" .method .pub, .add ⟨.top "dot", .function, .notApplicable, none⟩]
    let star : Entity := ⟨⟨["math", "vec<a::b>"], "operator*"⟩, .method, .pub, some 0⟩
    (∀ e ∈ (Catalog.build calls).entities,
        e.name ≠ ⟨[], ""⟩ ∧ QualifiedName.parse e.name.display = e.name) ∧
      (Catalog.build calls).get? 1 = some star ∧ SelectsByText (Catalog.build calls) 1 star := by
  intro calls star
  have hnames : ∀ e ∈ (Catalog.build calls).entities,
      e.name ≠ ⟨[], ""⟩ ∧ QualifiedName.parse e.name.display = e.name := by
    decide +kernel
  have hstar : (Catalog.build calls).get? 1 = some star := by decide +kernel
  exact ⟨hnames, hstar, Catalog.build_selectsByText calls hnames 1 star hstar⟩

end Exposure
