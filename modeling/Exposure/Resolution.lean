import Exposure.Matcher
import Exposure.Policy.Basic

/-!
# Resolution of a policy over a catalog

Every entity starts hidden, decided by the default.  The later rules are applied in their order;
each overwrites the decisions of the entities that it matches, so the last rule that matches
decides.  A rule that matches nothing is inert.
-/

namespace Exposure

/-- The outcome for one entity, with the place of the rule that decided it. -/
structure Decision where
  exposed : Bool
  ruleIndex : Nat
deriving DecidableEq, Repr

/-- The decisions for a catalog, with the rules that made them. -/
structure Resolution where
  /-- The names with their decisions, in the order of the catalog. -/
  entries : List (QualifiedName × Decision)
  /-- The places of the names among the entries. -/
  index : NameIndex
  /-- The texts of the rules. -/
  rules : List String
  /-- The places of the rules after the default that match nothing. -/
  inert : List Nat
deriving DecidableEq, Repr

/-! ## Applying the rules -/

/-- How far the rules have been applied. -/
structure Progress where
  /-- The decisions so far, in the order of the catalog. -/
  decisions : List Decision
  /-- The places of the rules that matched nothing. -/
  inert : List Nat
  matcher : Matcher
deriving DecidableEq, Repr

namespace Progress

/-- Before the first rule after the default: everything is hidden. -/
def start (c : Catalog) : Progress := ⟨List.replicate c.size ⟨false, 0⟩, [], {}⟩

/-- Overwrite the decisions of the listed entities. -/
def overwrite (ids : List EntityId) (d : Decision) (ds : List Decision) : List Decision :=
  ids.foldl (fun ds i => ds.set i d) ds

/-- Apply the rule at a place of the policy. -/
def apply (c : Catalog) (s : Progress) (r : Rule × Nat) : Progress :=
  let (ids, matcher) := s.matcher.matched c r.1
  if ids.isEmpty then
    { s with inert := s.inert ++ [r.2], matcher }
  else
    { s with decisions := overwrite ids ⟨r.1.exposes, r.2⟩ s.decisions, matcher }

/-- Apply the rules after the default. -/
def run (c : Catalog) (p : Policy) : Progress :=
  (p.rules.zipIdx.drop 1).foldl (apply c) (start c)

end Progress

/-- Decide every entity of a catalog. -/
def resolve (c : Catalog) (p : Policy) : Resolution :=
  let s := Progress.run c p
  let names := c.iter.map fun x => x.2.name
  { entries := names.zip s.decisions
    index := .ofNames names
    rules := p.rules.map Rule.display
    inert := s.inert }

namespace Resolution

/-! ## Views -/

/-- The number of entities. -/
def size (r : Resolution) : Nat := r.entries.length

/-- The decision for a name. -/
def decision? (r : Resolution) (q : QualifiedName) : Option Decision :=
  (r.index.get? q).bind fun i => (r.entries[i]?).map Prod.snd

/-- The decision for an id. -/
def decisionFor? (r : Resolution) (i : EntityId) : Option Decision :=
  (r.entries[i]?).map Prod.snd

/-- Whether a name is exposed; an unknown one is not. -/
def isExposed (r : Resolution) (q : QualifiedName) : Bool :=
  (r.decision? q).any Decision.exposed

/-- The exposed names, in the order of the catalog. -/
def exposedNames (r : Resolution) : List QualifiedName :=
  (r.entries.filter (·.2.exposed)).map Prod.fst

/-- The number of exposed entities. -/
def exposedCount (r : Resolution) : Nat := r.entries.countP (·.2.exposed)

/-- The number of hidden entities. -/
def hiddenCount (r : Resolution) : Nat := r.size - r.exposedCount

/-- The text of the rule at a place. -/
def ruleText (r : Resolution) (i : Nat) : String := (r.rules[i]?).getD "unknown rule"

/-- Why a name is exposed or hidden. -/
def explain? (r : Resolution) (q : QualifiedName) : Option String :=
  (r.decision? q).map fun d =>
    let verdict := if d.exposed then "exposed" else "hidden"
    s!"`{q.display}` {verdict} by rule #{d.ruleIndex} ({r.ruleText d.ruleIndex})"

/-! ## The decisions by written name -/

/-- Put a value under a key into a list ordered by its keys; an earlier value of the key is lost. -/
def insertSorted (k : String) (v : Decision) :
    List (String × Decision) → List (String × Decision)
  | [] => [(k, v)]
  | (k', v') :: rest =>
      match compare k k' with
      | .lt => (k, v) :: (k', v') :: rest
      | .eq => (k, v) :: rest
      | .gt => (k', v') :: insertSorted k v rest

/-- The decisions by written name, ordered by it; the last of the entities that are written alike
gives the decision. -/
def toMap (r : Resolution) : List (String × Decision) :=
  r.entries.foldl (fun m e => insertSorted e.1.display e.2 m) []

end Resolution

/-! ## Small facts -/

namespace Progress

@[simp] theorem length_overwrite (ids : List EntityId) (d : Decision) (ds : List Decision) :
    (overwrite ids d ds).length = ds.length := by
  induction ids generalizing ds with
  | nil => rfl
  | cons i is ih => simpa [overwrite] using ih (ds.set i d)

/-- The listed entities have the new decision, the others keep theirs. -/
theorem getElem?_overwrite (ids : List EntityId) (d : Decision) (ds : List Decision) (i : Nat) :
    (overwrite ids d ds)[i]? = (ds[i]?).map fun old => if i ∈ ids then d else old := by
  induction ids generalizing ds with
  | nil => simp [overwrite]
  | cons j js ih =>
      have hstep : overwrite (j :: js) d ds = overwrite js d (ds.set j d) := rfl
      rw [hstep, ih, List.getElem?_set]
      by_cases hj : j = i
      · subst hj
        by_cases hl : j < ds.length
        · simp [hl]
        · simp [hl]
      · have hi : ¬ i = j := fun h => hj h.symm
        simp [hj, hi]

@[simp] theorem decisions_apply (c : Catalog) (s : Progress) (r : Rule × Nat) :
    (apply c s r).decisions =
      overwrite (s.matcher.matched c r.1).1 ⟨r.1.exposes, r.2⟩ s.decisions := by
  unfold apply
  cases h : (s.matcher.matched c r.1).1 <;> simp [h, overwrite]

@[simp] theorem inert_apply (c : Catalog) (s : Progress) (r : Rule × Nat) :
    (apply c s r).inert =
      if (s.matcher.matched c r.1).1 = [] then s.inert ++ [r.2] else s.inert := by
  unfold apply
  cases h : (s.matcher.matched c r.1).1 <;> simp [h]

@[simp] theorem matcher_apply (c : Catalog) (s : Progress) (r : Rule × Nat) :
    (apply c s r).matcher = (s.matcher.matched c r.1).2 := by
  unfold apply
  cases h : (s.matcher.matched c r.1).1 <;> simp [h]

/-- Rules change decisions and neither add nor remove any. -/
@[simp] theorem length_decisions_foldl (c : Catalog) (s : Progress) (rs : List (Rule × Nat)) :
    (rs.foldl (apply c) s).decisions.length = s.decisions.length := by
  induction rs generalizing s with
  | nil => rfl
  | cons r rs ih => simp [ih]

end Progress

namespace Resolution

@[simp] theorem size_resolve (c : Catalog) (p : Policy) : (resolve c p).size = c.size := by
  simp [resolve, size, Progress.run, Progress.start]

theorem decisionFor?_resolve (c : Catalog) (p : Policy) (i : EntityId) :
    (resolve c p).decisionFor? i = (Progress.run c p).decisions[i]? := by
  rw [decisionFor?, ← List.getElem?_map, resolve, List.map_snd_zip]
  simp [Progress.run, Progress.start]

end Resolution

end Exposure
