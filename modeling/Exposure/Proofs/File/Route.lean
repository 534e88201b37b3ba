import Mathlib.Data.List.DropRight
import Exposure.Proofs.File.Footprint

/-!
# Where a path below a directory leads

A path is joined to a directory as text, and where the joined path leads shows only when its steps
are gone.  An absolute path leads where it leads by itself.  The steps of any other come behind
those of the directory, and what they amount to is a route: some directories up, then some names
down.  So such a path stays below the directory exactly when the way down begins with the names
that were left on the way up.
-/

namespace Exposure

namespace Path

variable {base path : String} {cs : List Char}

theorem pieces_append_slash (cs ds : List Char) :
    pieces (cs ++ '/' :: ds) = pieces cs ++ pieces ds := by
  induction cs with
  | nil => rfl
  | cons c cs ih =>
      by_cases hc : c = '/'
      · simp [pieces, hc, ih]
      · obtain ⟨p, ps, hp⟩ := List.exists_cons_of_ne_nil (pieces_ne_nil cs)
        simp [pieces, hc, ih, hp]

theorem pieces_of_notMem (h : '/' ∉ cs) : pieces cs = [cs] := by
  induction cs with
  | nil => rfl
  | cons c cs ih =>
      obtain ⟨hc, hcs⟩ := List.ne_and_not_mem_of_not_mem_cons h
      rw [pieces, if_neg (Ne.symm hc), ih hcs]
      rfl

theorem isAbsolute_append (h : base ≠ "") : isAbsolute (base ++ path) = isAbsolute base := by
  have hbase : base.toList ≠ [] := by simpa using h
  rw [isAbsolute, isAbsolute, String.toList_append, List.head?_append_of_ne_nil _ hbase]

/-- A path below another one starts where the other one starts. -/
theorem isAbsolute_join (h : isAbsolute path = false) :
    isAbsolute (join base path) = isAbsolute base := by
  rw [join, h, if_neg Bool.false_ne_true]
  by_cases hbase : base = ""
  · subst hbase
    simpa [isAbsolute] using h
  · split
    · exact isAbsolute_append hbase
    · rw [String.append_assoc]
      exact isAbsolute_append hbase

end Path

namespace FileTree

open Exposure.Path (isAbsolute join)

variable {t : FileTree} {base path : String} {place : List String}

/-! ## Steps -/

theorem steps_append_slash (base path : String) :
    steps (base ++ "/" ++ path) = steps base ++ steps path := by
  have hcut : (base ++ "/" ++ path).toList = base.toList ++ '/' :: path.toList := by simp
  rw [steps, hcut, Path.pieces_append_slash, List.filter_append, List.map_append]
  rfl

theorem steps_of_notMem (hpath : path ≠ "") (h : '/' ∉ path.toList) : steps path = [path] := by
  rw [steps, Path.pieces_of_notMem h]
  simp [hpath]

/-- The steps of a joined path are those of the two paths. -/
theorem steps_join (h : isAbsolute path = false) :
    steps (join base path) = steps base ++ steps path := by
  rw [join, h, if_neg Bool.false_ne_true]
  split
  · next hbase =>
    obtain rfl | ⟨cs, hcs⟩ : base = "" ∨ ∃ cs, base.toList = cs ++ ['/'] := by
      simpa [List.getLast?_eq_some_iff] using hbase
    · rw [String.empty_append]
      rfl
    · -- the slash at the end of the directory cuts as one between the two would
      obtain rfl : base = String.ofList cs ++ "/" := by
        rw [← String.toList_inj, hcs]
        simp
      have hend := steps_append_slash (String.ofList cs) ""
      rw [String.append_empty] at hend
      rw [steps_append_slash, hend]
      simp [steps, Path.pieces]
  · exact steps_append_slash base path

/-- A relative path below a directory leads where its steps lead from there. -/
theorem placeOf_join (h : isAbsolute path = false) :
    t.placeOf (join base path) = (steps path).foldl stepPlace (t.placeOf base) := by
  rw [placeOf, origin, Path.isAbsolute_join h, steps_join h, List.foldl_append]
  rfl

/-! ## Routes -/

/-- A way that goes up first and then down. -/
structure Route where
  /-- How many directories it goes up. -/
  ups : Nat
  /-- The names that it then goes down. -/
  downs : List String
deriving DecidableEq, Repr

namespace Route

variable {r : Route}

/-- The route with one more step. -/
def step (r : Route) (name : String) : Route :=
  if name = "." then r
  else if name = ".." then
    if r.downs = [] then { r with ups := r.ups + 1 } else { r with downs := r.downs.dropLast }
  else { r with downs := r.downs ++ [name] }

/-- The route of some steps. -/
def ofSteps (names : List String) : Route := names.foldl step ⟨0, []⟩

/-- Where a route leads from a place.  Above the root it stays at the root. -/
def placeFrom (r : Route) (place : List String) : List String := place.rdrop r.ups ++ r.downs

theorem placeFrom_nil (r : Route) : r.placeFrom [] = r.downs := by
  rw [placeFrom, List.rdrop_nil, List.nil_append]

theorem rdrop_succ (n : ℕ) : place.rdrop (n + 1) = (place.rdrop n).dropLast := by
  rw [List.rdrop, List.rdrop, List.dropLast_eq_take, List.take_take, List.length_take]
  congr 1
  omega

/-- One more step on a route is one more step from where the route leads. -/
theorem placeFrom_step (r : Route) (name : String) :
    (r.step name).placeFrom place = stepPlace (r.placeFrom place) name := by
  rw [step, stepPlace]
  split
  · rfl
  split
  · split
    · next hdowns =>
      rw [placeFrom, placeFrom, hdowns, List.append_nil, List.append_nil]
      exact rdrop_succ r.ups
    · next hdowns => exact (List.dropLast_append_of_ne_nil hdowns).symm
  · exact (List.append_assoc ..).symm

/-- Some steps lead where their route leads. -/
theorem placeFrom_ofSteps (names : List String) :
    (ofSteps names).placeFrom place = names.foldl stepPlace place := by
  -- the route grows at its end as the place does
  induction names using List.reverseRecOn with
  | nil => simp [ofSteps, placeFrom]
  | append_singleton names name ih =>
      rw [ofSteps, List.foldl_concat, List.foldl_concat, ← ofSteps, placeFrom_step, ih]

/-- A route leads below its start when it goes down again by the names it went up. -/
theorem isPrefix_placeFrom_iff : place <+: r.placeFrom place ↔ place.rtake r.ups <+: r.downs := by
  calc place <+: r.placeFrom place
      ↔ place.rdrop r.ups ++ place.rtake r.ups <+: place.rdrop r.ups ++ r.downs := by
        rw [List.rdrop, List.rtake, List.take_append_drop]
        rfl
    _ ↔ place.rtake r.ups <+: r.downs := List.prefix_append_right_inj _

end Route

/-- The route of a path. -/
def route (path : String) : Route := Route.ofSteps (steps path)

/-! ## Below a directory -/

/-- A path leads to where a directory stands or below it. -/
def Below (t : FileTree) (directory path : String) : Prop :=
  t.placeOf directory <+: t.placeOf path

instance (directory path : String) : Decidable (t.Below directory path) :=
  inferInstanceAs (Decidable (t.placeOf directory <+: t.placeOf path))

theorem below_join_iff_of_isAbsolute (h : isAbsolute path = true) :
    t.Below base (join base path) ↔ t.placeOf base <+: (route path).downs := by
  have hplace : t.placeOf path = (route path).downs := by
    rw [placeOf, origin, if_pos h, ← Route.placeFrom_ofSteps, Route.placeFrom_nil, route]
  rw [Below, Path.join_of_isAbsolute h, hplace]

theorem below_join_iff (h : isAbsolute path = false) :
    t.Below base (join base path) ↔
      (t.placeOf base).rtake (route path).ups <+: (route path).downs := by
  rw [Below, placeOf_join h, ← Route.placeFrom_ofSteps]
  exact Route.isPrefix_placeFrom_iff

/-- A name leads below the directory that it is joined to. -/
theorem below_join_of_notMem (hempty : path ≠ "") (hup : path ≠ "..") (h : '/' ∉ path.toList) :
    t.Below base (join base path) := by
  have hrelative : isAbsolute path = false := by
    rw [isAbsolute, decide_eq_false_iff_not]
    exact fun hhead => h (List.mem_of_head? hhead)
  have hups : (route path).ups = 0 := by
    simp only [route, steps_of_notMem hempty h, Route.ofSteps, List.foldl_cons, List.foldl_nil,
      Route.step, if_neg hup]
    split <;> rfl
  rw [below_join_iff hrelative, hups, List.rtake_zero]
  exact List.nil_prefix

end FileTree

end Exposure
