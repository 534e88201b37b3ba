import Mathlib.Logic.Function.Basic
import Exposure.File.Tree

/-!
# What operations on files may change

An operation touches some paths when it changes nothing but what stands where these paths lead, and
every path goes on leading where it led.  In a confined system creating a directory and writing a
file touch their own path, and looking something up touches none.  What is built from these
operations touches the paths of its parts.  The tree of files is a confined system; in it a file has
the text that was last written to where it stands.
-/

namespace Exposure

namespace FileSystem

variable {σ κ ε α β : Type} {entry : σ → κ → ε} {place : σ → String → κ}
  {x : StateM σ α} {f : α → StateM σ β} {ps qs : List String}

/-- An effect that changes what stands where the listed paths lead, and nothing else. -/
def Touches (entry : σ → κ → ε) (place : σ → String → κ) (ps : List String) (x : StateM σ α) :
    Prop :=
  ∀ w, place (x.run w).2 = place w ∧
    ∀ k, (∀ p ∈ ps, k ≠ place w p) → entry (x.run w).2 k = entry w k

theorem Touches.of_unchanged (h : ∀ w, (x.run w).2 = w) : Touches entry place ps x := by
  intro w
  rw [h w]
  exact ⟨rfl, fun _ _ => rfl⟩

theorem Touches.mono (h : Touches entry place ps x) (hsub : ps ⊆ qs) : Touches entry place qs x :=
  fun w => ⟨(h w).1, fun k hk => (h w).2 k fun p hp => hk p (hsub hp)⟩

theorem Touches.bind (hx : Touches entry place ps x) (hf : ∀ a, Touches entry place ps (f a)) :
    Touches entry place ps (x >>= f) := by
  intro w
  obtain ⟨hplace, hentry⟩ := hx w
  obtain ⟨hplace', hentry'⟩ := hf (x.run w).1 (x.run w).2
  refine ⟨hplace'.trans hplace, fun k hk => ?_⟩
  exact (hentry' k fun p hp => hplace ▸ hk p hp).trans (hentry k hk)

/-- A system in which each operation touches its own path at most. -/
structure Confined [FileSystem (StateM σ)] (entry : σ → κ → ε) (place : σ → String → κ) :
    Prop where
  workingDirectory : ∀ w, ((FileSystem.workingDirectory : StateM σ _).run w).2 = w
  isDirectory : ∀ path w, ((FileSystem.isDirectory path : StateM σ _).run w).2 = w
  createDirectory : ∀ path, Touches entry place [path] (FileSystem.createDirectory path)
  writeFile : ∀ path text, Touches entry place [path] (FileSystem.writeFile path text)

section Directories

variable [FileSystem (StateM σ)] {path : String}

theorem touches_orIsDirectory
    (hquery : ∀ path w, ((isDirectory path : StateM σ _).run w).2 = w) (path : String)
    (e : FileError) :
    Touches entry place ps (do
      if ← isDirectory path then pure (.ok ()) else pure (.error e) :
        StateM σ (Except FileError Unit)) := by
  refine .bind (.of_unchanged (hquery path)) fun found => ?_
  cases found <;> exact .of_unchanged fun _ => rfl

theorem touches_ensureDirectory
    (hquery : ∀ path w, ((isDirectory path : StateM σ _).run w).2 = w)
    (h : Touches entry place ps (createDirectory path)) :
    Touches entry place ps (ensureDirectory path) := by
  refine h.bind fun r => ?_
  cases r with
  | ok => exact .of_unchanged fun _ => rfl
  | error e => exact touches_orIsDirectory hquery path e

/-- Creating directories touches no more than creating each of them by itself. -/
theorem touches_createChain {above : List String}
    (hquery : ∀ path w, ((isDirectory path : StateM σ _).run w).2 = w)
    (h : ∀ path ∈ above, Touches entry place ps (createDirectory path)) :
    Touches entry place ps (createChain above) := by
  induction above with
  | nil => exact .of_unchanged fun _ => rfl
  | cons path above ih =>
      obtain ⟨hpath, habove⟩ := List.forall_mem_cons.mp h
      rw [createChain]
      split
      · exact .of_unchanged fun _ => rfl
      · refine hpath.bind fun r => ?_
        split
        -- what is above is missing, and the directory is tried again behind it
        · refine (ih habove).bind fun r => ?_
          cases r with
          | ok => exact touches_ensureDirectory hquery hpath
          | error e => exact .of_unchanged fun _ => rfl
        · exact .of_unchanged fun _ => rfl
        · exact touches_orIsDirectory hquery path _

/-- Creating a directory with all directories above it touches these. -/
theorem Confined.createDirectories (h : Confined entry place) (path : String) :
    Touches entry place (ancestors path.length path) (createDirectories path) :=
  touches_createChain h.isDirectory fun p hp =>
    (h.createDirectory p).mono (by simpa using hp)

end Directories

end FileSystem

/-! ## The tree of files -/

namespace FileTree

variable {t t' : FileTree} {path text : String} {place : List String} {names : List String}
  {e : FileEntry} {found : List String × FileEntry}

/-- Where one more step leads. -/
def stepPlace (place : List String) (name : String) : List String :=
  if name = "." then place else if name = ".." then place.dropLast else place ++ [name]

/-- Where a path leads, whether or not there is something on the way. -/
def placeOf (t : FileTree) (path : String) : List String :=
  (steps path).foldl stepPlace (t.origin path)

theorem place_of_step {name : String} (h : t.step place name = .ok found) :
    found.1 = stepPlace place name := by
  by_cases hdot : name = "."
  · rw [step, if_pos hdot] at h
    cases h
    rw [stepPlace, if_pos hdot]
  by_cases hup : name = ".."
  · rw [step, if_neg hdot, if_pos hup] at h
    cases h
    rw [stepPlace, if_neg hdot, if_pos hup]
  · rw [step, if_neg hdot, if_neg hup] at h
    rw [stepPlace, if_neg hdot, if_neg hup]
    split at h
    · cases h
    · split at h <;> cases h
      rfl

theorem place_of_walk (h : t.walk place e names = .ok found) :
    found.1 = names.foldl stepPlace place := by
  induction names generalizing place e with
  | nil =>
      cases h
      rfl
  | cons name names ih =>
      cases e with
      | file text => cases h
      | directory =>
          rw [walk] at h
          cases hstep : t.step place name with
          | error e => simp [hstep, bind, Except.bind] at h
          | ok next =>
              rw [hstep] at h
              rw [ih h, place_of_step hstep, List.foldl_cons]

theorem exists_of_bind_eq_ok {α β : Type} {x : Except FileError α} {f : α → Except FileError β}
    {b : β} (h : x >>= f = .ok b) : ∃ a, x = .ok a ∧ f a = .ok b := by
  cases x with
  | error e => cases h
  | ok a => exact ⟨a, rfl, h⟩

/-- Where a path leads that was followed to its last step. -/
theorem placeOf_of_followToLast {special : FileError} {name : String}
    (h : t.followToLast path special = .ok (place, name)) : t.placeOf path = place ++ [name] := by
  obtain ⟨-, -, h⟩ := exists_of_bind_eq_ok h
  split at h
  · cases h
  · next last hlast =>
    obtain ⟨⟨place', e⟩, hwalk, h⟩ := exists_of_bind_eq_ok h
    dsimp only at h
    split at h
    · cases h
    split at h
    · cases h
    next hname =>
    cases h
    obtain ⟨hdot, hup⟩ : name ≠ "." ∧ name ≠ ".." := by simpa using hname
    obtain ⟨above, hsteps⟩ := List.getLast?_eq_some_iff.mp hlast
    rw [hsteps, List.dropLast_concat] at hwalk
    have hplace : place = above.foldl stepPlace (t.origin path) := place_of_walk hwalk
    rw [placeOf, hsteps, List.foldl_append, ← hplace, List.foldl_cons, List.foldl_nil, stepPlace,
      if_neg hdot, if_neg hup]

/-- A file is written where its path leads; no directory stands there. -/
theorem of_writeFile_eq_ok (h : t.writeFile path text = .ok t') :
    t' = t.put (t.placeOf path) (.file text) ∧ t.placeOf path ≠ [] ∧
      t.find? (t.placeOf path) ≠ some .directory := by
  obtain ⟨⟨place, name⟩, hfollow, h⟩ := exists_of_bind_eq_ok h
  dsimp only at h
  split at h
  · cases h
  split at h
  · cases h
  split at h
  · cases h
  next hfind =>
  cases h
  rw [placeOf_of_followToLast hfollow]
  exact ⟨rfl, List.concat_ne_nil _ _, hfind⟩

/-- A directory is created where its path leads; nothing stands there. -/
theorem of_createDirectory_eq_ok (h : t.createDirectory path = .ok t') :
    t' = t.put (t.placeOf path) .directory ∧ t.placeOf path ≠ [] ∧
      t.find? (t.placeOf path) = none := by
  obtain ⟨⟨place, name⟩, hfollow, h⟩ := exists_of_bind_eq_ok h
  dsimp only at h
  split at h
  · cases h
  split at h
  · cases h
  next hfind =>
  cases h
  rw [placeOf_of_followToLast hfollow]
  exact ⟨rfl, List.concat_ne_nil _ _, by simpa using hfind⟩

theorem run_update_of_ok {f : FileTree → Except FileError FileTree} (h : f t = .ok t') :
    (update f).run t = (.ok (), t') := by
  simp only [update, StateT.run, h]

theorem run_update_of_error {f : FileTree → Except FileError FileTree} {e : FileError}
    (h : f t = .error e) : (update f).run t = (.error e, t) := by
  simp only [update, StateT.run, h]

/-- An operation that puts something somewhere touches what is other than before. -/
theorem touches_update {ε : Type} {entry : FileTree → List String → ε} {ps : List String}
    {f : FileTree → Except FileError FileTree}
    (h : ∀ t t', f t = .ok t' → ∃ place e, t' = t.put place e ∧
      ∀ k, (∀ p ∈ ps, k ≠ t.placeOf p) → entry t' k = entry t k) :
    FileSystem.Touches entry placeOf ps (update f) := by
  intro t
  cases hf : f t with
  | error e =>
      rw [run_update_of_error hf]
      exact ⟨rfl, fun _ _ => rfl⟩
  | ok t' =>
      rw [run_update_of_ok hf]
      obtain ⟨place, e, rfl, hentry⟩ := h t t' hf
      exact ⟨rfl, hentry⟩

/-- A tree of files is confined: its operations go by where paths lead. -/
theorem confined : FileSystem.Confined find? placeOf where
  workingDirectory _ := rfl
  isDirectory _ _ := rfl
  createDirectory path := by
    refine touches_update fun t t' h => ?_
    obtain ⟨rfl, -, -⟩ := of_createDirectory_eq_ok h
    exact ⟨_, _, rfl, fun k hk => t.find?_put_of_ne (hk path List.mem_cons_self) _⟩
  writeFile path text := by
    refine touches_update fun t t' h => ?_
    obtain ⟨rfl, -, -⟩ := of_writeFile_eq_ok h
    exact ⟨_, _, rfl, fun k hk => t.find?_put_of_ne (hk path List.mem_cons_self) _⟩

/-! ## The texts of files -/

/-- The text of the file at a place, if there is one. -/
def fileAt (t : FileTree) (place : List String) : Option String :=
  match t.find? place with
  | some (.file text) => some text
  | _ => none

theorem fileAt_put_directory (h : t.find? place = none) :
    (t.put place .directory).fileAt = t.fileAt := by
  have hne : place ≠ [] := by
    rintro rfl
    cases h
  funext k
  by_cases hk : k = place
  · subst hk
    rw [fileAt, fileAt, find?_put_self t hne, h]
  · rw [fileAt, fileAt, find?_put_of_ne t hk]

theorem fileAt_put_file (h : place ≠ []) (text : String) :
    (t.put place (.file text)).fileAt = Function.update t.fileAt place (some text) := by
  funext k
  by_cases hk : k = place
  · subst hk
    rw [Function.update_self, fileAt, find?_put_self t h]
  · rw [Function.update_of_ne hk, fileAt, fileAt, find?_put_of_ne t hk]

/-- Creating a directory leaves all files as they are. -/
theorem touches_createDirectories_fileAt (path : String) :
    FileSystem.Touches fileAt placeOf [] (FileSystem.createDirectories path) := by
  refine FileSystem.touches_createChain (fun _ _ => rfl) fun p _ => ?_
  refine touches_update fun t t' h => ?_
  obtain ⟨rfl, -, hnone⟩ := of_createDirectory_eq_ok h
  exact ⟨_, _, rfl, fun k _ => congrFun (fileAt_put_directory hnone) k⟩

/-- A file that is written has the text, and all others are as they were. -/
theorem fileAt_of_writeFile_ok
    (h : (FileSystem.writeFile path text : StateM FileTree _).run t = (.ok (), t')) :
    t'.placeOf = t.placeOf ∧
      t'.fileAt = Function.update t.fileAt (t.placeOf path) (some text) := by
  cases hwrite : t.writeFile path text with
  | error e => cases (run_update_of_error hwrite).symm.trans h
  | ok t₁ =>
      cases (run_update_of_ok hwrite).symm.trans h
      obtain ⟨rfl, hne, -⟩ := of_writeFile_eq_ok hwrite
      exact ⟨rfl, fileAt_put_file hne text⟩

/-- A write that fails changes nothing. -/
theorem eq_of_writeFile_error {e : FileError}
    (h : (FileSystem.writeFile path text : StateM FileTree _).run t = (.error e, t')) :
    t' = t := by
  cases hwrite : t.writeFile path text with
  | error e' =>
      cases (run_update_of_error hwrite).symm.trans h
      rfl
  | ok t₁ => cases (run_update_of_ok hwrite).symm.trans h

end FileTree

end Exposure
