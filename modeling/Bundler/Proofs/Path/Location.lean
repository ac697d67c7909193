import Bundler.Proofs.Path.Normalize

/-!
# Where a path leads

A directory is the list of names that lead to it from the root. From a directory a path names a location, segment by
segment, and no link is followed: `Path.location`. A module path names one too, by going up and then down
(`ModulePath.location`), and it is the location of every path that leads to it (`ModulePath.location_ofPath`).

* `ofPath_eq_iff_location_eq` — a path and its canonical spelling name the same locations, and two paths have the same
  module path exactly if they name the same location from every directory

That different module paths name different locations from some directory takes directories of any depth and with names
of any kind: one that is deep enough tells numbers of `..` apart, because a fresh name in it is left standing by the
smaller number only.
-/

namespace Bundler

/-! ## By segments -/

namespace Path

/-- Where a segment leads from a directory: the empty one and `.` stay, `..` drops the last name, of which there is none
at the root, and a name is appended. No segment is of another kind (`isName_of_mem_segments`). -/
def enter (directory : List Name) (segment : List UInt8) : List Name :=
  if h : IsName segment then directory ++ [⟨segment, h⟩]
  else if segment = [dot, dot] then directory.dropLast
  else directory

/-- The location that a path names from a directory; an absolute path names it from the root. -/
def location (p : Path) (directory : List Name) : List Name :=
  p.segments.foldl enter (if p.isAbsolute then [] else directory)

end Path

/-! ## By steps -/

/-- Where a step leads from a directory. -/
def Component.lead (directory : List Name) : Component → List Name
  | .root => []
  | .here => directory
  | .up => directory.dropLast
  | .name n => directory ++ [n]

namespace Path

/-- A segment leads where its step leads; one that takes no step stays. -/
theorem enter_eq (directory : List Name) (segment : List UInt8) :
    enter directory segment = (Component.ofSegment? segment).elim directory (Component.lead directory) := by
  unfold enter Component.ofSegment?
  split
  · rfl
  · split <;> rfl

theorem foldl_enter (segments : List (List UInt8)) (directory : List Name) :
    segments.foldl enter directory =
      (segments.filterMap Component.ofSegment?).foldl Component.lead directory := by
  induction segments generalizing directory with
  | nil => rfl
  | cons segment segments ih =>
    rw [List.foldl_cons, enter_eq, ih]
    cases hstep : Component.ofSegment? segment with
    | none =>
      rw [List.filterMap_cons_none hstep]
      rfl
    | some step =>
      rw [List.filterMap_cons_some hstep]
      rfl

/-- A path leads where its steps lead one after another. -/
theorem location_eq (p : Path) (directory : List Name) :
    p.location directory = p.components.foldl Component.lead directory := by
  rw [location, foldl_enter, components]
  by_cases habsolute : p.isAbsolute = true
  · rw [if_pos habsolute, if_pos habsolute]
    rfl
  · rw [if_neg habsolute, if_neg habsolute]
    split <;> rfl

end Path

/-! ## By module paths -/

theorem dropLast_rdrop {α : Type} (l : List α) (n : Nat) : (l.rdrop n).dropLast = l.rdrop (n + 1) := by
  rw [List.rdrop, List.rdrop, List.dropLast_eq_take, List.take_take, List.length_take]
  congr 1
  omega

namespace ModulePath

/-- The location that a module path names from a directory. -/
def location (m : ModulePath) (directory : List Name) : List Name :=
  match m.anchor with
  | .root => m.names
  | .current ups => directory.rdrop ups ++ m.names

theorem location_origin (directory : List Name) : origin.location directory = directory := by
  simp [origin, location]

/-- To take a step is to go where it leads. -/
theorem location_move (m : ModulePath) (step : Component) (directory : List Name) :
    (m.move step).location directory = step.lead (m.location directory) := by
  obtain ⟨anchor, names⟩ := m
  cases step with
  | root => rfl
  | here => rfl
  | name name => cases anchor <;> simp [move, location, Component.lead]
  | up =>
    cases names using List.reverseRecOn with
    | nil =>
      cases anchor with
      | root => rfl
      | current ups => simp [move, location, Component.lead, dropLast_rdrop]
    | append_singleton names name =>
      have hmove : move ⟨anchor, names ++ [name]⟩ .up = ⟨anchor, names⟩ := by
        cases names with
        | nil => rfl
        | cons first names => exact congrArg (mk anchor) List.dropLast_concat
      rw [hmove]
      cases anchor <;> simp [location, Component.lead, ← List.append_assoc]

theorem location_moves (m : ModulePath) (steps : List Component) (directory : List Name) :
    (m.moves steps).location directory = steps.foldl Component.lead (m.location directory) := by
  induction steps generalizing m with
  | nil => rfl
  | cons step steps ih =>
    rw [List.foldl_cons, ← location_move, ← ih]
    rfl

/-- The place a path leads to is where the path leads. -/
theorem location_ofPath (p : Path) (directory : List Name) : (ofPath p).location directory = p.location directory := by
  rw [ofPath, follow, location_moves, location_origin, Path.location_eq]

end ModulePath

/-! ## Different places are told apart -/

/-- There is a name of dots of every length from three on. -/
instance : Infinite Name :=
  Infinite.of_injective
    (fun n => ⟨List.replicate (n + 3) dot, by simp [List.replicate_succ], by simp [List.replicate_succ],
      by simp [List.replicate_succ], fun h => absurd (List.eq_of_mem_replicate h) (by decide)⟩)
    (fun m n h => by simpa using congrArg (List.length ∘ Name.bytes) h)

namespace ModulePath

variable {m n : ModulePath} {ups ups' : Nat} {names names' : List Name}

theorem location_replicate (name : Name) (depth : Nat) :
    location ⟨.current ups, names⟩ (List.replicate depth name) = List.replicate (depth - ups) name ++ names := by
  show (List.replicate depth name).rdrop ups ++ names = _
  rw [List.rdrop, List.length_replicate, List.take_replicate, Nat.min_eq_left (Nat.sub_le depth ups)]

/-- From deep enough a relative place is further down than a place below the root. -/
theorem not_location_root_eq_current
    (h : ∀ directory, location ⟨.root, names⟩ directory = location ⟨.current ups, names'⟩ directory) : False := by
  obtain ⟨name, -⟩ := Infinite.exists_notMem_finset (∅ : Finset Name)
  have hlength := congrArg List.length (h (List.replicate (ups + names.length + 1) name))
  rw [location_replicate, List.length_append, List.length_replicate] at hlength
  simp only [location] at hlength
  omega

/-- Fewer `..` leave a name standing that occurs nowhere else. -/
theorem ups_le_of_location_eq
    (h : ∀ directory, location ⟨.current ups, names⟩ directory = location ⟨.current ups', names'⟩ directory) :
    ups' ≤ ups := by
  obtain ⟨name, hfresh⟩ := Infinite.exists_notMem_finset names'.toFinset
  have hdeep := h (List.replicate ups' name)
  rw [location_replicate, location_replicate, Nat.sub_self, List.replicate_zero, List.nil_append] at hdeep
  by_contra hlt
  have hstanding : name ∈ List.replicate (ups' - ups) name ++ names :=
    List.mem_append_left _ (List.mem_replicate.mpr ⟨by omega, rfl⟩)
  rw [hdeep] at hstanding
  exact hfresh (List.mem_toFinset.mpr hstanding)

/-- Module paths that name the same location from every directory are equal. -/
theorem eq_of_location_eq (h : ∀ directory, m.location directory = n.location directory) : m = n := by
  obtain ⟨anchor, names⟩ := m
  obtain ⟨anchor', names'⟩ := n
  cases anchor with
  | root =>
    cases anchor' with
    | root => exact congrArg (mk .root) (h [])
    | current ups' => exact (not_location_root_eq_current h).elim
  | current ups =>
    cases anchor' with
    | root => exact (not_location_root_eq_current fun directory => (h directory).symm).elim
    | current ups' =>
      obtain rfl : ups = ups' := Nat.le_antisymm (ups_le_of_location_eq fun directory => (h directory).symm)
        (ups_le_of_location_eq h)
      exact congrArg (mk (.current ups)) (List.append_cancel_left (h []))

end ModulePath

/--
**A module path is a location.**

A path and its canonical spelling name the same location from every directory. Two paths lead to the same module path
exactly if they name the same location from every directory, and this is so exactly if their canonical spellings are the
same, byte for byte.
-/
theorem ofPath_eq_iff_location_eq (p q : Path) :
    (∀ directory, p.normalize.location directory = p.location directory) ∧
    (ModulePath.ofPath p = ModulePath.ofPath q ↔ ∀ directory, p.location directory = q.location directory) ∧
    (ModulePath.ofPath p = ModulePath.ofPath q ↔ p.normalize = q.normalize) := by
  refine ⟨fun directory => ?_, ⟨fun h directory => ?_, fun h => ?_⟩, ?_⟩
  · rw [p.normalize_eq_toPath, ← ModulePath.location_ofPath, ModulePath.ofPath_toPath, ModulePath.location_ofPath]
  · rw [← ModulePath.location_ofPath, h, ModulePath.location_ofPath]
  · refine ModulePath.eq_of_location_eq fun directory => ?_
    rw [ModulePath.location_ofPath, h, ModulePath.location_ofPath]
  · rw [p.normalize_eq_toPath, q.normalize_eq_toPath]
    exact ModulePath.toPath_injective.eq_iff.symm

end Bundler
