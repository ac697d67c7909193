import Bundler.Proofs.Path.Location

/-!
# Resolving below the root

Where all begins at the root, module paths are lists of names. Following a path from such a place leads to its location
(`ModulePath.follow_root`), and so does resolving a specifier, from the directory of the module that asks
(`ModulePath.resolve_root`). The root itself is in no directory; what it asks for is not resolved from the root.

The spelling of a place below the root is clean: `ModulePath.spelledFromRoot`.
-/

namespace Bundler

namespace ModulePath

variable {names : List Name}

theorem move_root (names : List Name) (step : Component) : move ⟨.root, names⟩ step = ⟨.root, step.lead names⟩ := by
  cases step with
  | root => rfl
  | here => rfl
  | name name => rfl
  | up => cases names <;> rfl

theorem moves_root (names : List Name) (steps : List Component) :
    moves ⟨.root, names⟩ steps = ⟨.root, steps.foldl Component.lead names⟩ := by
  induction steps generalizing names with
  | nil => rfl
  | cons step steps ih =>
    rw [List.foldl_cons, ← ih (step.lead names), ← move_root]
    rfl

/-- From a place below the root a path leads to its location. -/
theorem follow_root (names : List Name) (p : Path) : follow ⟨.root, names⟩ p = ⟨.root, p.location names⟩ := by
  rw [follow, moves_root, Path.location_eq]

/-- An absolute path leads to its location, from wherever it is followed. -/
theorem ofPath_of_isAbsolute {p : Path} (h : p.isAbsolute = true) : ofPath p = ⟨.root, p.location []⟩ := by
  have hsteps : p.components = .root :: p.segments.filterMap Component.ofSegment? := by rw [Path.components, if_pos h]
  rw [Path.location_eq, ofPath, follow, hsteps, List.foldl_cons]
  exact moves_root [] _

theorem directory_root (hne : names ≠ []) : directory ⟨.root, names⟩ = ⟨.root, names.dropLast⟩ := by
  cases names with
  | nil => exact absurd rfl hne
  | cons name names => rfl

/-- A specifier leads to its location from the directory of the module that asks. -/
theorem resolve_root (hne : names ≠ []) (specifier : String) :
    resolve ⟨.root, names⟩ specifier = ⟨.root, (Path.ofString specifier).location names.dropLast⟩ := by
  rw [resolve, directory_root hne, follow_root]

/-! ## Places below the current directory -/

theorem isAbsolute_move (m : ModulePath) (step : Component) :
    (m.move step).isAbsolute = (m.isAbsolute || decide (step = .root)) := by
  obtain ⟨anchor, names⟩ := m
  cases step with
  | root => simp [move, isAbsolute]
  | here => simp [move]
  | name name => exact (Bool.or_false _).symm
  | up => cases names <;> cases anchor <;> rfl

theorem isAbsolute_moves (m : ModulePath) (steps : List Component) :
    (m.moves steps).isAbsolute = (m.isAbsolute || decide (.root ∈ steps)) := by
  induction steps generalizing m with
  | nil => simp [moves]
  | cons step steps ih =>
    refine (ih (m.move step)).trans ?_
    rw [isAbsolute_move, Bool.or_assoc]
    simp [eq_comm]

theorem root_mem_components_iff {p : Path} : Component.root ∈ p.components ↔ p.isAbsolute = true := by
  have hsteps : Component.root ∉ p.segments.filterMap Component.ofSegment? := by
    rw [List.mem_filterMap]
    rintro ⟨segment, -, hsegment⟩
    exact (Component.ofSegment?_eq_some hsegment).1 rfl
  unfold Path.components
  split
  · next h => simp [h]
  · next h => split <;> simp [h, hsteps]

/-- A path leads to a place below the root exactly if it starts there. -/
theorem isAbsolute_ofPath (p : Path) : (ofPath p).isAbsolute = p.isAbsolute := by
  rw [ofPath, follow, isAbsolute_moves, Bool.eq_iff_iff]
  simp [origin, isAbsolute, root_mem_components_iff]

/-! ## Spelling -/

/-- The spelling of a module path starts at the root, no segment of it is `.` or `..`, and it is its own normal form. -/
structure SpelledFromRoot (m : ModulePath) : Prop where
  isAbsolute : m.toPath.isAbsolute = true
  noHere : [dot] ∉ m.toPath.segments
  noUp : [dot, dot] ∉ m.toPath.segments
  normal : m.toPath.normalize = m.toPath

theorem segments_toPath_root (name : Name) (names : List Name) :
    (toPath ⟨.root, name :: names⟩).segments = [] :: (name :: names).map Name.bytes := by
  have hne : Component.root :: (name :: names).map .name ≠ [] := by simp
  refine (Path.segments_ofSegments_map hne).trans ?_
  rw [List.map_cons, List.map_map]
  rfl

theorem isAbsolute_toPath_root (names : List Name) : (toPath ⟨.root, names⟩).isAbsolute = true := by
  cases names with
  | nil => rfl
  | cons name names =>
    simp [toPath, components, Path.ofComponents, Path.ofSegments, Path.isAbsolute, Component.segment,
      List.intercalate_cons_cons]

theorem spelledFromRoot {m : ModulePath} (h : m.isAbsolute = true) : m.SpelledFromRoot := by
  obtain ⟨anchor, names⟩ := m
  obtain rfl : anchor = .root := by simpa [isAbsolute] using h
  have hsegment : ∀ segment ∈ (toPath ⟨.root, names⟩).segments, segment = [] ∨ IsName segment := by
    cases names with
    | nil => decide
    | cons name names =>
      intro segment hsegment
      rw [segments_toPath_root] at hsegment
      refine (List.mem_cons.mp hsegment).imp_right fun hname => ?_
      obtain ⟨other, -, rfl⟩ := List.mem_map.mp hname
      exact other.isName
  exact {
    isAbsolute := isAbsolute_toPath_root names
    noHere := fun hhere => absurd (hsegment _ hhere) (by decide)
    noUp := fun hup => absurd (hsegment _ hup) (by decide)
    normal := by rw [Path.normalize_eq_toPath, ofPath_toPath] }

end ModulePath

end Bundler
