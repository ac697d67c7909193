import Bundler.Path.Normalize
import Bundler.Path.Order

/-!
# Module paths

A module path says where a path leads when no link is followed: from the root or from the current directory, some
number of directories up, then down by names. Two spellings of the same place give equal module paths. A specifier
is resolved by taking its steps from the directory of the module that asks for it; nothing is looked up.
-/

namespace Bundler

/-- Where a module path starts. -/
inductive Anchor where
  | root
  /-- The current directory or the given number of directories above it. -/
  | current (ups : Nat)
  deriving DecidableEq

/-- The place of a module: an anchor and the names that lead down from it. -/
structure ModulePath where
  anchor : Anchor
  names : List Name
  deriving DecidableEq

namespace ModulePath

/-- The current directory. -/
def origin : ModulePath :=
  ⟨.current 0, []⟩

/-- Takes one step. Above the root there is only the root; above the current directory the steps are counted. -/
def move (m : ModulePath) : Component → ModulePath
  | .root => ⟨.root, []⟩
  | .here => m
  | .up =>
    match m.names, m.anchor with
    | [], .root => m
    | [], .current ups => ⟨.current (ups + 1), []⟩
    | names, anchor => ⟨anchor, names.dropLast⟩
  | .name n => ⟨m.anchor, m.names ++ [n]⟩

/-- Takes the given steps. -/
def moves (m : ModulePath) (steps : List Component) : ModulePath :=
  steps.foldl move m

/-- Takes the steps of a path; an absolute path starts again at the root. -/
def follow (m : ModulePath) (p : Path) : ModulePath :=
  m.moves p.components

/-- The place a path leads to. -/
def ofPath (p : Path) : ModulePath :=
  origin.follow p

/-- The steps that lead to the place; the current directory itself is `.`. -/
def components (m : ModulePath) : List Component :=
  match m.anchor, m.names with
  | .root, names => .root :: names.map .name
  | .current 0, [] => [.here]
  | .current ups, names => List.replicate ups .up ++ names.map .name

/-- The one canonical spelling of the place. -/
def toPath (m : ModulePath) : Path :=
  Path.ofComponents m.components

/-- Starts at the root. -/
def isAbsolute (m : ModulePath) : Bool :=
  m.anchor = .root

/-- The directory against which specifiers are resolved: the spelling without its last component. The root has no
last component to leave out and counts as the current directory. -/
def directory (m : ModulePath) : ModulePath :=
  match m.names, m.anchor with
  | [], .root => origin
  | [], .current ups => ⟨.current (ups - 1), []⟩
  | names, anchor => ⟨anchor, names.dropLast⟩

/-- Where a module finds what it imports. -/
def resolve (requester : ModulePath) (specifier : String) : ModulePath :=
  requester.directory.follow (Path.ofString specifier)

/-- The order of module paths, step by step. -/
def compare (m n : ModulePath) : Ordering :=
  Path.compareSteps m.components n.components

/-- The text of a module path. -/
def display (m : ModulePath) : String :=
  m.toPath.display

/-- The text of a module path with `/` for every `\`. -/
def portable (m : ModulePath) : String :=
  m.display.map fun c => if c = '\\' then '/' else c

end ModulePath

/-! ## The steps of a module path lead to it -/

namespace ModulePath

theorem moves_names (anchor : Anchor) (before names : List Name) :
    moves ⟨anchor, before⟩ (names.map .name) = ⟨anchor, before ++ names⟩ := by
  induction names generalizing before with
  | nil => simp [moves]
  | cons name names ih =>
    have h := ih (before ++ [name])
    simp only [moves, List.map_cons, List.foldl_cons, move] at *
    rw [h]
    simp

theorem moves_ups (before ups : Nat) :
    moves ⟨.current before, []⟩ (List.replicate ups .up) = ⟨.current (before + ups), []⟩ := by
  induction ups generalizing before with
  | zero => rfl
  | succ ups ih =>
    have h := ih (before + 1)
    simp only [moves, List.replicate_succ, List.foldl_cons, move] at *
    rw [h]
    simp only [mk.injEq, Anchor.current.injEq, and_true]
    omega

theorem moves_append (m : ModulePath) (first second : List Component) :
    m.moves (first ++ second) = (m.moves first).moves second :=
  List.foldl_append

/-- The steps of a module path lead to it from anywhere if it is absolute, and else from the current directory. -/
theorem moves_components (m : ModulePath) : origin.moves m.components = m := by
  obtain ⟨anchor, names⟩ := m
  cases anchor with
  | root => simpa [components, moves, move] using moves_names .root [] names
  | current ups =>
    have hcounted : origin.moves (List.replicate ups .up ++ names.map .name) = ⟨.current ups, names⟩ := by
      have hups := moves_ups 0 ups
      have hnames := moves_names (.current ups) [] names
      rw [Nat.zero_add] at hups
      rw [moves_append, origin, hups, hnames, List.nil_append]
    cases ups with
    | succ ups => exact hcounted
    | zero =>
      cases names with
      | nil => rfl
      | cons name names => exact hcounted

end ModulePath

end Bundler
