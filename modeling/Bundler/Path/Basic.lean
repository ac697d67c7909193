import Bundler.Text.Utf8

/-!
# Paths

A path is a list of bytes in which only `/` separates. Its components say where it leads: the root, the place
itself, the directory above, or a named entry. Empty segments and `.` lead nowhere and are left out, except that a
leading `.` is kept, which tells `./a` from `a`.
-/

namespace Bundler

def slash : UInt8 := 0x2F

def dot : UInt8 := 0x2E

/-! ## Names -/

/-- Names an entry of a directory: not empty, not `.` or `..`, and without `/`. -/
def IsName (segment : List UInt8) : Prop :=
  segment ≠ [] ∧ segment ≠ [dot] ∧ segment ≠ [dot, dot] ∧ slash ∉ segment

instance (segment : List UInt8) : Decidable (IsName segment) :=
  inferInstanceAs (Decidable (_ ∧ _ ∧ _ ∧ _))

/-- The name of an entry of a directory. -/
structure Name where
  bytes : List UInt8
  isName : IsName bytes
  deriving DecidableEq

/-! ## Components -/

/-- One step of a path. -/
inductive Component where
  | root
  | here
  | up
  | name (name : Name)
  deriving DecidableEq

namespace Component

/-- The step a segment takes; an empty segment and `.` take none. -/
def ofSegment? (segment : List UInt8) : Option Component :=
  if h : IsName segment then some (.name ⟨segment, h⟩)
  else if segment = [dot, dot] then some .up
  else none

/-- The segment that takes this step; the root is the empty segment before the first `/`. -/
def segment : Component → List UInt8
  | .root => []
  | .here => [dot]
  | .up => [dot, dot]
  | .name n => n.bytes

theorem ofSegment?_name (n : Name) : ofSegment? n.bytes = some (.name n) := by
  simp [ofSegment?, n.isName]

theorem ofSegment?_up : ofSegment? [dot, dot] = some .up := by decide

theorem ofSegment?_here : ofSegment? [dot] = none := by decide

theorem ofSegment?_nil : ofSegment? [] = none := by decide

end Component

/-- A path as it was given: any bytes, with `/` between segments. -/
structure Path where
  bytes : List UInt8
  deriving DecidableEq, Inhabited, Repr

namespace Path

def ofString (text : String) : Path :=
  ⟨Utf8.encode text⟩

/-- The text of a path, with U+FFFD for bytes that are no UTF-8. -/
def display (p : Path) : String :=
  Utf8.decodeLossy p.bytes

/-- Starts at the root. -/
def isAbsolute (p : Path) : Bool :=
  p.bytes.head? == some slash

/-- Cuts at every `/`; the pieces may be empty, and there is always at least one. -/
def split : List UInt8 → List (List UInt8)
  | [] => [[]]
  | b :: bs =>
    if b = slash then [] :: split bs
    else match split bs with
      | [] => [[b]]
      | piece :: pieces => (b :: piece) :: pieces

/-- What stands between the slashes. -/
def segments (p : Path) : List (List UInt8) :=
  split p.bytes

/-- The steps of a path in order. -/
def components (p : Path) : List Component :=
  let steps := p.segments.filterMap Component.ofSegment?
  if p.isAbsolute then .root :: steps
  else if p.segments.head? = some [dot] then .here :: steps
  else steps

/-- Writes segments with one `/` between them. -/
def ofSegments (segments : List (List UInt8)) : Path :=
  ⟨[slash].intercalate segments⟩

/-- Writes steps, the root as a leading `/`. -/
def ofComponents : List Component → Path
  | [.root] => ⟨[slash]⟩
  | steps => ofSegments (steps.map Component.segment)

end Path

end Bundler
