import Bundler.Path.Basic

/-!
# Normalization

A path is normalized by its bytes. Its components are put behind one another on a path under construction, from which
`..` takes the last name away again. To take a component away is to cut the bytes off where the parent ends; nothing
in front of that is written anew.
-/

namespace Bundler.Path

/-! ## Starts and bodies -/

/-- How a path starts: at the root, with a leading `.`, or with its first segment. -/
inductive Start where
  | root
  | here
  | bare
  deriving DecidableEq

def start (p : Path) : Start :=
  if p.isAbsolute then .root else if p.segments.head? = some [dot] then .here else .bare

/-- The segments behind the start. -/
def body (p : Path) : List (List UInt8) :=
  match p.start with
  | .root | .here => p.segments.tail
  | .bare => p.segments

/-- A start with segments behind it. -/
def ofBody : Start → List (List UInt8) → Path
  | .root, segments => ⟨slash :: [slash].intercalate segments⟩
  | .here, segments => ofSegments ([dot] :: segments)
  | .bare, segments => ofSegments segments

/-- An empty segment or `.` takes no step behind the start of a path. -/
def staysPut (segment : List UInt8) : Bool :=
  (Component.ofSegment? segment).isNone

/-! ## Parents -/

/-- The beginning of the path that ends before its last component and before what separates the two: of `a/.//b` this is
`a`. The root has no parent, nor has the empty path. -/
def parent? (p : Path) : Option Path :=
  match p.body.reverse.dropWhile staysPut with
  | _ :: before => some (ofBody p.start (before.dropWhile staysPut).reverse)
  | [] => if p.start = .here then some ⟨[]⟩ else none

/-- Takes the last component away, if there is one besides the root. -/
def pop (p : Path) : Path :=
  p.parent?.getD p

/-- One path behind another: an absolute path takes the place of the other, and else a slash comes between them, unless
there is one already. -/
def join (base p : Path) : Path :=
  if p.isAbsolute then p
  else if base.bytes = [] ∨ base.bytes.getLast? = some slash then ⟨base.bytes ++ p.bytes⟩
  else ⟨base.bytes ++ slash :: p.bytes⟩

/-! ## Folding -/

/-- One more component for a path under construction: `..` takes a name away, does nothing at the root, and stays where
there is neither. -/
def fold (built : Path) : Component → Path
  | .root => built.join ⟨[slash]⟩
  | .here => built
  | .up =>
    match built.components.getLast? with
    | some (.name _) => built.pop
    | some .root => built
    | some .up | some .here | none => built.join ⟨[dot, dot]⟩
  | .name name => built.join ⟨name.bytes⟩

/-- Puts a path in its canonical spelling: `.` and `..` are folded and separators unified. -/
def normalize (p : Path) : Path :=
  let folded := p.components.foldl fold ⟨[]⟩
  if folded.bytes = [] then folded.join ⟨[dot]⟩ else folded

end Bundler.Path
