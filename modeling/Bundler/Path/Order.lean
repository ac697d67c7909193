import Bundler.Path.Basic

/-!
# The order of paths

Paths are compared step by step: the root comes first, then `.`, then `..`, then names by their bytes; of two paths
of which one continues the other, the shorter comes first.
-/

namespace Bundler

/-- Compares two lists by their first difference; a list comes after its own beginnings. -/
def compareLists {α : Type} (compare : α → α → Ordering) : List α → List α → Ordering
  | [], [] => .eq
  | [], _ :: _ => .lt
  | _ :: _, [] => .gt
  | a :: as, b :: bs => (compare a b).then (compareLists compare as bs)

namespace Component

/-- The place of a kind of step in the order. -/
def rank : Component → Nat
  | .root => 0
  | .here => 1
  | .up => 2
  | .name _ => 3

/-- By kind, and names by their bytes. -/
def compare : Component → Component → Ordering
  | .name m, .name n => compareLists (fun a b : UInt8 => Ord.compare a b) m.bytes n.bytes
  | a, b => Ord.compare a.rank b.rank

end Component

namespace Path

/-- Compares paths by their steps. -/
def compareSteps (p q : List Component) : Ordering :=
  compareLists Component.compare p q

end Path

end Bundler
