/-!
# Similar words

How alike two words are: the share of their letters that occur in both at about the same place, less for letters in
another order. The measure is a quotient, and comparisons are exact.
-/

namespace Bundler.CommandLine

/-- A quotient of natural numbers. -/
structure Ratio where
  num : Nat
  den : Nat

def Ratio.lt (a b : Ratio) : Bool :=
  a.num * b.den < b.num * a.den

/-- Marks the first unmarked letter that equals `c` at a place from `first` up to `last`. -/
def claim (c : Char) (first last : Nat) : Nat → List (Char × Bool) → Option (List (Char × Bool))
  | _, [] => none
  | place, (d, taken) :: rest =>
    if last ≤ place then none
    else if first ≤ place && c == d && !taken then some ((d, true) :: rest)
    else (claim c first last (place + 1) rest).map ((d, taken) :: ·)

/-- The letters of the first word that find a partner in the second, and the second word with the partners marked. -/
def matched (range : Nat) : Nat → List Char → List (Char × Bool) → List Char × List (Char × Bool)
  | _, [], others => ([], others)
  | place, c :: rest, others =>
    match claim c (place - range) (place + range + 1) 0 others with
    | none => matched range (place + 1) rest others
    | some others =>
      let (found, others) := matched range (place + 1) rest others
      (c :: found, others)

/-- How alike two words are, from none to one. -/
def similarity (a b : String) : Ratio :=
  let first := a.toList
  let second := b.toList
  let range := max first.length second.length / 2 - 1
  let (found, marked) := matched range 0 first (second.map fun c => (c, false))
  let partners := (marked.filter Prod.snd).map Prod.fst
  let m := found.length
  let swapped := ((found.zip partners).filter fun (c, d) => c != d).length / 2
  if first.isEmpty && second.isEmpty then ⟨1, 1⟩
  else if m == 0 then ⟨0, 1⟩
  else
    let x := first.length
    let y := second.length
    ⟨m * m * y + m * m * x + (m - swapped) * x * y, 3 * m * x * y⟩

/-- Puts a word behind all that are less or equally alike. -/
def insertByRatio (r : Ratio) (word : String) : List (Ratio × String) → List (Ratio × String)
  | [] => [(r, word)]
  | (s, other) :: rest =>
    if r.lt s then (r, word) :: (s, other) :: rest else (s, other) :: insertByRatio r word rest

/-- The words that are more than seven tenths alike, the most similar last. -/
def similarWords (word : String) (words : List String) : List String :=
  (words.foldl (fun found other =>
    let r := similarity word other
    if Ratio.lt ⟨7, 10⟩ r then insertByRatio r other found else found) []).map Prod.snd

end Bundler.CommandLine
