import Bundler.Script.Comment
import Bundler.Text.WordCharacter

/-!
# Places in the source

A place in the source, and the gaps between tokens: blanks, line breaks and comments.
-/

namespace Bundler.Script

/-- A place in the source: what is left from there, and how many characters stand before it. -/
structure Cursor where
  rest : List Char
  offset : Nat
  deriving Inhabited

namespace Cursor

/-- Steps over some characters. -/
def skip (n : Nat) (c : Cursor) : Cursor := ⟨c.rest.drop n, c.offset + n⟩

/-- Steps over the characters of a class. -/
def skipWhile (p : Char → Bool) (c : Cursor) : Cursor :=
  go c.rest c.offset
where
  go : List Char → Nat → Cursor
    | [], n => ⟨[], n⟩
    | ch :: rest, n => if p ch then go rest (n + 1) else ⟨ch :: rest, n⟩

/-- Steps over everything. -/
def toEnd (c : Cursor) : Cursor := c.skipWhile fun _ => true

end Cursor

/-! ## Classes of characters -/

def isLineEnd (c : Char) : Bool :=
  c == '\n' || c == '\r' || c == '\u2028' || c == '\u2029'

/-- A character that only separates tokens. -/
def isGapCharacter (c : Char) : Bool :=
  let n := c.toNat
  n == 0x20 || n == 0x09 || n == 0x0B || n == 0x0C || n == 0xA0 || n == 0xFEFF || n == 0x85 || n == 0x1680 ||
    (0x2000 ≤ n && n ≤ 0x200B) || n == 0x202F || n == 0x205F || n == 0x3000

/-! ## Gaps -/

/-- In what kind of gap a place lies. -/
inductive GapMode where
  | blank
  /-- In a comment to the end of the line that starts at an offset. -/
  | line (start : Nat) (source : List Char)
  /-- In a comment between marks; `broken` says that it spans lines. -/
  | block (start : Nat) (source : List Char) (broken : Bool)

/-- The end of a gap. -/
structure Gap where
  cursor : Cursor
  onNewLine : Bool
  trivia : Trivia
  /-- The source ends inside a comment. -/
  unterminated : Bool

/-- Steps over the gap before a token. -/
def skipGap (trivia : Trivia) (onNewLine : Bool) (n : Nat) : GapMode → List Char → Gap
  | .blank, '/' :: '/' :: rest => skipGap trivia onNewLine (n + 2) (.line n ('/' :: '/' :: rest)) rest
  | .blank, '/' :: '*' :: rest => skipGap trivia onNewLine (n + 2) (.block n ('/' :: '*' :: rest) false) rest
  | .blank, c :: rest =>
    if c == '\n' || c == '\r' then skipGap trivia.lineBreak true (n + 1) .blank rest
    else if isLineEnd c then skipGap trivia true (n + 1) .blank rest
    else if isGapCharacter c then skipGap trivia onNewLine (n + 1) .blank rest
    else ⟨⟨c :: rest, n⟩, onNewLine, trivia, false⟩
  | .blank, [] => ⟨⟨[], n⟩, onNewLine, trivia, false⟩
  | .line start source, c :: rest =>
    if isLineEnd c then skipGap (trivia.comment true start n source) true (n + 1) .blank rest
    else skipGap trivia onNewLine (n + 1) (.line start source) rest
  | .line start source, [] => ⟨⟨[], n⟩, onNewLine, trivia.comment true start n source, false⟩
  | .block start source broken, '*' :: '/' :: rest =>
    skipGap (trivia.comment false start (n + 2) source) (onNewLine || broken) (n + 2) .blank rest
  | .block start source broken, c :: rest =>
    skipGap trivia onNewLine (n + 1) (.block start source (broken || isLineEnd c)) rest
  | .block _ _ _, [] => ⟨⟨[], n⟩, onNewLine, trivia, true⟩

end Bundler.Script
