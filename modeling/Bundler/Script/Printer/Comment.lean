import Bundler.Script.Printer.State

/-!
# Writing comments

Comments are written before the statement, the member or the argument that they are attached to. Once a comment is
written it is gone; one whose place is not written at all is lost.
-/

namespace Bundler.Script

open Printing

/-- The comments of a source that are written at some place. -/
def writtenComments (comments : List Comment) : List Comment :=
  comments.filter fun c => c.anchor.isSome && c.purpose ≠ .pure && c.purpose ≠ .noSideEffects

/-- Takes the comments at an offset of the source. -/
def takeComments (offset : Nat) : Printing (List Comment) := do
  let (found, rest) := (← get).comments.partition fun c => c.anchor = some offset
  if found.isEmpty then return []
  modify fun p => { p with comments := rest }
  return found

/-- Whether comments are attached to an offset. -/
def hasComments (offset : Nat) : Printing Bool :=
  return (← get).comments.any fun c => c.anchor = some offset

/-- The characters with the Unicode property of white space. -/
def isBlank (c : Char) : Bool :=
  let n := c.toNat
  (9 ≤ n && n ≤ 13) || n == 0x20 || n == 0x85 || n == 0xA0 || n == 0x1680 || (0x2000 ≤ n && n ≤ 0x200A) ||
    n == 0x2028 || n == 0x2029 || n == 0x202F || n == 0x205F || n == 0x3000

/-- The lines of a comment. -/
def splitLines : List Char → List (List Char)
  | [] => [[]]
  | '\r' :: '\n' :: rest => [] :: splitLines rest
  | c :: rest =>
    if c == '\n' || c == '\r' || c == '\u2028' || c == '\u2029' then [] :: splitLines rest
    else match splitLines rest with
      | line :: lines => (c :: line) :: lines
      | [] => [[c]]

/-- Writes a comment; each line of a comment over several lines gets our indentation. -/
def writeComment (c : Comment) : Printing Unit := do
  if c.isLine then writeChars c.spelling
  else
    (splitLines c.spelling).forM fun line => do
      if !(['/', '*'].isPrefixOf line) then indent
      writeChars (line.dropWhile isBlank)
      if !(['*', '/'].isSuffixOf line) then newline

/-- Writes the first of some comments on a line of its own, if it had one. -/
def openComment (c : Comment) : Printing Unit := do
  if !c.afterBreak then indent
  else match ← lastChar? with
    | none | some '\t' => return
    | some '\n' => indent
    | some _ =>
      newline
      indent

/-- Writes the comments before a statement or a member. -/
def writeCommentsAt (offset : Nat) : Printing Unit := do
  let comments ← takeComments offset
  match comments, comments.getLast? with
  | first :: rest, some last =>
    openComment first
    writeComment first
    rest.forM fun c => do
      if c.afterBreak then
        newline
        indent
      else if c.purpose = .legal then newline
      writeComment c
    if last.isLine || last.beforeBreak then newline else modify ({ · with indentIsSpace := true })
  | _, _ => return

/-- Writes comments inside an expression, each on a line of its own; says whether there are any. -/
def writeInnerComments (offset : Nat) : Printing Bool := do
  let comments ← takeComments offset
  if comments.isEmpty then return false
  comments.forM fun c => do
    newline
    indent
    writeComment c
  newline
  return true

end Bundler.Script
