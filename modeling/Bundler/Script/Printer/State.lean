import Bundler.Script.Comment
import Bundler.Text.WordCharacter
import Bundler.Script.Tree

/-!
# Writing text

The state while a tree is written, and the steps that all nodes share. Besides the text it holds what the next step has
to know about the last one: whether a statement begins here, or what the last sign was, so that two signs that would
read as one are kept apart.
-/

namespace Bundler.Script

/-- A sign after which some other signs need a space. -/
inductive LastSign where
  | unary (operator : UnaryOperator)
  | update (operator : UpdateOperator)
  deriving DecidableEq, Inhabited, Repr

/-- The state while a tree is written. Places are numbers of characters written before them. -/
structure Printer where
  /-- The text, the last character first. -/
  written : List Char
  length : Nat
  depth : Nat
  /-- The next indentation is written as one space, because the line goes on. -/
  indentIsSpace : Bool
  /-- Where the last statement that is an expression begins. -/
  statementStart : Nat
  /-- Where the last expression begins that is the body of an arrow function. -/
  arrowStart : Nat
  /-- Where the last expression begins that is exported as default. -/
  defaultStart : Nat
  /-- Where the last number ends that would take a point as its own. -/
  integerEnd : Nat
  regexEnd : Nat
  lastSign : Option (LastSign × Nat)
  /-- The comments that have not been written yet. -/
  comments : List Comment
  /-- The source may contain markup. -/
  hasMarkup : Bool
  /-- The quote of strings. -/
  quote : Char

/-- How a node is written, depending on what stands around it. -/
structure Manner where
  /-- How tightly the node is bound by what stands around it. -/
  around : Precedence
  /-- An operator `in` needs parentheses. -/
  forbidsIn : Bool
  /-- A call needs parentheses. -/
  forbidsCall : Bool
  /-- The node is written without what makes a statement of it: comments, indentation and line breaks. -/
  bare : Bool

namespace Manner

/-- Nothing around the node matters. -/
def free : Manner := ⟨.lowest, false, false, false⟩

/-- Only the operator around the node matters. -/
def within (around : Precedence) : Manner := ⟨around, false, false, false⟩

/-- The same place, but another operator around. -/
def inside (around : Precedence) (m : Manner) : Manner := { m with around }

def allowIn (m : Manner) : Manner := { m with forbidsIn := false }

def allowCall (m : Manner) : Manner := { m with forbidsCall := false }

/-- As a part of a statement. -/
def asPart (m : Manner) : Manner := { m with bare := true }

/-- As a whole statement. -/
def asWhole (m : Manner) : Manner := { m with bare := false }

end Manner

/-- Writing something. -/
abbrev Printing := StateM Printer

namespace Printing

/-! ## Text -/

def writeChar (c : Char) : Printing Unit :=
  modify fun p => { p with written := c :: p.written, length := p.length + 1 }

def writeChars (text : List Char) : Printing Unit :=
  modify fun p => { p with written := text.reverseAux p.written, length := p.length + text.length }

def write (text : String) : Printing Unit :=
  writeChars text.toList

def space : Printing Unit := writeChar ' '

def newline : Printing Unit := writeChar '\n'

def lastChar? : Printing (Option Char) := return (← get).written.head?

/-- Ends a statement. -/
def endStatement : Printing Unit := write ";\n"

/-- Writes the indentation of a line. -/
def indent : Printing Unit := do
  let p ← get
  if p.indentIsSpace then
    space
    modify ({ · with indentIsSpace := false })
  else writeChars (List.replicate (2 * p.depth) ' ')

/-- Writes something one level deeper. -/
def deeper (inner : Printing Unit) : Printing Unit := do
  modify fun p => { p with depth := p.depth + 1 }
  inner
  modify fun p => { p with depth := p.depth - 1 }

/-- Writes something in parentheses, if they are needed. -/
def parenthesize (needed : Bool) (inner : Printing Unit) : Printing Unit := do
  if needed then writeChar '('
  inner
  if needed then writeChar ')'

/-- Keeps a word apart from a word or a regular expression before it. -/
def separate : Printing Unit := do
  let p ← get
  match p.written.head? with
  | some c => if p.regexEnd = p.length || isWordPart c then space
  | none => return

/-- Writes a word that must not run into what stands before it. -/
def writeWord (word : String) : Printing Unit := do
  separate
  write word

/-! ## Signs -/

/-- Keeps a sign apart from the one before it, if both would read as another sign. -/
def separateSign (sign : LastSign) : Printing Unit := do
  let p ← get
  match p.lastSign with
  | some (last, place) =>
    if place ≠ p.length then return
    match last, sign with
    | .unary .plus, .unary .plus | .unary .plus, .update .increment | .unary .minus, .unary .minus
    | .unary .minus, .update .decrement => space
    | .unary .not, .update .decrement => if p.written[1]? = some '<' then space
    | _, _ => return
  | none => return

/-- Remembers a sign that has just been written. -/
def markSign (sign : LastSign) : Printing Unit :=
  modify fun p => { p with lastSign := some (sign, p.length) }

/-! ## Lists -/

/-- Writes items with something between them. -/
def separated (separator : Printing Unit) : List (Printing Unit) → Printing Unit
  | [] => return
  | first :: rest => do
    first
    rest.forM fun item => do
      separator
      item

/-- Writes items with commas between them. -/
def commaList (items : List (Printing Unit)) : Printing Unit :=
  separated (write ", ") items

/-- Writes lines in braces, or empty braces. -/
def braces (isEmpty : Bool) (lines : Printing Unit) : Printing Unit := do
  writeChar '\x7b'
  if isEmpty then lines
  else
    newline
    deeper lines
    indent
  writeChar '\x7d'

/-- Writes items in brackets or braces, each on a line of its own. -/
def lines (items : List (Printing Unit)) : Printing Unit := do
  deeper do
    newline
    indent
    separated (do
      write ",\n"
      indent) items
  newline
  indent

end Printing

end Bundler.Script
