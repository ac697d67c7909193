import Bundler.Script.Printer.Statement

/-!
# Writing markup

Elements with their attributes and children. Text stays as it was written; type arguments of an element are left out.
-/

namespace Bundler.Script

open Printing

/-! ## Attributes -/

/-- Writes the text of an attribute in quotes that do not occur in it. -/
def writeAttributeText (name : MarkupName) (text : String) : Printing Unit := do
  let quote := if text.toList.contains '"' then '\'' else '"'
  writeMarkupName name
  writeChar '='
  writeChar quote
  write text
  writeChar quote

/-- Writes the name of an attribute with the sign after it. -/
def writeAttributeName (name : MarkupName) : Printing Unit := do
  writeMarkupName name
  writeChar '='

/-- Writes the comments in braces that hold nothing else. -/
def writeNothing (close : Nat) : Printing Unit := do
  writeChar '\x7b'
  writeCommentsAt close
  writeChar '\x7d'

def writeAttributeSpread (value : Piece .expression) : Printing Unit := do
  write "\x7b..."
  value.operand .comma
  writeChar '\x7d'

/-! ## Elements -/

def writeElement (name : MarkupName) (attributes : List (Piece .markupAttribute))
    (children : Option (List (Piece .markupChild))) : Printing Unit := do
  writeChar '<'
  writeMarkupName name
  attributes.forM fun a => do
    space
    a.whole
  match children with
  | none => write " />"
  | some children =>
    writeChar '>'
    children.forM Piece.whole
    write "</"
    writeMarkupName name
    writeChar '>'

def writeFragment (children : List (Piece .markupChild)) : Printing Unit := do
  write "<>"
  children.forM Piece.whole
  write "</>"

end Bundler.Script
