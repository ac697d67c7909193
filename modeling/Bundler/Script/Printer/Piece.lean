import Bundler.Script.Printer.Comment
import Bundler.Script.Printer.Literal

/-!
# Nodes with their writing

A node is written in terms of how its parts are written. `Piece` is a node together with its writing; `Printed` gives
lists and options of nodes as lists and options of pieces.
-/

namespace Bundler.Script

open Printing

/-- A node and how it is written. -/
structure Piece (c : Category) where
  tree : Tree c
  write : Manner → Printing Unit

/-- The writing of a node of a category. -/
abbrev Printed : Category → Type
  | .many c => List (Printed c)
  | .optional c => Option (Printed c)
  | .expression => Piece .expression
  | .element => Piece .element
  | .argument => Piece .argument
  | .key => Piece .key
  | .property => Piece .property
  | .function => Piece .function
  | .body => Piece .body
  | .pattern => Piece .pattern
  | .patternProperty => Piece .patternProperty
  | .target => Piece .target
  | .targetProperty => Piece .targetProperty
  | .parameter => Piece .parameter
  | .classDefinition => Piece .classDefinition
  | .heritage => Piece .heritage
  | .member => Piece .member
  | .declarator => Piece .declarator
  | .forStart => Piece .forStart
  | .forTarget => Piece .forTarget
  | .switchCase => Piece .switchCase
  | .importAttribute => Piece .importAttribute
  | .importAttributes => Piece .importAttributes
  | .importName => Piece .importName
  | .exportName => Piece .exportName
  | .importSource => Piece .importSource
  | .namespaceBody => Piece .namespaceBody
  | .enumMember => Piece .enumMember
  | .statement among => Piece (.statement among)
  | .defaultExport => Piece .defaultExport
  | .handler => Piece .handler
  | .typeParameter => Piece .typeParameter
  | .tupleElement => Piece .tupleElement
  | .type => Piece .type
  | .typeMember => Piece .typeMember
  | .markupAttribute => Piece .markupAttribute
  | .markupChild => Piece .markupChild

namespace Piece

/-- Writes an expression as an operand, where nothing around it but an operator matters. -/
def operand {c : Category} (p : Piece c) (around : Precedence) : Printing Unit :=
  p.write (.within around)

/-- Writes a node where nothing around it matters. -/
def whole {c : Category} (p : Piece c) : Printing Unit :=
  p.write .free

end Piece

/-- Writes a node with something before and after it. -/
def writeAround {c : Category} (before : String) (inner : Piece c) (after : String) : Printing Unit := do
  write before
  inner.whole
  write after

/-- Writes pieces with commas between them. -/
def writeList {c : Category} (pieces : List (Piece c)) (m : Manner) : Printing Unit :=
  commaList (pieces.map fun p => p.write m)

/-- Writes a value whose items are inserted. -/
def writeSpread (value : Piece .expression) : Printing Unit := do
  write "..."
  value.operand .comma

/-- Writes a value after an equals sign, if there is one. -/
def writeInitializer (value : Option (Piece .expression)) (m : Manner) : Printing Unit :=
  match value with
  | some e => do
    write " = "
    e.write (m.inside .comma)
  | none => return

/-- Writes a type after a colon, if there is one. -/
def writeAnnotation (type : Option (Piece .type)) : Printing Unit :=
  match type with
  | some t => do
    write ": "
    t.whole
  | none => return

/-- Writes the arguments of a type in angle brackets, if there are any. -/
def writeTypeArguments (arguments : List (Piece .type)) : Printing Unit := do
  if arguments.isEmpty then return
  writeChar '<'
  writeList arguments .free
  writeChar '>'

/-- Writes decorators, each with a space after it. -/
def writeDecorators (decorators : List (Piece .expression)) : Printing Unit :=
  decorators.forM fun d => do
    let rec isPlain {c : Category} : Tree c → Bool
      | .identifier _ | .member _ _ _ | .privateMember _ _ _ => true
      | .call callee _ _ _ _ _ => isPlain callee
      | _ => false
    writeChar '@'
    parenthesize (!isPlain d.tree) d.whole
    space

end Bundler.Script
