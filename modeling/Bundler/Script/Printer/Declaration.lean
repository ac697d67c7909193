import Bundler.Script.Printer.Markup

/-!
# Writing declarations

Enumerations, interfaces, namespaces, and what a module imports and exports.
-/

namespace Bundler.Script

open Printing

/-! ## Functions and classes -/

/-- Writes a function as a statement, with the mark that its calls have no effects on a line of its own. -/
def writeFunctionDeclaration (pos : Nat) (f : Piece .function) (m : Manner) : Printing Unit := do
  let .functionOf _ _ _ _ _ _ _ _ pure _ := f.tree
  writeBraced pos m do
    if pure then
      write "/* @__NO_SIDE_EFFECTS__ */\n"
      indent
    f.write m.asWhole

/-! ## Types -/

/-- Writes a declaration after the word that says that it only describes something. -/
def writeDeclare (isDeclare : Bool) (content : Printing Unit) : Printing Unit := do
  if isDeclare then write "declare "
  content

/-- Writes a member of an enumeration without what ends it. -/
def writeEnumMember (pos : Nat) (key : Piece .key) (init : Option (Piece .expression)) : Printing Unit := do
  openMember pos
  key.whole
  match init with
  | some e =>
    write " = "
    e.whole
  | none => return

def writeEnum (isConst isDeclare : Bool) (name : String) (members : List (Piece .enumMember)) : Printing Unit :=
  writeDeclare isDeclare do
    if isConst then write "const "
    writeWord ("enum " ++ name ++ " ")
    braces members.isEmpty do
      if !members.isEmpty then
        separated (write ",\n") (members.map Piece.whole)
        newline

def writeInterface (name : String) (typeParameters : List (Piece .typeParameter)) (parents : List (Piece .heritage))
    (members : List (Piece .typeMember)) : Printing Unit := do
  writeWord ("interface " ++ name)
  writeTypeParameters typeParameters
  if !parents.isEmpty then
    write " extends "
    writeList parents .free
  space
  writeTypeMembers members

def writeTypeAlias (isDeclare : Bool) (name : String) (typeParameters : List (Piece .typeParameter))
    (type : Piece .type) : Printing Unit :=
  writeDeclare isDeclare do
    writeWord ("type " ++ name)
    writeTypeParameters typeParameters
    writeAround " = " type ""

def writeNamespace (isDeclare isModule : Bool) (name : ModuleName) (body : Piece .namespaceBody) (m : Manner) :
    Printing Unit :=
  writeDeclare isDeclare do
    writeWord (if isModule then "module " else "namespace ")
    writeModuleName name
    body.write m

/-- Writes the body of a namespace whose name has parts. -/
def writeNamespaceNested (name : String) (body : Piece .namespaceBody) (m : Manner) : Printing Unit := do
  write ("." ++ name)
  body.write m

def writeNamespaceBlock (body : Piece .body) (m : Manner) : Printing Unit := do
  space
  body.write m.asWhole

def writeGlobal (isDeclare : Bool) (body : Piece .body) (m : Manner) : Printing Unit :=
  writeDeclare isDeclare do
    writeWord "global "
    body.write m.asWhole

/-! ## Imports -/

/-- Writes the properties that an imported module has to have. -/
def writeImportAttributes (isAssert : Bool) (attributes : List (Piece .importAttribute)) : Printing Unit := do
  write (if isAssert then " assert " else " with ")
  if attributes.isEmpty then write "\x7b\x7d"
  else
    write "\x7b "
    writeList attributes .free
    write " \x7d"

def writeImportAttribute (key : Piece .key) (value : StringValue) : Printing Unit := do
  key.whole
  write ": "
  writeString value

/-- Writes a name with the name that it gets. -/
def writeRenamed (isType : Bool) (name renamed : ModuleName) : Printing Unit := do
  if isType then write "type "
  writeModuleName name
  if name.text != renamed.text then
    write " as "
    writeModuleName renamed

/-- Whether an imported name stands in braces. -/
def isNamedImport : Tree .importName → Bool
  | .importNamed _ _ _ => true
  | _ => false

/-- Writes imported names: those outside braces first, then those in braces. -/
def writeImportNames (names : List (Piece .importName)) : Printing Unit := do
  let (named, others) := names.partition fun n => isNamedImport n.tree
  let inBraces : List (Printing Unit) := if named.isEmpty && !others.isEmpty then [] else [do
    if named.isEmpty then write "\x7b\x7d"
    else
      write "\x7b "
      writeList named .free
      write " \x7d"]
  commaList (others.map Piece.whole ++ inBraces)
  write " from "

def writeImport (isType : Bool) (phase : Option ImportPhase) (names : Option (List (Piece .importName)))
    (specifier : StringValue) (attributes : Option (Piece .importAttributes)) : Printing Unit := do
  writeWord (if isType then "import type " else "import ")
  match phase with
  | some phase => write (phase.text ++ " ")
  | none => pure ()
  match names with
  | some names => writeImportNames names
  | none => pure ()
  writeString specifier
  match attributes with
  | some a => a.whole
  | none => return

def writeImportEquals (name : String) (source : Piece .importSource) : Printing Unit := do
  writeWord ("import " ++ name ++ " = ")
  source.whole

def writeModuleSource (specifier : StringValue) : Printing Unit := do
  write "require("
  writeString specifier
  writeChar ')'

/-! ## Exports -/

/-- Whether a declaration ends with a semicolon. -/
def endsWithSemicolon : Declaration → Bool
  | .variables _ _ _ _ | .typeAlias _ _ _ _ _ | .importEquals _ _ _ _ => true
  | _ => false

def writeExportDeclaration (pos : Nat) (declaration : Piece (.statement .declarations)) (m : Manner) : Printing Unit :=
  writeFramed pos m (do
    writeWord "export "
    declaration.write m.asPart) (if endsWithSemicolon declaration.tree then endStatement else newline)

/-- Writes exported names in braces. -/
def writeExportNames (isType : Bool) (names : List (Piece .exportName)) : Printing Unit := do
  writeWord (if isType then "export type \x7b" else "export \x7b")
  if !names.isEmpty then
    space
    writeList names .free
    space
  writeChar '\x7d'

/-- Writes the module that exported names come from. -/
def writeExportFrom (isType : Bool) (names : List (Piece .exportName)) (specifier : StringValue) : Printing Unit := do
  writeExportNames isType names
  write " from "
  writeString specifier

def writeExportAll (isType : Bool) (exported : Option ModuleName) (specifier : StringValue)
    (attributes : Option (Piece .importAttributes)) : Printing Unit := do
  writeWord (if isType then "export type *" else "export *")
  match exported with
  | some name =>
    write " as "
    writeModuleName name
  | none => pure ()
  write " from "
  writeString specifier
  match attributes with
  | some a => a.whole
  | none => return

def writeDefaultValue (e : Piece .expression) : Printing Unit := do
  modify fun p => { p with defaultStart := p.length }
  e.operand .comma

/-- Writes what a module exports as default. -/
def writeExportDefault (pos : Nat) (value : Piece .defaultExport) (m : Manner) : Printing Unit :=
  let ending : Printing Unit := match value.tree with
    | .defaultValue _ => endStatement
    | _ => newline
  writeFramed pos m (do
    writeWord "export default "
    value.write m.asPart) ending

end Bundler.Script
