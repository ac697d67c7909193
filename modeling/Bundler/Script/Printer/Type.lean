import Bundler.Script.Printer.Class

/-!
# Writing types

Types are written as they stand: their parentheses are part of the tree.
-/

namespace Bundler.Script

open Printing

/-! ## Parts of types -/

def writeTypeParameter (name : String) (isConst isIn isOut : Bool) (bound init : Option (Piece .type)) :
    Printing Unit := do
  if isConst then write "const "
  if isIn then write "in "
  if isOut then write "out "
  write name
  match bound with
  | some t =>
    write " extends "
    t.whole
  | none => pure ()
  match init with
  | some t =>
    write " = "
    t.whole
  | none => return

def writeTupleNamed (label : String) (optional : Bool) (element : Piece .tupleElement) : Printing Unit := do
  write (label ++ (if optional then "?: " else ": "))
  element.whole

/-- Writes types with a sign between them. -/
def writeTypesWith (sign : String) (types : List (Piece .type)) : Printing Unit :=
  separated (write (" " ++ sign ++ " ")) (types.map Piece.whole)

def writeTypeConditional (check bound yes no : Piece .type) : Printing Unit := do
  check.whole
  write " extends "
  bound.whole
  write " ? "
  yes.whole
  write " : "
  no.whole

def writeTypeIndexed (object key : Piece .type) : Printing Unit := do
  object.whole
  writeAround "[" key "]"

/-- Writes how a mapped type treats a modifier. -/
def writeMappedModifier (modifier : MappedModifier) (text : String) : Printing Unit :=
  match modifier with
  | .untouched => return
  | .present => write text
  | .added => write ("+" ++ text)
  | .removed => write ("-" ++ text)

def writeTypeMapped (readonly : MappedModifier) (name : String) (bound : Piece .type) (renamed : Option (Piece .type))
    (optional : MappedModifier) (type : Option (Piece .type)) : Printing Unit := do
  write "\x7b "
  writeMappedModifier readonly "readonly "
  write ("[" ++ name ++ " in ")
  bound.whole
  match renamed with
  | some t =>
    write " as "
    t.whole
  | none => pure ()
  writeChar ']'
  writeMappedModifier optional "?"
  space
  match type with
  | some t => writeAround ": " t " "
  | none => space
  writeChar '\x7d'

def writeTypeFunction (before : String) (typeParameters : List (Piece .typeParameter))
    (parameters : List (Piece .parameter)) (result : Piece .type) : Printing Unit := do
  write before
  writeTypeParameters typeParameters
  writeParameters parameters .free
  write " => "
  result.whole

def writeTypeReference (before : String) (name : EntityName) (arguments : List (Piece .type)) : Printing Unit := do
  write before
  writeEntityName name
  writeTypeArguments arguments

def writeTypeImport (source : Piece .type) (options : Option (Piece .expression)) (qualifier : Option EntityName)
    (arguments : List (Piece .type)) : Printing Unit := do
  write "import("
  source.whole
  match options with
  | some e =>
    write ", "
    e.whole
  | none => pure ()
  writeChar ')'
  match qualifier with
  | some name =>
    writeChar '.'
    writeEntityName name
  | none => pure ()
  writeTypeArguments arguments

def writeTypeImportQuery (inner : Piece .type) (arguments : List (Piece .type)) : Printing Unit := do
  write "typeof "
  inner.whole
  writeTypeArguments arguments

def writeTypePredicate (asserts : Bool) (name : EntityName) (type : Option (Piece .type)) : Printing Unit := do
  if asserts then write "asserts "
  writeEntityName name
  match type with
  | some t =>
    write " is "
    t.whole
  | none => return

/-- Writes a sign before or after a type. -/
def writeMarkedType (sign : String) (isBefore : Bool) (inner : Piece .type) : Printing Unit :=
  if isBefore then writeAround sign inner "" else writeAround "" inner sign

/-! ## Members of types -/

/-- Writes members of a type in braces. -/
def writeTypeMembers (members : List (Piece .typeMember)) : Printing Unit :=
  braces members.isEmpty (members.forM Piece.whole)

/-- Writes a member of a type on a line of its own. -/
def writeTypeMember (pos : Nat) (content : Printing Unit) : Printing Unit := do
  openMember pos
  content
  endStatement

def writeTypeProperty (isReadonly optional : Bool) (key : Piece .key) (type : Option (Piece .type)) :
    Printing Unit := do
  if isReadonly then write "readonly "
  key.whole
  if optional then writeChar '?'
  writeAnnotation type

def writeTypeMethod (kind : MethodKind) (key : Piece .key) (optional : Bool) (s : Signature) : Printing Unit := do
  match kind with
  | .getter => write "get "
  | .setter => write "set "
  | .method | .constructor => pure ()
  key.whole
  if optional then writeChar '?'
  writeSignature s .free

def writeTypeConstruct (s : Signature) : Printing Unit := do
  write "new "
  writeSignature s .free

end Bundler.Script
