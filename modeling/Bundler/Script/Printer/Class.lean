import Bundler.Script.Printer.Function

/-!
# Writing classes

Classes with their parents and members. Not every mark of a member is written: methods and fields lose `override` and the
statement that they surely have a value, and an index signature loses `static`.
-/

namespace Bundler.Script

open Printing

/-! ## Members -/

/-- Writes the comments and the indentation before a member. -/
def openMember (pos : Nat) : Printing Unit := do
  writeCommentsAt pos
  indent

/-- Writes from where a member may be used. -/
def writeAccess (access : Option Accessibility) : Printing Unit := do
  match access with
  | some access => writeWord (access.text ++ " ")
  | none => return

/-- The marks of a member that are written before its name. -/
structure MemberMarks where
  decorators : List (Piece .expression)
  access : Option Accessibility
  isDeclare : Bool
  isAbstract : Bool
  isStatic : Bool
  isReadonly : Bool
  isAccessor : Bool

def writeMemberMarks (marks : MemberMarks) : Printing Unit := do
  writeDecorators marks.decorators
  if marks.isDeclare then write "declare "
  writeAccess marks.access
  if marks.isAbstract then write "abstract "
  if marks.isStatic then write "static "
  if marks.isReadonly then write "readonly "
  if marks.isAccessor then write "accessor "

def writeMemberMethod (pos : Nat) (marks : MemberMarks) (kind : MethodKind) (key : Piece .key) (optional : Bool)
    (f : Piece .function) (m : Manner) : Printing Unit := do
  openMember pos
  writeMemberMarks marks
  writeMethodMarks kind f
  key.whole
  if optional then writeChar '?'
  f.write m.asPart
  match f.tree with
  | .functionOf _ _ _ _ _ _ _ .none _ _ => writeChar ';'
  | _ => pure ()
  newline

def writeMemberField (pos : Nat) (marks : MemberMarks) (key : Piece .key) (optional : Bool)
    (type : Option (Piece .type)) (value : Option (Piece .expression)) : Printing Unit := do
  openMember pos
  writeMemberMarks marks
  key.whole
  if optional then writeChar '?'
  writeAnnotation type
  writeInitializer value .free
  endStatement

def writeMemberBlock (pos : Nat) (statements : List (Piece (.statement .all))) (m : Manner) : Printing Unit := do
  openMember pos
  write "static "
  braces statements.isEmpty (statements.forM fun s => s.write m.asWhole)
  newline

/-- Writes an index signature without what ends it. -/
def writeIndexer (isReadonly : Bool) (name : String) (keyType type : Piece .type) : Printing Unit := do
  if isReadonly then write "readonly "
  write ("[" ++ name ++ ": ")
  keyType.whole
  write "]: "
  type.whole

def writeMemberIndexer (pos : Nat) (isReadonly : Bool) (name : String) (keyType type : Piece .type) :
    Printing Unit := do
  openMember pos
  writeIndexer isReadonly name keyType type
  endStatement

/-! ## Classes -/

def writeHeritage (base : Piece .expression) (typeArguments : List (Piece .type)) (m : Manner) : Printing Unit := do
  base.write (m.inside .call)
  writeTypeArguments typeArguments

/-- What stands between the name of a class and its members. -/
structure ClassHead where
  typeParameters : List (Piece .typeParameter)
  parent : Option (Piece .expression)
  parentArguments : List (Piece .type)
  implemented : List (Piece .heritage)

def writeClassHead (head : ClassHead) : Printing Unit := do
  writeTypeParameters head.typeParameters
  match head.parent with
  | some e =>
    write " extends "
    e.operand .update
    writeTypeArguments head.parentArguments
  | none => pure ()
  if !head.implemented.isEmpty then
    write " implements "
    writeList head.implemented .free

def writeClass (decorators : List (Piece .expression)) (name : Option String) (isAbstract isDeclare : Bool)
    (head : ClassHead) (members : List (Piece .member)) (m : Manner) : Printing Unit := do
  writeDecorators decorators
  separate
  if isDeclare then write "declare "
  if isAbstract then write "abstract "
  write "class"
  match name with
  | some name => write (" " ++ name)
  | none => pure ()
  writeClassHead head
  space
  braces members.isEmpty (members.forM fun e => e.write m.allowCall)

/-- Writes a class as an expression. -/
def writeClassValue (c : Piece .classDefinition) (m : Manner) : Printing Unit := do
  parenthesize ((← isAtStatement) || (← isAtDefault)) (c.write m)

end Bundler.Script
