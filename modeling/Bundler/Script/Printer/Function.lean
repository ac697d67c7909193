import Bundler.Script.Printer.Expression

/-!
# Writing functions and patterns

Functions with their parameters and bodies, and the patterns that take values apart.
-/

namespace Bundler.Script

open Printing

/-! ## Patterns -/

/-- Writes a property with a name of its own, or only the value. -/
def writeProperty (isShorthand : Bool) (key : Piece .key) (value : Printing Unit) : Printing Unit := do
  if !isShorthand then
    key.whole
    write ": "
  value

/-- The name that a pattern is, apart from its default value. -/
def patternName? : Pattern → Option String
  | .patternName name => some name
  | .patternDefault (.patternName name) _ => some name
  | _ => none

def writePatternProperty (key : Piece .key) (value : Piece .pattern) (m : Manner) : Printing Unit :=
  let isShorthand := match key.tree with
    | .keyName name => patternName? value.tree = some name
    | _ => false
  writeProperty isShorthand key (value.write m)

/-- Writes properties in braces on one line, at the end perhaps with a pattern for the rest. -/
def writePatternObject (properties : List (Piece .patternProperty)) (rest : Option (Piece .pattern)) (m : Manner) :
    Printing Unit := do
  if properties.isEmpty && rest.isNone then write "\x7b\x7d"
  else
    write "\x7b "
    writeList properties m
    match rest with
    | some p =>
      write (if properties.isEmpty then "..." else ",...")
      p.write m
    | none => pure ()
    write " \x7d"

/-- Writes elements that may be missing, with a comma at the end where one is needed. -/
def writeElements {c : Category} (elements : List (Option (Piece c))) (hasRest : Bool) (m : Manner) :
    Printing Unit := do
  commaList (elements.map fun
    | some e => e.write m
    | none => return)
  let endsInHole := match elements.getLast? with
    | some none => true
    | _ => false
  if !elements.isEmpty && (endsInHole || hasRest) then writeChar ','

def writePatternArray (elements : List (Option (Piece .pattern))) (rest : Option (Piece .pattern)) (m : Manner) :
    Printing Unit := do
  writeChar '['
  writeElements elements rest.isSome m
  match rest with
  | some p =>
    write " ..."
    p.write m
  | none => pure ()
  writeChar ']'

def writePatternTyped (inner : Piece .pattern) (mark : NameMark) (type : Option (Piece .type)) (m : Manner) :
    Printing Unit := do
  inner.write m
  write mark.text
  writeAnnotation type

def writePatternDefault (inner : Piece .pattern) (value : Piece .expression) (m : Manner) : Printing Unit := do
  inner.write m
  writeInitializer (some value) m

/-! ## Targets -/

def writeTargetObject (properties : List (Piece .targetProperty)) (rest : Option (Piece .target)) (m : Manner) :
    Printing Unit := do
  writeChar '\x7b'
  writeList properties m
  match rest with
  | some t =>
    if !properties.isEmpty then writeChar ','
    write "..."
    t.write m
  | none => pure ()
  writeChar '\x7d'

def writeTargetArray (elements : List (Option (Piece .target))) (rest : Option (Piece .target)) (trailing : Bool)
    (m : Manner) : Printing Unit := do
  writeChar '['
  writeElements elements rest.isSome m
  match rest with
  | some t =>
    if !elements.isEmpty then space
    write "..."
    t.write m
  | none => pure ()
  if trailing && rest.isSome then writeChar ','
  writeChar ']'

def writeTargetShorthand (name : String) (init : Option (Piece .expression)) : Printing Unit := do
  writeWord name
  writeInitializer init .free

def writeTargetKeyed (key : Piece .key) (value : Piece .target) (m : Manner) : Printing Unit :=
  writeProperty false key (value.write m)

def writeTargetDefault (inner : Piece .target) (value : Piece .expression) (m : Manner) : Printing Unit := do
  inner.write m
  writeInitializer (some value) .free

/-! ## Parameters -/

def writeParameter (decorators : List (Piece .expression)) (access : Option Accessibility)
    (isOverride isReadonly : Bool) (pattern : Piece .pattern) (m : Manner) : Printing Unit := do
  writeDecorators decorators
  match access with
  | some access => writeWord (access.text ++ " ")
  | none => pure ()
  if isOverride then write "override "
  if isReadonly then write "readonly "
  pattern.write m

def writeParameterThis (type : Option (Piece .type)) : Printing Unit := do
  write "this"
  writeAnnotation type

def writeParameterRest (pattern : Piece .pattern) (m : Manner) : Printing Unit := do
  write "..."
  pattern.write m

/-- Writes parameters in parentheses. -/
def writeParameters (parameters : List (Piece .parameter)) (m : Manner) : Printing Unit := do
  writeChar '('
  match parameters with
  | [⟨.parameterThis type, thisWriting⟩] =>
    (Piece.mk (.parameterThis type) thisWriting).write m
    space
  | parameters => writeList parameters m
  writeChar ')'

/-- Writes type parameters in angle brackets, several on lines of their own. -/
def writeTypeParameters (parameters : List (Piece .typeParameter)) : Printing Unit := do
  match parameters with
  | [] => return
  | [parameter] =>
    writeChar '<'
    parameter.whole
    -- In a source with markup, a name alone would read as an element.
    if (← get).hasMarkup then writeChar ','
    writeChar '>'
  | parameters =>
    writeChar '<'
    lines (parameters.map Piece.whole)
    writeChar '>'

/-! ## Functions -/

/-- The parts of a function that are written after its name. -/
structure Signature where
  typeParameters : List (Piece .typeParameter)
  parameters : List (Piece .parameter)
  result : Option (Piece .type)

def writeSignature (s : Signature) (m : Manner) : Printing Unit := do
  writeTypeParameters s.typeParameters
  writeParameters s.parameters m
  writeAnnotation s.result

/-- Writes statements; a string that would read as a directive is put in parentheses. -/
def writeStatements (directives : List String) (statements : List (Piece (.statement .all))) (m : Manner) :
    Printing Unit := do
  directives.forM writeDirective
  match directives, statements with
  | [], ⟨.evaluation pos e, writing⟩ :: rest =>
    match e.withoutParentheses with
    | .string value =>
      writeChar '('
      writeString value
      writeChar ')'
      endStatement
    | _ => (Piece.mk (.evaluation pos e) writing).write m.asWhole
    rest.forM fun s => s.write m.asWhole
  | _, statements => statements.forM fun s => s.write m.asWhole

/-- Writes a body: in braces, or as an expression alone. -/
def writeBody (directives : List String) (statements : List (Piece (.statement .all))) (m : Manner) : Printing Unit := do
  if m.bare then statements.forM fun s => s.write m
  else braces (directives.isEmpty && statements.isEmpty) (writeStatements directives statements m)

/-- Writes a function from its parameters on. -/
def writeFunctionRest (s : Signature) (body : Option (Piece .body)) (m : Manner) : Printing Unit := do
  writeSignature s m
  match body with
  | some b =>
    space
    b.write m.asWhole
  | none => return

/-- Writes a function; as a part only what comes after its name. -/
def writeFunction (name : Option String) (isAsync isGenerator isDeclare : Bool) (s : Signature)
    (body : Option (Piece .body)) (m : Manner) : Printing Unit := do
  let m := m.allowCall
  if m.bare then writeFunctionRest s body m
  else
    separate
    if isDeclare then write "declare "
    if isAsync then write "async "
    write "function"
    if isGenerator then write "* "
    match name with
    | some name => writeWord name
    | none => pure ()
    writeFunctionRest s body m
    if body.isNone then writeChar ';'

/-- Writes a function as an expression. -/
def writeFunctionValue (f : Piece .function) (m : Manner) : Printing Unit := do
  let .functionOf _ _ _ _ _ _ _ _ pure parenthesized := f.tree
  writeFreeMark pure
  parenthesize (parenthesized || (← isAtStatement) || (← isAtDefault)) (f.write m.asWhole)

def writeArrow (isAsync isConcise : Bool) (s : Signature) (body : Piece .body) (pure parenthesized : Bool)
    (m : Manner) : Printing Unit := do
  writeFreeMark pure
  parenthesize (parenthesized || m.around ≥ .assign) do
    if isAsync then writeWord "async "
    writeSignature s m
    write " => "
    if isConcise then
      modify fun p => { p with arrowStart := p.length }
      body.write (m.asPart.inside .comma)
    else body.write m.asWhole

/-- Writes the marks of a method before its name. -/
def writeMethodMarks (kind : MethodKind) (f : Piece .function) : Printing Unit := do
  let .functionOf _ isAsync isGenerator _ _ _ _ _ _ _ := f.tree
  match kind with
  | .getter => write "get "
  | .setter => write "set "
  | .method | .constructor => pure ()
  if isAsync then write "async "
  if isGenerator then writeChar '*'

/-- Writes a method of an object. -/
def writePropertyMethod (kind : MethodKind) (key : Piece .key) (f : Piece .function) (m : Manner) : Printing Unit := do
  writeMethodMarks kind f
  key.whole
  f.write m.asPart

end Bundler.Script
