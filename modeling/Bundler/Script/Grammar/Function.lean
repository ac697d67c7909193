import Bundler.Script.Grammar.Type

/-!
# Functions

Functions as statements, as expressions and as methods, and the statements inside them.
-/

namespace Bundler.Script

open Reading

/-! ## Bodies -/

/-- The text of a directive: a statement that is nothing but a string. -/
def directive? (start : Token) : Statement → Option String
  | .evaluation _ (.string _) =>
    if start.kind = .string then
      some (String.ofList ((start.spelling.drop 1).take (start.spelling.length - 2)))
    else none
  | _ => none

/-- Statements up to a closing token, with the directives at their beginning apart. -/
def readBody (g : Grammar) (close : TokenKind) : Reading (List String × List Statement) := do
  let (directives, statements, _) ← loop (([] : List String), ([] : List Statement), true)
    fun (directives, statements, atStart) => do
      if (← isOver) || (← isAt close) then return ((directives, statements, atStart), false)
      let start ← token
      let s ← g (.statement false)
      match if atStart then directive? start s else none with
      | some text => return ((text :: directives, statements, true), true)
      | none => return ((directives, s :: statements, false), true)
  return (directives.reverse, statements.reverse)

/-- The body of a function in braces. -/
def readFunctionBody (g : Grammar) : Reading (Tree .body) := do
  expectSign .leftBrace
  let (directives, statements) ← within ({ · with inFunction := true }) (readBody g (.sign .rightBrace))
  expectSign .rightBrace
  return .bodyOf directives (.ofList statements)

/-! ## Functions -/

/-- What a function is part of. -/
inductive FunctionPlace where
  | declaration
  | expression
  | defaultExport
  /-- A declaration that only describes the function. -/
  | described
  | method
  | constructor
  deriving DecidableEq, Inhabited, Repr

/-- The beginning of a function up to its name. -/
structure FunctionHead where
  name : Option String
  isAsync : Bool
  isGenerator : Bool
  modifiers : List Keyword

/-- A function after its name. -/
def readFunctionRest (g : Grammar) (place : FunctionPlace) (head : FunctionHead) : Reading (Tree .function) := do
  let change (s : Surroundings) : Surroundings :=
    { s with allowsIn := true, inAsync := head.isAsync, inGenerator := head.isGenerator }
  let (typeParameters, parameters, result, body) ← within change do
    let typeParameters ← readTypeParameters g
    let parameters ← readParameters g (if place = .constructor then .constructor else .ordinary)
    let result ← readResult? g
    let body ← if ← isAtSign .leftBrace then pure (some (← readFunctionBody g)) else pure none
    return (typeParameters, parameters, result, body)
  if body.isNone then
    if ← hasTypes then endStatement else fail .functionBody
  allowModifiers [.declareWord, .asyncWord] .modifierHere head.modifiers
  return .functionOf head.name head.isAsync head.isGenerator (.declareWord ∈ head.modifiers) (.ofList typeParameters)
    (.ofList parameters) (.ofOption result) (.ofOption body) false false

/-- The name of a function, which only a declaration needs. -/
def readFunctionName (place : FunctionPlace) (isAsync isGenerator : Bool) : Reading (Option String) := do
  let k ← kind
  if k.isBindable then
    let s ← surroundings
    checkName k (if place = .expression then { s with inAsync := isAsync, inGenerator := isGenerator } else s)
    return some (← takeName)
  if place = .declaration || place = .described then
    match k with
    | .sign .leftParen => note .functionName
    | .keyword word => if word.isReserved then demand .identifier
    | _ => pure ()
  return none

/-- A function from its keyword on. -/
def readFunction (g : Grammar) (place : FunctionPlace) (isAsync : Bool) (modifiers : List Keyword) :
    Reading (Tree .function) := do
  expectWord .functionWord
  let isGenerator ← eatSign .star
  let name ← readFunctionName place isAsync isGenerator
  readFunctionRest g place ⟨name, isAsync, isGenerator, modifiers⟩

/-- A method after its name. -/
def readMethod (g : Grammar) (place : FunctionPlace) (isAsync isGenerator : Bool) : Reading (Tree .function) :=
  readFunctionRest g place ⟨none, isAsync, isGenerator, []⟩

/-- Whether a function begins here. -/
def isAtFunction : Reading Bool := do
  match ← kind with
  | .keyword .functionWord => return true
  | .keyword .asyncWord =>
    let next ← nextToken
    return next.kind = .keyword .functionWord && !next.onNewLine
  | _ => return false

/-! ## Getters and setters -/

/-- Notes parameters that a getter or setter must not have. -/
def checkAccessor (kind : MethodKind) (f : Tree .function) : Reading Unit := do
  match f with
  | .functionOf _ _ _ _ _ parameters _ _ _ _ =>
    let items := parameters.toList.filter fun
      | .parameterThis _ => false
      | _ => true
    match kind, items with
    | .getter, _ :: _ => note .getterParameters
    | .setter, items =>
      if items.any fun
          | .parameterRest _ _ => true
          | _ => false then note .setterRest
      else match items with
        | [.parameterItem _ _ _ _ (.patternDefault _ _)] => if ← hasTypes then note .setterInitializer
        | [_] => return
        | _ => note .setterParameters
    | _, _ => return

end Bundler.Script
