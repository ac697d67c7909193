import Bundler.Script.Grammar.Target

/-!
# Arrow functions

Whether a parenthesis opens the parameters of an arrow function is decided by the tokens after it. Where they leave it
open, the parameters are read on trial.
-/

namespace Bundler.Script

open Reading

/-- Whether an arrow function begins at a place, as far as the next tokens tell. -/
inductive Verdict where
  | yes
  | no
  | unclear
  deriving DecidableEq, Inhabited, Repr

/-- What the tokens after an opening parenthesis tell. -/
def judgeParenthesis : Reading Verdict := do
  advance
  match ← kind with
  | .sign .rightParen =>
    advance
    let k ← kind
    return if k = .sign .arrow || k = .sign .colon || k = .sign .leftBrace then .yes else .no
  | .sign .leftBracket | .sign .leftBrace => return .unclear
  | .sign .ellipsis => return .yes
  | k =>
    let isModified ← match ← modifier? with
      | some .asyncWord | none => pure false
      | some _ => do
        let next ← nextKind
        pure (next.isName && next ≠ .keyword .asWord)
    if isModified then return .yes
    if !k.isBindable && k ≠ .keyword .thisWord then return .no
    advance
    match ← kind with
    | .sign .colon => return .yes
    | .sign .question =>
      advance
      return if (← kind) ∈ [TokenKind.sign .colon, .sign .comma, .sign .equal, .sign .rightParen] then .yes else .no
    | .sign .comma | .sign .equal | .sign .rightParen => return .unclear
    | _ => return .no

/-- What the tokens after an opening angle bracket tell. -/
def judgeAngle : Reading Verdict := do
  advance
  let k ← kind
  if !k.isBindable && k ≠ .keyword .constWord then return .no
  if !(← hasMarkup) then return if ← hasTypes then .unclear else .no
  let _ ← eatWord .constWord
  advance
  match ← kind with
  | .keyword .extendsWord =>
    advance
    let k ← kind
    return if k = .sign .equal || k = .sign .greater || k = .sign .slash then .no else .yes
  | .sign .comma | .sign .equal => return .yes
  | _ => return .no

/-- Whether an arrow function with parentheses begins here. -/
def judgeArrow : Reading Verdict := do
  match ← kind with
  | .sign .leftParen => lookahead judgeParenthesis
  | .sign .less => lookahead judgeAngle
  | .keyword .asyncWord => lookahead do
    advance
    if ← onNewLine then return .no
    match ← kind with
    | .sign .leftParen => judgeParenthesis
    | .sign .less => judgeAngle
    | _ => return .no
  | _ => return .no

/-- Asks for the arrow after parameters. -/
def expectArrow : Reading Unit := do
  if ← onNewLine then note .breakBeforeArrow
  expectSign .arrow

/-- The beginning of an arrow function up to the arrow. -/
structure ArrowHead where
  isAsync : Bool
  typeParameters : List (Tree .typeParameter)
  parameters : List (Tree .parameter)
  result : Option TypeTree

/-- The parenthesised parameters of an arrow function, with the arrow. -/
def readArrowHead (g : Grammar) : Reading ArrowHead := do
  let isAsync ← eatWord .asyncWord
  let (typeParameters, parameters, result) ←
    within (fun s => { s with inAsync := s.inAsync || isAsync }) do
      let typeParameters ← readTypeParameters g
      let parameters ← readParameters g .ordinary
      match parameters with
      | .parameterThis _ :: _ => note .thisInArrow
      | _ => pure ()
      let result ← readResult? g
      return (typeParameters, parameters, result)
  expectArrow
  return ⟨isAsync, typeParameters, parameters, result⟩

/-- An arrow function after its arrow. -/
def readArrowBody (g : Grammar) (head : ArrowHead) (arrowResult : Bool) : Reading Expression := do
  let isConcise := !(← isAtSign .leftBrace)
  let body ← within (fun s => { s with inAsync := head.isAsync, inGenerator := false }) do
    if isConcise then
      let pos ← here
      let e ← g (.assignment arrowResult)
      return Tree.bodyOf [] (.cons (.evaluation pos e) .nil)
    else readFunctionBody g
  return .arrow head.isAsync isConcise (.ofList head.typeParameters) (.ofList head.parameters)
    (.ofOption head.result) body false false

/-- Remembers that no arrow function begins at a place. -/
def noArrowAt (pos : Nat) : Reading Unit :=
  modify fun r => { r with notArrows := pos :: r.notArrows }

/-- Reads an arrow function on trial. -/
def tryArrow (g : Grammar) (arrowResult : Bool) : Reading (Option Expression) := do
  let pos ← here
  if (← get).notArrows.contains pos then return none
  let around ← surroundings
  let place ← checkpoint
  let giveUp : Reading (Option Expression) := do
    noArrowAt pos
    modify fun r => { r with surroundings := around }
    rewind place
    return none
  let head ← readArrowHead g
  if ← isOver then return ← giveUp
  let e ← readArrowBody g head arrowResult
  -- In the middle of a conditional expression a colon belongs to that expression.
  if !arrowResult && head.result.isSome && !(← isAtSign .colon) then return ← giveUp
  return some e

/-- An arrow function with parentheses, if one begins here. -/
def readParenthesizedArrow? (g : Grammar) (arrowResult : Bool) : Reading (Option Expression) := do
  match ← judgeArrow with
  | .no => return none
  | .unclear => tryArrow g arrowResult
  | .yes =>
    let head ← readArrowHead g
    return some (← readArrowBody g head true)

/-- An arrow function after its only parameter, which has no parentheses. -/
def readPlainArrow (g : Grammar) (parameter : Expression) (isAsync arrowResult : Bool) : Reading Expression := do
  match parameter with
  | .identifier name =>
    expectArrow
    let p := Tree.parameterItem .nil none false false (.patternName name)
    readArrowBody g ⟨isAsync, [], [p], none⟩ arrowResult
  | _ =>
    unexpected
    return .null

/-- Whether an asynchronous arrow function without parentheses begins here. -/
def isAtAsyncArrow : Reading Bool := do
  if !(← isAtWord .asyncWord) then return false
  lookahead do
    advance
    let k ← kind
    if (← onNewLine) || !k.isBindable then return false
    if k = .keyword .awaitWord && (← surroundings).inAsync then return false
    advance
    return !(← onNewLine) && (← isAtSign .arrow)

end Bundler.Script
