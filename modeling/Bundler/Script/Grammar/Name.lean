import Bundler.Script.Grammar.Phrase

/-!
# Names and literals

Names in their different roles, and literals without parts.
-/

namespace Bundler.Script

open Reading

/-! ## Names -/

/-- Notes that `await` and `yield` are no names where they are operators. -/
def checkName (k : TokenKind) (s : Surroundings) : Reading Unit := do
  if s.inAsync && k = .keyword .awaitWord then note .awaitAsName
  if s.inGenerator && k = .keyword .yieldWord then note .yieldAsName

/-- Takes the current token as a name. -/
def takeName : Reading String := do
  let name := (← token).name
  advanceAs .identifier
  return name

/-- The name of a value. -/
def readReference : Reading String := do
  let k ← kind
  if !k.isBindable then
    unexpected
    return ""
  checkName k (← surroundings)
  takeName

/-- A name that is given to something. -/
def readBinding : Reading String := do
  let k ← kind
  if !k.isBindable then
    match k with
    | .keyword word => fail (.reservedWord word.text)
    | _ => unexpected
    return ""
  checkName k (← surroundings)
  takeName

/-- The name of a label. -/
def readLabel : Reading String := do
  let k ← kind
  let s ← surroundings
  let isFine := k.isName || (k = .keyword .awaitWord && !s.inAsync) || (k = .keyword .yieldWord && !s.inGenerator)
  if !isFine then
    unexpected
    return ""
  takeName

/-- Any word. -/
def readAnyName : Reading String := do
  if !(← kind).isAnyName then
    unexpected
    return ""
  takeName

/-- A private name without its mark. -/
def readPrivateName : Reading String := do
  let name := (← token).name
  advance
  return name

/-! ## Literals -/

/-- A string. -/
def readString : Reading StringValue := do
  if !(← isAt .string) then
    unexpected
    return ⟨[]⟩
  let value : StringValue := ⟨(← token).codes⟩
  advance
  return value

/-- A literal without parts. -/
def readLiteral : Reading Expression := do
  let t ← token
  match t.kind with
  | .string =>
    advance
    return .string ⟨t.codes⟩
  | .keyword .trueWord =>
    advance
    return .boolean true
  | .keyword .falseWord =>
    advance
    return .boolean false
  | .keyword .nullWord =>
    advance
    return .null
  | .number form =>
    advance
    return .number (numberValue form t.spelling)
  | .bigint =>
    advance
    return .bigint (bigintValue t.spelling)
  | _ =>
    unexpected
    return .null

/-- A regular expression. -/
def readRegex : Reading Expression := do
  let s ← rereadRegex
  if !(← get).place.tokenFaults.isEmpty then
    unexpected
    return .null
  advance
  return .regex s.pattern s.flags

/-! ## Templates -/

/-- The current part of a template. -/
def readTemplateText (tagged : Bool) : Reading String := do
  let t ← token
  if t.badEscape && !tagged then note .badTemplateEscape
  let part := match t.kind with
    | .template part => part
    | _ => .whole
  advance
  return templateText part t.spelling

/-- A template with values between its texts. -/
def readTemplateOf {α : Type} (tagged : Bool) (value : Reading α) : Reading (List String × List α) := do
  if ← isAt (.template .whole) then
    return ([← readTemplateText tagged], [])
  let text ← readTemplateText tagged
  let first ← value
  rereadTail
  let (texts, values) ← loop ([text], [first]) fun (texts, values) => do
    if ← hasFailed then return ((texts, values), false)
    match ← kind with
    | .template .last =>
      let text ← readTemplateText tagged
      return ((text :: texts, values), false)
    | .template .middle =>
      let text ← readTemplateText tagged
      let next ← value
      rereadTail
      return ((text :: texts, next :: values), true)
    | _ =>
      expectSign .rightBrace
      return ((texts, values), false)
  return (texts.reverse, values.reverse)
where
  rereadTail : Reading Unit := do
    if ← isAtSign .rightBrace then rereadTemplate

/-- A template whose values are expressions. -/
def readTemplate (g : Grammar) (tagged : Bool) : Reading (List String × List Expression) :=
  readTemplateOf tagged (within ({ · with allowsIn := true }) (g .expression))

end Bundler.Script
