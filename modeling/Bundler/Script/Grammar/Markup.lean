import Bundler.Script.Grammar.Class

/-!
# Markup

Elements and fragments of markup, with attributes and children.
-/

namespace Bundler.Script

open Reading

/-! ## Names -/

/-- A word of a name in markup, which may contain hyphens. -/
def readMarkupWord : Reading String := do
  if !(← kind).isAnyName then
    unexpected
    return ""
  extendMarkupName
  let name := (← token).name
  advanceAs .identifier
  return name

/-- The name of an element. -/
def readElementName : Reading MarkupName := do
  let first ← readMarkupWord
  if ← eatSign .colon then return .spaced first (← readMarkupWord)
  loop (MarkupName.plain first) fun name => do
    if (← hasFailed) || !(← eatSign .dot) then return (name, false)
    let property ← readMarkupWord
    if property.toList.contains '-' then fail .unexpectedToken
    return (.member name property, true)

/-- The name of an attribute. -/
def readAttributeName : Reading MarkupName := do
  let first ← readMarkupWord
  if ← eatSign .colon then return .spaced first (← readMarkupWord)
  return .plain first

def MarkupName.text : MarkupName → String
  | .plain name => name
  | .spaced space name => space ++ ":" ++ name
  | .member object property => object.text ++ "." ++ property

/-! ## Attributes -/

/-- An expression in braces, from after the opening brace. -/
def readMarkupValue (g : Grammar) : Reading Expression := do
  let e ← g .expression
  match e with
  | .sequence _ => note .markupComma
  | _ => pure ()
  return e

/-- Asks for a token and steps on, inside an element or not. -/
def expectAround (inside : Bool) (s : Sign) : Reading Unit :=
  if inside then expectInMarkup (.sign s) else expectSign s

/-- The value of an attribute. -/
def readAttributeValue (g : Grammar) (name : MarkupName) : Reading (Tree .markupAttribute) := do
  match ← kind with
  | .string => return .attributeText name (String.ofList ((← readString).codes.map Char.ofNat))
  | .sign .leftBrace =>
    advance
    if ← isAtSign .rightBrace then
      let close ← here
      expectSign .rightBrace
      return .attributeNothing name close
    let e ← readMarkupValue g
    expectSign .rightBrace
    return .attributeValue name e
  | .sign .less => return .attributeElement name (← g (.markup false))
  | _ =>
    unexpected
    return .attributeFlag name

/-- An attribute of an element. -/
def readAttribute (g : Grammar) : Reading (Tree .markupAttribute) := do
  if ← eatSign .leftBrace then
    expectSign .ellipsis
    let e ← g .expression
    expectSign .rightBrace
    return .attributeSpread e
  let name ← readAttributeName
  if ← isAtSign .equal then
    expectBeforeAttribute (.sign .equal)
    readAttributeValue g name
  else return .attributeFlag name

/-! ## Children -/

/-- A child of an element; there is none before a closing tag. -/
def readChild? (g : Grammar) : Reading (Option (Tree .markupChild)) := do
  match ← kind with
  | .sign .less =>
    if (← nextKind) = .sign .slash then return none
    return some (.childElement (← g (.markup true)))
  | .sign .leftBrace =>
    advance
    if ← eatSign .ellipsis then
      let e ← g .expression
      expectInMarkup (.sign .rightBrace)
      return some (.childSpread e)
    if ← isAtSign .rightBrace then
      let close ← here
      expectInMarkup (.sign .rightBrace)
      return some (.childNothing close)
    let e ← readMarkupValue g
    expectInMarkup (.sign .rightBrace)
    return some (.childValue e)
  | .markupText =>
    let text := String.ofList (← token).spelling
    advanceInMarkup
    return some (.childText text)
  | _ =>
    unexpected
    return some (.childText "")

/-- The children of an element. -/
def readChildren (g : Grammar) : Reading (List (Tree .markupChild)) :=
  many do
    if ← hasFailed then return none
    readChild? g

/-- The closing tag of an element, with its name, or of a fragment. -/
def readClosing (inside : Bool) : Reading (Option MarkupName) := do
  expectSign .less
  expectSign .slash
  let name ← if ← isAtSign .greater then pure none else pure (some (← readElementName))
  expectAround inside .greater
  return name

/-- An element or a fragment. -/
def readMarkup (g : Grammar) (inside : Bool) : Reading Expression := do
  advance
  if ← isAtSign .greater then
    expectInMarkup (.sign .greater)
    let children ← readChildren g
    if (← readClosing inside).isSome then note .fragmentClosing
    return .markupFragment (.ofList children)
  if !(← kind).isAnyName then
    unexpected
    return .markupFragment .nil
  let name ← readElementName
  let arguments ← if ← hasTypes then readTypeArguments? g else pure []
  let attributes ← many do
    let k ← kind
    if k = .sign .less || k = .sign .greater || k = .sign .slash || (← hasFailed) then return none
    return some (← readAttribute g)
  let element := Tree.markupElement name (.ofList arguments) (.ofList attributes)
  if ← eatSign .slash then
    expectAround inside .greater
    return element .none
  expectInMarkup (.sign .greater)
  let children ← readChildren g
  if (← readClosing inside) ≠ some name then note (.elementClosing name.text)
  return element (.some (.ofList children))

end Bundler.Script
