import Bundler.Script.Grammar.Function

/-!
# Literals with parts

Object literals, array literals, and the arguments of calls.
-/

namespace Bundler.Script

open Reading

/-! ## Arrays and arguments -/

/-- An element of an array literal. -/
def readElement (g : Grammar) : Reading (Tree .element) := do
  if ← isAtSign .comma then return .elementHole
  if ← eatSign .ellipsis then return .elementSpread (← g.value)
  return .elementItem (← g.value)

/-- An array literal. -/
def readArray (g : Grammar) : Reading Expression := do
  expectSign .leftBracket
  let (elements, trailing) ← within ({ · with allowsIn := true })
    (delimited (.sign .rightBracket) (.sign .comma) (readElement g))
  expectSign .rightBracket
  return .array (.ofList elements) trailing.isSome

/-- An argument of a call. -/
def readArgument (g : Grammar) : Reading (Tree .argument) := do
  let pos ← here
  if ← eatSign .ellipsis then return .argumentSpread pos (← g.value)
  return .argumentItem pos (← g.value)

/-- The arguments of a call in parentheses, and where the closing one stands. -/
def readArguments (g : Grammar) (inDecorator : Bool) : Reading (Tree (.many .argument) × Nat) := do
  expectSign .leftParen
  let arguments ← within (fun s => { s with allowsIn := true, inDecorator := inDecorator && s.inDecorator })
    (commaList .rightParen (readArgument g))
  let close ← here
  expectSign .rightParen
  return (.ofList arguments, close)

/-! ## Objects -/

/-- Remembers a property that is only fine in a target of an assignment. -/
def openProperty (pos : Nat) : Reading Unit :=
  modify fun r =>
    if r.openProperties.contains pos then r else { r with openProperties := pos :: r.openProperties }

/-- Forgets such a property, because it is part of a target. -/
def closeProperty (pos : Nat) : Reading Unit :=
  modify fun r => { r with openProperties := r.openProperties.filter (· != pos) }

/-- A property of an object literal. -/
def readProperty (g : Grammar) : Reading (Tree .property) := do
  let pos ← here
  if ← eatSign .ellipsis then return .propertySpread (← g.value)
  let words ← readModifiers false false
  let accessor (kind : MethodKind) : Reading (Tree .property) := do
    let key ← readKey g
    let f ← readMethod g .method false false
    checkAccessor kind f
    allowModifiers [] .modifierHere words
    return .propertyMethod kind key f
  if ← eatAccessor .getWord then return ← accessor .getter
  if ← eatAccessor .setWord then return ← accessor .setter
  let isGenerator ← eatSign .star
  let k ← kind
  let s ← surroundings
  let key ← readKey g
  if isGenerator || (← isAtSign .leftParen) || (← isAtSign .less) then
    allowModifiers [.asyncWord] .modifierHere words
    return .propertyMethod .method key (← readMethod g .method (.asyncWord ∈ words) isGenerator)
  allowModifiers [] .modifierHere words
  match key, k.isBindable && !(← isAtSign .colon) with
  | .keyName name, true =>
    checkName k s
    match ← within ({ · with allowsIn := true }) g.initializer? with
    | some e =>
      openProperty pos
      return .propertyShorthand pos name (.some e)
    | none => return .propertyShorthand pos name .none
  | _, _ =>
    expectSign .colon
    return .propertyValue key (← g.value)

/-- An object literal. -/
def readObject (g : Grammar) : Reading Expression := do
  expectSign .leftBrace
  let (properties, trailing) ← within ({ · with allowsIn := true })
    (delimited (.sign .rightBrace) (.sign .comma) (readProperty g))
  expectSign .rightBrace
  return .object (.ofList properties) trailing.isSome

end Bundler.Script
