import Bundler.Script.Grammar.Modifier

/-!
# Patterns

Patterns that give names to a value and its parts, with default values and, at the end, a pattern for the rest.
-/

namespace Bundler.Script

open Reading

/-! ## Lists with a rest -/

/-- Reads items with commas between them, and at the end perhaps one after `...` that takes the rest. -/
def itemsWithRest {α β : Type} (close : Sign) (item : Reading α) (rest : Reading β) (notLast : Fault) :
    Reading (List α × Option β) := do
  let (items, last, _) ← loop (([] : List α), (none : Option β), true) fun (items, last, isFirst) => do
    if (← isAtSign close) || (← isOver) then return ((items, last, isFirst), false)
    if !isFirst then
      if !(← isAtSign .comma) then
        fail (.expected (.sign .comma) (← kind))
        return ((items, last, isFirst), false)
      advance
      if ← isAtSign close then
        if last.isSome then note .restTrailingComma
        return ((items, last, isFirst), false)
    if last.isSome then note notLast
    if ← isAtSign .ellipsis then
      let r ← rest
      return ((items, some r, false), true)
    else
      let i ← item
      return ((i :: items, none, false), true)
  return (items.reverse, last)

/-! ## Keys -/

/-- The name of a property in brackets. -/
def readComputedKey (g : Grammar) : Reading Expression := do
  advance
  let e ← within ({ · with allowsIn := true }) g.value
  expectSign .rightBracket
  return e

/-- The name of a property. -/
def readKey (g : Grammar) : Reading (Tree .key) := do
  match ← kind with
  | .string | .number _ | .bigint => return .keyLiteral (← readLiteral)
  | .sign .leftBracket => return .keyComputed (← readComputedKey g)
  | _ => return .keyName (← readAnyName)

/-! ## Patterns -/

/-- A pattern with the default value after it, if there is one. -/
def withDefault (g : Grammar) (p : Pattern) : Reading Pattern := do
  match ← within ({ · with allowsIn := true }) g.initializer? with
  | some e => return .patternDefault p e
  | none => return p

/-- A pattern with a mark and a type, if there are any. -/
def typedPattern (p : Pattern) (mark : NameMark) (type : Option TypeTree) : Pattern :=
  if mark ≠ .unmarked || type.isSome then .patternTyped p mark (.ofOption type) else p

/-- The mark of a value that may be missing, if it stands here. -/
def readOptionalMark : Reading NameMark := do
  if ← hasTypes then
    if ← eatSign .question then return .optional
  return .unmarked

/-- A pattern with its type. -/
def readTypedPattern (g : Grammar) (mayBeOptional : Bool) : Reading Pattern := do
  let p ← g .pattern
  let mark ← if mayBeOptional then readOptionalMark else pure .unmarked
  return typedPattern p mark (← g.typeAnnotation)

/-- A pattern with its type and its default value. -/
def readPatternItem (g : Grammar) : Reading Pattern := do
  withDefault g (← readTypedPattern g true)

/-- The pattern after `...`. -/
def readRestPattern (g : Grammar) : Reading Pattern := do
  advance
  let p ← g .pattern
  let mark ← readOptionalMark
  let p := typedPattern p mark (← g.typeAnnotation)
  match ← g.initializer? with
  | some e =>
    note .restInitializer
    return .patternDefault p e
  | none => return p

/-- A property in a pattern. -/
def readPatternProperty (g : Grammar) : Reading (Tree .patternProperty) := do
  let k ← kind
  let s ← surroundings
  let key ← readKey g
  match key, k.isBindable && !(← isAtSign .colon) with
  | .keyName name, true =>
    checkName k s
    return .patternPropertyOf key true (← withDefault g (.patternName name))
  | _, _ =>
    expectSign .colon
    return .patternPropertyOf key false (← readPatternItem g)

/-- A pattern without its type. -/
def readPattern (g : Grammar) : Reading Pattern := do
  match ← kind with
  | .sign .leftBrace =>
    advance
    let (items, rest) ← itemsWithRest .rightBrace (readPatternProperty g) (readRestPattern g) .restNotLast
    match rest with
    | none | some (.patternName _) => pure ()
    | some _ => fail .restPattern
    expectSign .rightBrace
    return .patternObject (.ofList items) (.ofOption rest)
  | .sign .leftBracket =>
    advance
    let element : Reading (Tree (.optional .pattern)) := do
      if ← isAtSign .comma then return .none
      return .some (← readPatternItem g)
    let (items, rest) ← itemsWithRest .rightBracket element (readRestPattern g) .restNotLast
    expectSign .rightBracket
    return .patternArray (.ofList items) (.ofOption rest)
  | _ => return .patternName (← readBinding)

end Bundler.Script
