import Bundler.Script.Grammar.Name

/-!
# Modifiers

Words such as `static` or `readonly` before a declaration or a part of a class. Such a word is a modifier only if what
follows it can be modified; else it is a name.
-/

namespace Bundler.Script

open Reading Keyword

/-- Whether a word can be a modifier. -/
def Keyword.isModifier (k : Keyword) : Bool :=
  k ∈ [abstractWord, accessorWord, asyncWord, constWord, declareWord, defaultWord, exportWord, inWord, outWord,
    publicWord, privateWord, protectedWord, overrideWord, readonlyWord, staticWord]

def Keyword.isAccess (k : Keyword) : Bool :=
  k ∈ [publicWord, privateWord, protectedWord]

/-- The current token, if it is a word that can be a modifier. -/
def modifier? : Reading (Option Keyword) := do
  match ← kind with
  | .keyword word => return if word.isModifier then some word else none
  | _ => return none

/-- Whether the current token can be modified. -/
def canBeModified : Reading Bool := do
  let k ← kind
  return k.isLiteralKey || k = .privateName || k = .sign .leftBracket || k = .sign .leftBrace ||
    k = .sign .star || k = .sign .ellipsis

/-- Whether the current token can be the name of a getter or setter. -/
def canBeAccessor : Reading Bool := do
  let k ← kind
  return k.isLiteralKey || k = .privateName || k = .sign .leftBracket

/-- Steps over a word and says whether what follows it on the same line can be modified. -/
def stepToModified (sameLine : Bool) : Reading Bool := do
  advance
  if sameLine && (← onNewLine) then return false
  canBeModified

/-- Steps over a word that can be a modifier and says whether it is one. -/
def stepOverModifier : Reading Bool := do
  match ← kind with
  | .keyword .constWord =>
    advance
    isAtWord .enumWord
  | .keyword .staticWord => stepToModified false
  | .keyword .getWord | .keyword .setWord =>
    advance
    canBeAccessor
  | _ => stepToModified true

/-- Steps over a word if it is a modifier. -/
def eatModifier (isModifier : Reading Bool) : Reading Bool := do
  let result ← attempt do
    if !(← isModifier) then unexpected
  return result.isSome

/-- Steps over `get` or `set` if it opens an accessor. -/
def eatAccessor (word : Keyword) : Reading Bool := do
  if ← isAtWord word then eatModifier stepOverModifier else return false

/-! ## Lists of modifiers -/

/-- Notes a modifier that does not go together with those before it. -/
def checkModifier (earlier : List Keyword) (word : Keyword) : Reading Unit := do
  let before (words : List Keyword) : Reading Unit :=
    match words.find? (· ∈ earlier) with
    | some other => note (.modifierOrder word.text other.text)
    | none => return
  if word.isAccess then
    if earlier.any Keyword.isAccess then note .accessibilitySeen
    else before [overrideWord, staticWord, accessorWord, readonlyWord, asyncWord]
  else if word ∈ earlier then note (.modifierSeen word.text)
  else match word with
    | .staticWord => before [readonlyWord, asyncWord, accessorWord, overrideWord]
    | .overrideWord => before [readonlyWord, accessorWord, asyncWord]
    | .abstractWord => before [overrideWord, accessorWord]
    | .exportWord => before [declareWord, abstractWord, asyncWord]
    | _ => return

/-- Reads modifiers; `staticBlock` says that `static` before a brace is not one. -/
def readModifiers (constAllowed staticBlock : Bool) : Reading (List Keyword) := do
  loop [] fun words => do
    match ← modifier? with
    | none => return (words, false)
    | some word =>
      let isHere ← if word = .constWord then
          if constAllowed then eatModifier (stepToModified true) else return (words, false)
        else if word = .staticWord && staticWord ∈ words then return (words, false)
        else if word = .staticWord && staticBlock && (← nextKind) = .sign .leftBrace then return (words, false)
        else eatModifier stepOverModifier
      if !isHere then return (words, false)
      checkModifier words word
      return (words ++ [word], true)

/-- Notes the modifiers that are not among some allowed ones. -/
def allowModifiers (allowed : List Keyword) (fault : String → Fault) (words : List Keyword) : Reading Unit :=
  words.forM fun word => do
    if word ∉ allowed then note (fault word.text)

/-- From where a part of a class with some modifiers may be used. -/
def accessOf (words : List Keyword) : Option Accessibility :=
  words.findSome? fun
    | .publicWord => some .everywhere
    | .privateWord => some .ownClass
    | .protectedWord => some .subclasses
    | _ => none

end Bundler.Script
