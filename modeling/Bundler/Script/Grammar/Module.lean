import Bundler.Script.Grammar.Declaration

/-!
# Imports and exports

What a module takes from other modules, and what it offers to them.
-/

namespace Bundler.Script

open Reading

/-! ## Names -/

/-- A name in an import or export list. -/
def readModuleName : Reading ModuleName := do
  if ← isAt .string then
    let value ← readString
    if value.codes.any StringValue.isSurrogate then note .surrogateName
    return .quoted value
  return .word (← readAnyName)

/-- A name in a list with another one after `as`, and whether only its type is meant. -/
structure ListedName where
  isType : Bool
  name : ModuleName
  renamed : Option ModuleName

/-- Whether a name of a list can stand here. -/
def isAtModuleName : Reading Bool := do
  let k ← kind
  return k = .string || k.isAnyName

/-- The name after `as`, if there is one. -/
def readRenamed? (rename : Reading ModuleName) : Reading (Option ModuleName) := do
  if ← eatWord .asWord then return some (← rename) else return none

/-- A name of a list whose first word is `type` and has been read. -/
def readAfterType (rename : Reading ModuleName) : Reading ListedName := do
  if ← isAtWord .asWord then
    let first : ModuleName := .word (← readAnyName)
    if ← isAtWord .asWord then
      let second : ModuleName := .word (← readAnyName)
      if ← isAtModuleName then return ⟨true, first, some (← rename)⟩
      return ⟨false, .word "type", some second⟩
    if ← isAtModuleName then return ⟨false, .word "type", some (← rename)⟩
    return ⟨true, first, none⟩
  if ← isAtModuleName then
    let name ← readModuleName
    return ⟨true, name, ← readRenamed? rename⟩
  return ⟨false, .word "type", none⟩

/-- A name of a list; `rename` reads the name after `as`. -/
def readListedName (rename : Reading ModuleName) : Reading ListedName := do
  let name ← readModuleName
  if (← hasTypes) && name = .word "type" then return ← readAfterType rename
  return ⟨false, name, ← readRenamed? rename⟩

/-! ## Attributes -/

/-- A property of an imported module. -/
def readImportAttribute : Reading (Tree .importAttribute) := do
  let key ← if ← isAt .string then pure (Tree.keyLiteral (.string (← readString))) else pure (.keyName (← readAnyName))
  expectSign .colon
  return .attributeOf key (← readString)

/-- The names that have occurred before. -/
def repeated (earlier : List String) : List String → List String
  | [] => []
  | name :: rest => if name ∈ earlier then name :: repeated earlier rest else repeated (name :: earlier) rest

/-- The properties that an imported module has to have. -/
def readImportAttributes? : Reading (Option (Tree .importAttributes)) := do
  let k ← kind
  let isAssert := k = .keyword .assertWord && !(← onNewLine)
  if k ≠ .keyword .withWord && !isAssert then return none
  advance
  expectSign .leftBrace
  let attributes ← commaList .rightBrace readImportAttribute
  expectSign .rightBrace
  let keys := attributes.map fun
    | .attributeOf key _ => (keyText key).getD ""
  (repeated [] keys).forM fun key => note (.duplicateAttribute key)
  return some (.attributesOf isAssert (.ofList attributes))

/-! ## Imports -/

/-- A name in an import list. -/
def readImportName : Reading (Tree .importName) := do
  let k ← kind
  let listed ← readListedName (return .word (← readBinding))
  match listed.renamed, listed.name with
  | some renamed, name => return .importNamed name renamed.text listed.isType
  | none, .quoted value =>
    fail .identifierExpected
    return .importNamed (.quoted value) value.toText listed.isType
  | none, .word name =>
    -- A word after `type` is the name that gets bound.
    let bound := if listed.isType then (Keyword.ofText? name).map TokenKind.keyword else some k
    match bound with
    | some (.keyword word) => if word.isReserved then fail (.reservedWord word.text)
    | _ => pure ()
    return .importNamed (.word name) name listed.isType

/-- The names in braces of an import. -/
def readImportNames : Reading (List (Tree .importName)) := do
  expectSign .leftBrace
  let names ← commaList .rightBrace readImportName
  expectSign .rightBrace
  return names

/-- The name for all that a module offers. -/
def readImportAll : Reading (Tree .importName) := do
  advance
  expectWord .asWord
  return .importAll (← readBinding)

/-- What is imported besides a default name. -/
def readImportRest : Reading (List (Tree .importName)) := do
  match ← kind with
  | .sign .star => return [← readImportAll]
  | .sign .leftBrace => readImportNames
  | _ => return []

/-- What is imported, up to the word before the specifier. -/
def readImported (first : Option String) (isType : Bool) : Reading (List (Tree .importName)) := do
  let names ← match first with
    | none => readImportRest
    | some name => do
      let start : Tree .importName := .importDefault name
      if ← eatSign .comma then
        if !(← isAtSign .star) && !(← isAtSign .leftBrace) then unexpected
        let rest ← readImportRest
        if isType then note .typeOnlyImportBoth
        pure (start :: rest)
      else pure [start]
  expectWord .fromWord
  return names

/-- The phase that the word before a name states. -/
def readPhase? (name : String) : Reading (Option ImportPhase) := do
  let k ← kind
  if name == "defer" && k = .sign .star then return some .deferred
  if name == "source" && k.isBindable then
    if k ≠ .keyword .fromWord || (← nextKind) = .keyword .fromWord then return some .source
  return none

/-- A name, if one can be bound here. -/
def readBinding? : Reading (Option String) := do
  if (← kind).isBindable then return some (← readBinding) else return none

/-- An import from after its keyword. -/
def readImportStatement (pos : Nat) : Reading Statement := do
  let first ← readBinding?
  let isType ← isTypeWord (first.getD "")
  let first ← if isType then readBinding? else pure first
  if let some name := first then
    if (← hasTypes) && (← isAtSign .equal) then return ← readImportEquals pos isType name
  let phase ← if isType then pure none else readPhase? (first.getD "")
  let first ← if phase.isSome then readBinding? else pure first
  let names ← if first.isNone && (← isAt .string) then pure none
    else pure (some (Tree.ofList (← readImported first isType)))
  let specifier ← readString
  let attributes ← readImportAttributes?
  endStatement
  return .importFrom pos isType phase (.ofOption names) specifier (.ofOption attributes)

/-! ## Exports -/

/-- A name in an export list. -/
def readExportName : Reading (Tree .exportName) := do
  let listed ← readListedName readModuleName
  return .exportNamed listed.name (listed.renamed.getD listed.name) listed.isType

/-- Whether a word cannot be the name of something that this module offers. -/
def isReservedExport (name : String) : Bool :=
  match Keyword.ofText? name with
  | some word => word.isReserved || word ∈ [Keyword.implementsWord, .interfaceWord, .packageWord, .privateWord,
      .protectedWord, .publicWord, .staticWord]
  | none => false

/-- Notes a name that cannot be exported, unless another module offers it. -/
def checkExportName : Tree .exportName → Reading Unit
  | .exportNamed (.quoted _) _ _ => note .quotedExport
  | .exportNamed (.word name) _ _ => if isReservedExport name then note .reservedExport else return

/-- Names that are exported, from the brace on. -/
def readExportList (pos : Nat) (isType : Bool) : Reading Statement := do
  expectSign .leftBrace
  let names ← commaList .rightBrace readExportName
  expectSign .rightBrace
  if ← eatWord .fromWord then
    let specifier ← readString
    let attributes ← readImportAttributes?
    endStatement
    return .exportFrom pos isType (.ofList names) specifier (.ofOption attributes)
  names.forM checkExportName
  endStatement
  return .exportList pos isType (.ofList names)

/-- All that another module offers, from the star on. -/
def readExportAll (pos : Nat) (isType : Bool) : Reading Statement := do
  advance
  let exported ← readRenamed? readModuleName
  expectWord .fromWord
  let specifier ← readString
  let attributes ← readImportAttributes?
  endStatement
  return .exportAll pos isType exported specifier (.ofOption attributes)

/-- Whether a word is followed on its line by a name. -/
def isBeforeName : Reading Bool := do
  let next ← nextToken
  return next.kind.isBindable && !next.onNewLine

/-- What is exported as default. -/
def readDefault (g : Grammar) (decorators : List Expression) : Reading (Tree .defaultExport) := do
  let pos ← here
  let decorators := decorators ++ (← g.decorators)
  let k ← kind
  if k = .keyword .classWord then return .defaultClass pos (← readClass g decorators [])
  if k = .keyword .abstractWord then
    let next ← nextToken
    if next.kind = .keyword .classWord && !next.onNewLine then
      let modifiers ← readModifiers false false
      return .defaultClass pos (← readClass g decorators modifiers)
  decorators.forM fun _ => note .decoratorHere
  if ← isAtFunction then
    let isAsync ← eatWord .asyncWord
    return .defaultFunction pos (← readFunction g .defaultExport isAsync [])
  if k = .keyword .interfaceWord then
    if ← isBeforeName then return .defaultInterface (← readInterface g pos [])
  let e ← g.value
  endStatement
  return .defaultValue e

/-- A declaration that is exported, with decorators before it. -/
def readExportedDeclaration (g : Grammar) (pos : Nat) (decorators : List Expression) : Reading Statement := do
  return .exportDeclaration pos (← readModifiedDeclaration g (← here) decorators)

/-- An export from its keyword on. -/
def readExport (g : Grammar) (pos : Nat) (decorators : List Expression) : Reading Statement := do
  advance
  let types ← hasTypes
  match ← kind, types with
  | .keyword .importWord, _ =>
    let inner ← here
    advance
    match ← readImportStatement inner with
    | .importEquals p isType name source => return .exportDeclaration pos (.importEquals p isType name source)
    | s =>
      fail .unexpectedExport
      return s
  | .sign .equal, true =>
    advance
    let e ← g .expression
    endStatement
    return .exportAssign pos e
  | .keyword .asWord, true =>
    if (← nextKind) = .keyword .namespaceWord then
      advance
      advance
      let name ← readAnyName
      endStatement
      return .exportNamespace pos name
    readExportedDeclaration g pos decorators
  | .keyword .defaultWord, _ =>
    advance
    return .exportDefault pos (← readDefault g decorators)
  | .sign .star, _ => readExportAll pos false
  | .sign .leftBrace, _ => readExportList pos false
  | .keyword .typeWord, true =>
    match ← nextKind with
    | .sign .leftBrace =>
      advance
      readExportList pos true
    | .sign .star =>
      advance
      readExportAll pos true
    | _ => readExportedDeclaration g pos decorators
  | .sign .atSign, _ =>
    let inner ← here
    let decorators := decorators ++ (← g.decorators)
    let modifiers ← readModifiers false false
    return .exportDeclaration pos (.classDeclaration inner (← readClass g decorators modifiers))
  | _, _ => readExportedDeclaration g pos decorators

end Bundler.Script
