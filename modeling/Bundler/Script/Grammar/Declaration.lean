import Bundler.Script.Grammar.Expression

/-!
# Declarations

Variables, functions and classes, and in the typed dialect interfaces, names of types, enumerations, namespaces and
other names of imported modules.
-/

namespace Bundler.Script

open Reading

-- A declaration is read alike where all statements can stand and where only declarations can.
variable {among : Selection}

/-! ## Variables -/

/-- Notes a variable that needs a value and has none. -/
def checkInitializer (kind : DeclarationKind) (pattern : Pattern) (init : Option Expression) : Reading Unit := do
  if init.isSome || (← surroundings).inAmbient then return
  let rec isName {c : Category} : Tree c → Bool
    | .patternName _ => true
    | .patternTyped inner _ _ => isName inner
    | _ => false
  if !isName pattern then note (.missingInitializer false)
  else if kind = .constKind then note (.missingInitializer true)

/-- A variable with its type and its value; in the head of a loop it may lack the value. -/
def readDeclarator (g : Grammar) (kind : DeclarationKind) (inLoop : Bool) : Reading (Tree .declarator) := do
  let pattern ← g .pattern
  let definite ← if (← hasTypes) && !inLoop && (← isAtSign .bang) && !(← onNewLine) then eatSign .bang else pure false
  if (← hasTypes) && (← isAtSign .question) then unexpected
  let mark : NameMark := if definite then .definite else .unmarked
  let pattern := typedPattern pattern mark (← g.typeAnnotation)
  let init ← g.initializer?
  if !inLoop then checkInitializer kind pattern init
  return .declaratorOf pattern (.ofOption init)

/-- Variables with commas between them. -/
def readDeclarators (g : Grammar) (kind : DeclarationKind) (inLoop : Bool) : Reading (List (Tree .declarator)) := do
  let first ← readDeclarator g kind inLoop
  let rest ← many do
    if ← eatSign .comma then return some (← readDeclarator g kind inLoop) else return none
  return first :: rest

/-- A statement that declares variables, from after its keyword. -/
def readVariables (g : Grammar) (pos : Nat) (kind : DeclarationKind) (isDeclare : Bool) :
    Reading (Tree (.statement among)) := do
  let declarators ← readDeclarators g kind false
  endStatement
  return .variables pos isDeclare kind (.ofList declarators)

/-- The kind of variables that a keyword declares. -/
def TokenKind.declarationKind? : TokenKind → Option DeclarationKind
  | .keyword .varWord => some .varKind
  | .keyword .letWord => some .letKind
  | .keyword .constWord => some .constKind
  | _ => none

/-! ## Enumerations, interfaces and names of types -/

/-- A member of an enumeration. -/
def readEnumMember (g : Grammar) : Reading (Tree .enumMember) := do
  let pos ← here
  let key ← match ← kind with
    | .sign .leftBracket => do
      let e ← readComputedKey g
      match e with
      | .string _ | .template _ .nil => pure ()
      | .number _ => note .enumNumericName
      | _ => fail .enumComputedName
      pure (Tree.keyComputed e)
    | .number _ | .bigint => do
      note .enumNumericName
      pure (.keyLiteral (← readLiteral))
    | .string => pure (.keyLiteral (← readLiteral))
    | _ => pure (.keyName (← readAnyName))
  return .enumMemberOf pos key (.ofOption (← g.initializer?))

/-- An enumeration from its keyword on. -/
def readEnum (g : Grammar) (pos : Nat) (modifiers : List Keyword) : Reading (Tree (.statement among)) := do
  advance
  let name ← readBinding
  expectSign .leftBrace
  let members ← commaList .rightBrace (readEnumMember g)
  expectSign .rightBrace
  allowModifiers [.declareWord, .constWord] .modifierHere modifiers
  return .enumDeclaration pos (.constWord ∈ modifiers) (.declareWord ∈ modifiers) name (.ofList members)

/-- An interface from its keyword on. -/
def readInterface (g : Grammar) (pos : Nat) (modifiers : List Keyword) : Reading (Tree (.statement among)) := do
  advance
  let name ← readBinding
  let typeParameters ← readTypeParameters g
  let (parents, implemented) ← readHeritage g
  if !implemented.isEmpty then note .interfaceImplements
  let members ← readTypeMembers g
  allowModifiers [.declareWord] .modifierHere modifiers
  return .interfaceDeclaration pos (.declareWord ∈ modifiers) name (.ofList typeParameters) (.ofList parents)
    (.ofList members)

/-- A name for a type, from its keyword on. -/
def readTypeAlias (g : Grammar) (pos : Nat) (modifiers : List Keyword) : Reading (Tree (.statement among)) := do
  advance
  let name ← readBinding
  let typeParameters ← readTypeParameters g
  expectSign .equal
  let type ← if (← isAtWord .intrinsicWord) && (← nextKind) ≠ .sign .dot then do
      advance
      pure (.typeKeyword "intrinsic")
    else g .type
  endStatement
  allowModifiers [.declareWord] .modifierHere modifiers
  return .typeAlias pos (.declareWord ∈ modifiers) name (.ofList typeParameters) type

/-! ## Namespaces -/

/-- The body of a namespace in braces. -/
def readNamespaceBlock (g : Grammar) : Reading (Tree .body) := do
  expectSign .leftBrace
  let (directives, statements) ← readBody g (.sign .rightBrace)
  expectSign .rightBrace
  return .bodyOf directives (.ofList statements)

/-- The name and the body of a namespace. -/
def readNamespaceRest (g : Grammar) : Reading (ModuleName × Tree .namespaceBody) := do
  let name : ModuleName ← if ← isAt .string then pure (.quoted (← readString)) else pure (.word (← readBinding))
  if ← eatSign .dot then
    let (inner, body) ← g .namespaceRest
    return (name, .namespaceNested inner.text body)
  if ← isAtSign .leftBrace then
    let body ← readNamespaceBlock g
    endStatement
    return (name, .namespaceBlock body)
  endStatement
  return (name, .namespaceNothing)

/-- A namespace from its keyword on. -/
def readNamespace (g : Grammar) (pos : Nat) (modifiers : List Keyword) : Reading (Tree (.statement among)) := do
  let isModule ← isAtWord .moduleWord
  advance
  let (name, body) ← g .namespaceRest
  allowModifiers [.declareWord] .modifierHere modifiers
  return .namespaceDeclaration pos (.declareWord ∈ modifiers) isModule name body

/-- Another name for a module or a part of a namespace, from the equals sign on. -/
def readImportEquals (pos : Nat) (isType : Bool) (name : String) : Reading (Tree (.statement among)) := do
  expectSign .equal
  let source ← if (← isAtWord .requireWord) && (← nextKind) = .sign .leftParen then do
      advance
      expectSign .leftParen
      let specifier ← readString
      expectSign .rightParen
      pure (Tree.sourceModule specifier)
    else pure (.sourceEntity (← readEntity))
  endStatement
  return .importEquals pos isType name source

/-! ## Declarations after their modifiers -/

/-- Whether the word before a name states that only types are imported or exported. -/
def isTypeWord (name : String) : Reading Bool := do
  if name != "type" || !(← hasTypes) then return false
  let k ← kind
  if k = .sign .leftBrace || k = .sign .star then return true
  if !k.isBindable then return false
  if k ≠ .keyword .fromWord then return true
  let next ← nextKind
  return next = .keyword .fromWord || next = .sign .equal

/-- A declaration after its modifiers. -/
def readDeclaration (g : Grammar) (pos : Nat) (modifiers : List Keyword) (decorators : List Expression) :
    Reading (Tree (.statement among)) := do
  let k ← kind
  let types ← hasTypes
  if k ≠ .keyword .classWord then decorators.forM fun _ => note .decoratorHere
  match k, types with
  | .keyword .constWord, true =>
    advance
    if ← isAtWord .enumWord then readEnum g pos (modifiers ++ [.constWord])
    else
      allowModifiers [.declareWord] .modifierHere modifiers
      readVariables g pos .constKind (.declareWord ∈ modifiers)
  | .keyword .classWord, _ => return .classDeclaration pos (← readClass g decorators modifiers)
  | .keyword .importWord, true =>
    advance
    let first ← readBinding
    let isType ← isTypeWord first
    let name ← if isType then readBinding else pure first
    readImportEquals pos isType name
  | .keyword .enumWord, true => readEnum g pos modifiers
  | .keyword .interfaceWord, true => readInterface g pos modifiers
  | .keyword .typeWord, true => readTypeAlias g pos modifiers
  | .keyword .namespaceWord, true | .keyword .moduleWord, true => readNamespace g pos modifiers
  | .keyword .globalWord, true =>
    advance
    let body ← readNamespaceBlock g
    allowModifiers [.declareWord] .modifierHere modifiers
    return .globalDeclaration pos (.declareWord ∈ modifiers) body
  | _, _ =>
    match k.declarationKind? with
    | some kind =>
      advance
      allowModifiers [.declareWord] .modifierHere modifiers
      readVariables g pos kind (.declareWord ∈ modifiers)
    | none =>
      if ← isAtFunction then
        let isAsync ← eatWord .asyncWord
        let place : FunctionPlace := if .declareWord ∈ modifiers then .described else .declaration
        return .functionDeclaration pos (← readFunction g place (isAsync || .asyncWord ∈ modifiers) modifiers)
      unexpected
      return .variables pos false .varKind .nil

/-- Modifiers before a declaration of the typed dialect. -/
def readDeclarationModifiers : Reading (List Keyword) := do
  if ← hasTypes then readModifiers false false else return []

/-- A declaration with its modifiers. -/
def readModifiedDeclaration (g : Grammar) (pos : Nat) (decorators : List Expression) :
    Reading (Tree (.statement among)) := do
  let modifiers ← readDeclarationModifiers
  let isDeclare := Keyword.declareWord ∈ modifiers
  within (fun s => { s with inAmbient := s.inAmbient || isDeclare }) (readDeclaration g pos modifiers decorators)

/-- Whether what stands after some modifiers declares something. -/
def isAtDeclarationAfter : Reading Bool := do
  let found ← loop (none : Option Bool) fun _ => do
    match ← kind with
    | .keyword .varWord | .keyword .letWord | .keyword .constWord | .keyword .functionWord | .keyword .classWord
    | .keyword .enumWord => return (some true, false)
    | .keyword .interfaceWord | .keyword .typeWord =>
      advance
      return (some ((← kind).isBindable && !(← onNewLine)), false)
    | .keyword .moduleWord | .keyword .namespaceWord =>
      advance
      return (some (((← kind).isBindable || (← isAt .string)) && !(← onNewLine)), false)
    | .keyword .globalWord =>
      advance
      return (some ((← kind) ∈ [TokenKind.identifier, .sign .leftBrace, .keyword .exportWord]), false)
    | .keyword .importWord =>
      advance
      let k ← kind
      return (some (k = .string || k = .sign .star || k = .sign .leftBrace || k.isName), false)
    | .keyword .exportWord =>
      advance
      return (some ((← kind) ∈ [TokenKind.sign .equal, .sign .star, .keyword .defaultWord, .sign .leftBrace,
        .sign .atSign, .keyword .asWord]), false)
    | .keyword .staticWord =>
      advance
      return (none, true)
    | .keyword word =>
      if word ∈ [.abstractWord, .accessorWord, .asyncWord, .declareWord, .privateWord, .protectedWord, .publicWord,
          .readonlyWord] then
        advance
        if ← onNewLine then return (some false, false)
        return (none, true)
      return (some false, false)
    | _ => return (some false, false)
  return found = some true

/-- Whether a declaration of the typed dialect begins here. -/
def isAtDeclaration : Reading Bool := do
  if ← hasTypes then lookahead isAtDeclarationAfter else return false

end Bundler.Script
