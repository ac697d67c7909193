import Bundler.Script.Grammar.Object

/-!
# Classes

Classes with their parents and members: constructors, methods, getters and setters, fields, index signatures and static
blocks.
-/

namespace Bundler.Script

open Reading

/-! ## Parents -/

/-- A parent of a class or an interface, with the arguments of its type. -/
def readParent (g : Grammar) : Reading (Tree .heritage) := do
  match ← g .leftHandSide with
  | .instantiation base arguments => return .heritageOf base arguments
  | base => return .heritageOf base (.ofList (← if ← hasTypes then readTypeArguments? g else pure []))

/-- A type that a class implements. -/
def readImplemented (g : Grammar) : Reading (Tree .heritage) := do
  let rec asExpression : EntityName → Expression
    | .word name => .identifier name
    | .thisWord => .thisValue
    | .dotted left right => .member (asExpression left) right false
  let name ← readEntity
  return .heritageOf (asExpression name) (.ofList (← readTypeArguments? g))

/-- The parents and the implemented types of a class or an interface. -/
def readHeritage (g : Grammar) : Reading (List (Tree .heritage) × List (Tree .heritage)) := do
  let more (read : Reading (Tree .heritage)) : Reading (List (Tree .heritage)) := do
    let first ← read
    let rest ← many do
      if ← eatSign .comma then return some (← read) else return none
    return first :: rest
  loop ([], []) fun (parents, implemented) => do
    match ← kind with
    | .keyword .extendsWord =>
      if !parents.isEmpty then note .extendsTwice
      else if !implemented.isEmpty then note .extendsAfterImplements
      advance
      return ((← more (readParent g), implemented), true)
    | .keyword .implementsWord =>
      if !implemented.isEmpty then note .implementsTwice
      advance
      return ((parents, implemented ++ (← more (readImplemented g))), true)
    | _ => return ((parents, implemented), false)

/-! ## Members -/

/-- What stands before the name of a member. -/
structure MemberHead where
  pos : Nat
  decorators : List Expression
  modifiers : List Keyword

/-- The name of a member of a class. -/
def readMemberKey (g : Grammar) : Reading (Tree .key) := do
  if ← isAt .privateName then
    let name ← readPrivateName
    if name == "constructor" then note .constructorPrivate
    return .keyPrivate name
  readKey g

/-- The name that a key is, if it is known. -/
def keyText : Tree .key → Option String
  | .keyName name => some name
  | .keyLiteral (.string value) => some value.toText
  | _ => none

/-- Notes a method that cannot be. -/
def checkMethod (head : MemberHead) (kind : MethodKind) (key : Tree .key) (f : Tree .function) : Reading Unit := do
  checkAccessor kind f
  let isStatic := Keyword.staticWord ∈ head.modifiers
  if isStatic && keyText key = some "prototype" then note .staticPrototype
  if !isStatic && keyText key = some "constructor" then
    if kind = .getter || kind = .setter then note .constructorAccessor
    match f with
    | .functionOf _ isAsync isGenerator _ _ _ _ _ _ _ =>
      if isGenerator then note .constructorGenerator
      if isAsync then note .constructorAsync

/-- A method of a class from its parameters on. -/
def readMemberMethod (g : Grammar) (head : MemberHead) (kind : MethodKind) (isGenerator : Bool) (key : Tree .key)
    (optional : Bool) : Reading (Tree .member) := do
  let words := head.modifiers
  let isAsync := Keyword.asyncWord ∈ words
  let f ← readMethod g (if kind = .constructor then .constructor else .method) isAsync isGenerator
  checkMethod head kind key f
  allowModifiers [.publicWord, .privateWord, .protectedWord, .staticWord, .abstractWord, .overrideWord, .asyncWord,
    .readonlyWord, .declareWord] .modifierHere words
  return .memberMethod head.pos (.ofList head.decorators) (accessOf words) (.abstractWord ∈ words)
    (.staticWord ∈ words) (.overrideWord ∈ words) kind key optional f

/-- A field of a class from its type on. -/
def readMemberField (g : Grammar) (head : MemberHead) (isAccessor : Bool) (key : Tree .key)
    (optional definite : Bool) : Reading (Tree .member) := do
  let words := head.modifiers
  let type ← g.typeAnnotation
  let value ← within (fun s => { s with allowsIn := true, inGenerator := false, inAsync := false }) g.initializer?
  endStatement
  if keyText key = some "constructor" then note .constructorField
  if .staticWord ∈ words && keyText key = some "prototype" then note .staticPrototype
  allowModifiers [.publicWord, .privateWord, .protectedWord, .staticWord, .abstractWord, .overrideWord, .declareWord,
    .readonlyWord, .accessorWord] .modifierHere words
  return .memberField head.pos (.ofList head.decorators) (accessOf words) (.declareWord ∈ words)
    (.abstractWord ∈ words) (.staticWord ∈ words) (.overrideWord ∈ words) (.readonlyWord ∈ words) isAccessor optional
    definite key (.ofOption type) (.ofOption value)

/-- Whether the name of a constructor stands here. -/
def isAtConstructor : Reading Bool := do
  let t ← token
  if t.name == "constructor" && (t.kind = .string || t.kind = .keyword .constructorWord) then
    let next ← nextKind
    return next = .sign .leftParen || next = .sign .less
  else return false

/-- A member of a class. -/
def readMember (g : Grammar) : Reading (Tree .member) := do
  let pos ← here
  let decorators ← g.decorators
  let words ← readModifiers true true
  if (← isAtWord .staticWord) && (← nextKind) = .sign .leftBrace then
    decorators.forM fun _ => note .decoratorHere
    words.forM fun word => note (.modifierHere word.text)
    advance
    expectSign .leftBrace
    let statements ← within (fun s => { s with inAsync := true, inGenerator := false, inFunction := false })
      (itemsUntil (.sign .rightBrace) (g (.statement false)))
    expectSign .rightBrace
    return .memberBlock pos (.ofList statements)
  let head : MemberHead := ⟨pos, decorators, words⟩
  if .accessorWord ∈ words then
    let key ← readMemberKey g
    let definite ← eatSign .bang
    return ← readMemberField g head true key false definite
  let accessor (kind : MethodKind) : Reading (Tree .member) := do
    let key ← readMemberKey g
    readMemberMethod g head kind false key false
  if ← eatAccessor .getWord then return ← accessor .getter
  if ← eatAccessor .setWord then return ← accessor .setter
  if .staticWord ∉ words && (← isAtConstructor) then
    let key ← readKey g
    return ← readMemberMethod g head .constructor false key false
  if ← isAtIndexer then
    if ← hasTypes then
      decorators.forM fun _ => note .decoratorHere
      let (name, keyType, type) ← readIndexer g words
      return .memberIndexer pos (.readonlyWord ∈ words) (.staticWord ∈ words) name keyType type
  let k ← kind
  if !(k.isLiteralKey || k = .privateName || k = .sign .star || k = .sign .leftBracket) then
    unexpected
    return .memberBlock pos .nil
  let change (s : Surroundings) : Surroundings :=
    if .declareWord ∈ words then { s with inAmbient := true } else s
  within change do
    let isGenerator ← eatSign .star
    let key ← readMemberKey g
    let optional ← if ← hasTypes then eatSign .question else pure false
    if isGenerator || (← isAtSign .leftParen) || (← isAtSign .less) then
      readMemberMethod g head .method isGenerator key optional
    else
      let definite ← if ← hasTypes then eatSign .bang else pure false
      readMemberField g head false key optional definite

/-- Whether a member is a method without a body. -/
def isOverload : Tree .member → Bool
  | .memberMethod _ _ _ _ _ _ _ _ _ (.functionOf _ _ _ _ _ _ _ .none _ _) => true
  | _ => false

/-- The members of a class in braces. -/
def readMembers (g : Grammar) : Reading (List (Tree .member)) := do
  expectSign .leftBrace
  let members ← many do
    if (← isAtSign .rightBrace) || (← isOver) then return none
    if ← eatSign .semicolon then
      let _ ← many do
        if ← eatSign .semicolon then return some () else return none
      if (← isAtSign .rightBrace) then return none
    let member ← readMember g
    match member with
    | .memberMethod _ decorators _ _ _ _ _ _ _ _ =>
      if isOverload member then decorators.toList.forM fun _ => note .decoratorOnOverload
    | _ => pure ()
    return some member
  expectSign .rightBrace
  return members

/-! ## Classes -/

/-- A class from its keyword on. -/
def readClass (g : Grammar) (decorators : List Expression) (modifiers : List Keyword) :
    Reading (Tree .classDefinition) := do
  advance
  let name ← if (← kind).isBindable && !(← isAtWord .implementsWord) then pure (some (← readBinding)) else pure none
  let typeParameters ← readTypeParameters g
  let (parents, implemented) ← readHeritage g
  if parents.length > 1 then note .extendsMany
  let (parent, arguments) := match parents with
    | .heritageOf base arguments :: _ => (Tree.some base, arguments)
    | [] => (.none, .nil)
  let members ← readMembers g
  allowModifiers [.declareWord, .abstractWord] .modifierHere modifiers
  return .classOf (.ofList decorators) name (.abstractWord ∈ modifiers) (.declareWord ∈ modifiers)
    (.ofList typeParameters) parent arguments (.ofList implemented) (.ofList members)

end Bundler.Script
