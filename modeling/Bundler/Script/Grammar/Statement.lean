import Bundler.Script.Grammar.Module

/-!
# Statements

Blocks, choices, loops, jumps and the statements that declare something.
-/

namespace Bundler.Script

open Reading

/-! ## Parts -/

/-- Statements in braces. -/
def readBlock (g : Grammar) : Reading (Tree (.many (.statement .all))) := do
  expectSign .leftBrace
  let statements ← itemsUntil (.sign .rightBrace) (g (.statement false))
  expectSign .rightBrace
  return .ofList statements

/-- An expression in which `in` is an operator. -/
def readWhole (g : Grammar) : Reading Expression :=
  within ({ · with allowsIn := true }) (g .expression)

/-- The condition or subject of a statement in parentheses. -/
def readSubject (g : Grammar) : Reading Expression := do
  expectSign .leftParen
  let e ← readWhole g
  expectSign .rightParen
  return e

/-- A statement that is an expression. -/
def readEvaluation (pos : Nat) (e : Expression) : Reading Statement := do
  endStatement
  return .evaluation pos e

/-- A statement that is an expression or a labelled statement. -/
def readExpressionStatement (g : Grammar) : Reading Statement := do
  let pos ← here
  let e ← g .expression
  match e, ← isAtSign .colon with
  | .identifier name, true =>
    advance
    return .labeled pos name (← g (.statement true))
  | _, _ => readEvaluation pos e

/-! ## Marks in comments -/

/-- Marks the function that the first of some variables is. -/
def markVariables (declarators : Tree (.many .declarator)) : Tree (.many .declarator) :=
  match declarators with
  | .cons (.declaratorOf pattern (.some e)) rest => .cons (.declaratorOf pattern (.some (markFunction e))) rest
  | _ => declarators

/-- Marks a declared function as one whose calls have no effects. -/
def markDeclared (f : Tree .function) : Tree .function :=
  match f with
  | .functionOf name isAsync isGenerator isDeclare typeParameters parameters result body _ p =>
    .functionOf name isAsync isGenerator isDeclare typeParameters parameters result body true p

/-- Marks the function that a statement declares. -/
def markStatement (s : Statement) : Statement :=
  match s with
  | .functionDeclaration pos f => .functionDeclaration pos (markDeclared f)
  | .variables pos isDeclare .constKind declarators => .variables pos isDeclare .constKind (markVariables declarators)
  | .exportDeclaration pos (.functionDeclaration inner f) =>
    .exportDeclaration pos (.functionDeclaration inner (markDeclared f))
  | .exportDeclaration pos (.variables inner isDeclare .constKind declarators) =>
    .exportDeclaration pos (.variables inner isDeclare .constKind (markVariables declarators))
  | .exportDefault pos (.defaultFunction inner f) => .exportDefault pos (.defaultFunction inner (markDeclared f))
  | .exportDefault pos (.defaultValue e) => .exportDefault pos (.defaultValue (markFunction e))
  | s => s

/-! ## Variables -/

def DeclarationKind.isLexical : DeclarationKind → Bool
  | .varKind => false
  | _ => true

/-- A statement that declares variables, from after its keyword; `alone` as for statements. -/
def readVariableStatement (g : Grammar) (pos : Nat) (kind : DeclarationKind) (alone : Bool) : Reading Statement := do
  let s ← readVariables g pos kind false
  if alone && kind.isLexical then note .lexicalInStatement
  return s

/-- A statement that begins with `let`. -/
def readLet (g : Grammar) (pos : Nat) (alone : Bool) : Reading Statement := do
  let next ← nextKind
  if next.assignOperator?.isSome || next.binaryOperator?.isSome then readEvaluation pos (← g.value)
  else if next = .sign .dot || next = .sign .leftParen then return .evaluation pos (← g .expression)
  else if (alone && next ≠ .sign .leftBracket) || next = .sign .semicolon then
    readEvaluation pos (.identifier (← readReference))
  else
    advance
    readVariableStatement g pos .letKind alone

/-- Whether a word is followed on its line by a name that can be bound. -/
def isAtUsing : Reading Bool := do
  if ← isAtWord .usingWord then isBeforeName
  else if !(← isAtWord .awaitWord) then return false
  else lookahead do
    advance
    if (← isAtWord .usingWord) && !(← onNewLine) then isBeforeName else return false

/-- Variables that are disposed of at the end of their block, from the keyword on. -/
def readUsing (g : Grammar) (inLoop : Bool) : Reading (DeclarationKind × List (Tree .declarator)) := do
  let isAwait ← eatWord .awaitWord
  expectWord .usingWord
  let kind : DeclarationKind := if isAwait then .awaitUsingKind else .usingKind
  let declarators ← readDeclarators g kind inLoop
  declarators.forM fun
    | .declaratorOf pattern init => do
      match pattern with
      | .patternName _ | .patternTyped (.patternName _) _ _ => pure ()
      | _ => note .usingPattern
      if !inLoop && !init.isPresent then note .missingUsingInitializer
  return (kind, declarators)

/-! ## Loops -/

/-- What the head of a loop begins with. -/
inductive LoopHead where
  | variables (kind : DeclarationKind) (declarators : List (Tree .declarator))
  | value (e : Expression)

def LoopHead.start : LoopHead → Tree .forStart
  | .variables kind declarators => .forVariables kind (.ofList declarators)
  | .value e => .forValue e

/-- What a loop assigns the items to. -/
def readLoopTarget : LoopHead → Reading (Tree .forTarget)
  | .variables kind declarators => return .forEachVariable kind (.ofList declarators)
  | .value e => return .forEachTarget (← readTarget e)

/-- A loop with a condition, from the first semicolon on. -/
def readForRest (g : Grammar) (pos : Nat) (isAwait : Bool) (start : Tree .forStart) : Reading Statement := do
  expectSign .semicolon
  match start with
  | .forVariables kind declarators =>
    declarators.toList.forM fun
      | .declaratorOf pattern init => checkInitializer kind pattern init.toOption
  | _ => pure ()
  let test ← if (← isAtSign .semicolon) || (← isAtSign .rightParen) then pure Tree.none
    else pure (.some (← readWhole g))
  expectSign .semicolon
  let update ← if ← isAtSign .rightParen then pure Tree.none else pure (.some (← readWhole g))
  expectSign .rightParen
  if isAwait then note .forAwaitLoop
  return .forLoop pos start test update (← g (.statement true))

/-- A loop from after what its head begins with. -/
def readLoopRest (g : Grammar) (pos : Nat) (isAwait : Bool) (head : LoopHead) : Reading Statement := do
  match ← kind with
  | .keyword .inWord =>
    let left ← readLoopTarget head
    advance
    let right ← readWhole g
    expectSign .rightParen
    if isAwait then note .forAwaitLoop
    return .forIn pos left right (← g (.statement true))
  | .keyword .ofWord =>
    let left ← readLoopTarget head
    advance
    let right ← within ({ · with allowsIn := true }) g.value
    expectSign .rightParen
    return .forOf pos isAwait left right (← g (.statement true))
  | _ => readForRest g pos isAwait head.start

/-- Whether `let` declares variables at the beginning of a loop. -/
def isAtLoopLet : Reading Bool := do
  let next ← nextKind
  return next ≠ .keyword .inWord && (next = .sign .leftBrace || next = .sign .leftBracket || next.isAnyName)

/-- A loop from its keyword on. -/
def readFor (g : Grammar) : Reading Statement := do
  let pos ← here
  advance
  let isAwait ← eatWord .awaitWord
  expectSign .leftParen
  let k ← kind
  if k = .sign .semicolon then return ← readForRest g pos isAwait .forNothing
  let withoutIn {α : Type} (reading : Reading α) : Reading α := within ({ · with allowsIn := false }) reading
  let declares ← if k = .keyword .letWord then isAtLoopLet else pure true
  match k.declarationKind?, declares with
  | some kind, true =>
    advance
    readLoopRest g pos isAwait (.variables kind (← withoutIn (readDeclarators g kind true)))
  | _, _ =>
    if ← isAtUsing then
      let (kind, declarators) ← withoutIn (readUsing g true)
      if ← isAtWord .inWord then note (.usingInForIn (kind = .awaitUsingKind))
      return ← readLoopRest g pos isAwait (.variables kind declarators)
    let isAsyncOf := k = .keyword .asyncWord && (← nextKind) = .keyword .ofWord
    let e ← withoutIn (g .expression)
    if (← isAtWord .ofWord) && isAsyncOf && !isAwait then note .forOfAsync
    readLoopRest g pos isAwait (.value e)

/-- A loop whose condition is tested first. -/
def readWhile (g : Grammar) : Reading Statement := do
  let pos ← here
  advance
  let test ← readSubject g
  return .whileLoop pos test (← g (.statement true))

/-- A loop whose body runs first. -/
def readDo (g : Grammar) : Reading Statement := do
  let pos ← here
  advance
  let body ← g (.statement true)
  expectWord .whileWord
  let test ← readSubject g
  let _ ← eatSign .semicolon
  return .doLoop pos body test

/-! ## Choices -/

/-- A statement that depends on a condition. -/
def readIf (g : Grammar) : Reading Statement := do
  let pos ← here
  advance
  let test ← readSubject g
  let yes ← g (.statement true)
  let no ← if ← eatWord .elseWord then pure (Tree.some (← g (.statement true))) else pure .none
  return .choice pos test yes no

/-- A case of a switch with its statements. -/
def readCase (g : Grammar) : Reading (Tree .switchCase) := do
  let test ← if ← eatWord .defaultWord then pure Tree.none else do
    expectWord .caseWord
    pure (Tree.some (← g .expression))
  expectSign .colon
  let statements ← many do
    if (← isAtWord .caseWord) || (← isAtWord .defaultWord) then return none
    if (← isAtSign .rightBrace) || (← isOver) then return none
    return some (← g (.statement false))
  return .caseOf test (.ofList statements)

/-- A choice among cases. -/
def readSwitch (g : Grammar) : Reading Statement := do
  let pos ← here
  advance
  let subject ← readSubject g
  expectSign .leftBrace
  let cases ← itemsUntil (.sign .rightBrace) (readCase g)
  expectSign .rightBrace
  return .switch pos subject (.ofList cases)

/-- The statements that run after a failure. -/
def readHandler (g : Grammar) : Reading (Tree .handler) := do
  advance
  let parameter ← if ← eatSign .leftParen then do
      let p ← readTypedPattern g false
      expectSign .rightParen
      pure (Tree.some p)
    else pure .none
  return .handlerOf parameter (← readBlock g)

/-- Statements that may fail. -/
def readTry (g : Grammar) : Reading Statement := do
  let pos ← here
  advance
  let body ← readBlock g
  let handler ← if ← isAtWord .catchWord then pure (Tree.some (← readHandler g)) else pure .none
  let final ← if ← eatWord .finallyWord then pure (Tree.some (← readBlock g)) else pure .none
  if !handler.isPresent && !final.isPresent then note .missingCatch
  return .guarded pos body handler final

/-- Statements in which the properties of an object are names. -/
def readWith (g : Grammar) : Reading Statement := do
  let pos ← here
  advance
  let object ← readSubject g
  return .withObject pos object (← g (.statement true))

/-! ## Jumps -/

/-- A jump out of a loop or to its next turn. -/
def readJump (jump : Nat → Option String → Statement) : Reading Statement := do
  let pos ← here
  advance
  let label ← if ← canEndStatement then pure none else pure (some (← readLabel))
  endStatement
  return jump pos label

/-- A return from a function. -/
def readReturn (g : Grammar) : Reading Statement := do
  let pos ← here
  advance
  let value ← if (← eatSign .semicolon) || (← canEndStatement) then pure Tree.none else do
    let e ← readWhole g
    endStatement
    pure (.some e)
  if !(← surroundings).inFunction then note .returnOutside
  return .returning pos value

/-- A failure. -/
def readThrow (g : Grammar) : Reading Statement := do
  let pos ← here
  advance
  if ← onNewLine then note .breakAfterThrow
  let e ← g .expression
  endStatement
  return .throwing pos e

/-! ## Functions and classes -/

/-- A function as a statement, from its keyword on. -/
def readFunctionStatement (g : Grammar) (pos : Nat) (isAsync alone : Bool) : Reading Statement := do
  let f ← readFunction g .declaration isAsync []
  if alone then
    match f with
    | .functionOf _ isAsync isGenerator _ _ _ _ _ _ _ =>
      if isAsync then note .asyncInStatement
      else if isGenerator then note .generatorInStatement
  return .functionDeclaration pos f

/-- A class as a statement, from its keyword on. -/
def readClassStatement (g : Grammar) (decorators : List Expression) (modifiers : List Keyword) (alone : Bool) :
    Reading Statement := do
  let pos ← here
  let c ← readClass g decorators modifiers
  if alone then note .invalidClass
  return .classDeclaration pos c

/-- A statement with decorators before it. -/
def readDecorated (g : Grammar) (alone : Bool) : Reading Statement := do
  let decorators ← g.decorators
  if ← isAtWord .exportWord then return ← readExport g (← here) decorators
  let modifiers ← readModifiers false false
  if ← isAtWord .classWord then return ← readClassStatement g decorators modifiers alone
  decorators.forM fun _ => note .decoratorHere
  unexpected
  return .empty (← here)

/-! ## Statements -/

/-- Words that open a declaration of the typed dialect and nothing else. -/
def Keyword.opensDeclaration (k : Keyword) : Bool :=
  k ∈ [interfaceWord, typeWord, moduleWord, namespaceWord, declareWord, enumWord, privateWord, protectedWord,
    publicWord, abstractWord, accessorWord, staticWord, readonlyWord, globalWord]

/-- A statement that begins with a word that may open a declaration of the typed dialect. -/
def readDeclarationOr (g : Grammar) (other : Reading Statement) : Reading Statement := do
  if ← isAtDeclaration then readModifiedDeclaration g (← here) [] else other

/-- A statement that begins with a keyword. -/
def readKeywordStatement (g : Grammar) (word : Keyword) (alone : Bool) : Reading Statement := do
  let pos ← here
  match word with
  | .ifWord => readIf g
  | .doWord => readDo g
  | .whileWord => readWhile g
  | .forWord => readFor g
  | .continueWord => readJump .continueTo
  | .breakWord => readJump .breakTo
  | .withWord => readWith g
  | .switchWord => readSwitch g
  | .throwWord => readThrow g
  | .tryWord => readTry g
  | .debuggerWord =>
    advance
    endStatement
    return .debugger pos
  | .classWord => readClassStatement g [] [] alone
  | .exportWord => readExport g pos []
  | .returnWord => readReturn g
  | .varWord =>
    advance
    readVariableStatement g pos .varKind alone
  | .functionWord => readFunctionStatement g pos false alone
  | .letWord => if (← token).escaped then readExpressionStatement g else readLet g pos alone
  | .asyncWord =>
    if ← isAtFunction then
      advance
      readFunctionStatement g pos true alone
    else readDeclarationOr g (readExpressionStatement g)
  | .importWord =>
    let next ← nextKind
    if next = .sign .dot || next = .sign .leftParen then readExpressionStatement g
    else
      advance
      readImportStatement pos
  | .constWord =>
    advance
    if (← hasTypes) && (← isAtWord .enumWord) then readEnum g pos [.constWord]
    else readVariableStatement g pos .constKind alone
  | word =>
    if ← isAtUsing then
      let (kind, declarators) ← readUsing g false
      endStatement
      return .variables pos false kind (.ofList declarators)
    if word.opensDeclaration then readDeclarationOr g (readExpressionStatement g) else readExpressionStatement g

/-- A statement; `alone` says that it is the whole body of another one. -/
def readStatement (g : Grammar) (alone : Bool) : Reading Statement := do
  let isFree ← isMarkedFree
  let pos ← here
  let s ← match ← kind with
    | .sign .leftBrace => pure (Tree.block pos (← readBlock g))
    | .sign .semicolon => do
      advance
      pure (.empty pos)
    | .sign .atSign => readDecorated g alone
    | .keyword word => readKeywordStatement g word alone
    | _ => readExpressionStatement g
  return if isFree then markStatement s else s

end Bundler.Script
