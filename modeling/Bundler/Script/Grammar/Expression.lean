import Bundler.Script.Grammar.Arrow
import Bundler.Script.Grammar.Markup

/-!
# Expressions

Operands with their properties and calls, unary operators, binary operators by precedence, conditional expressions,
assignments, and lists of expressions with commas.
-/

namespace Bundler.Script

open Reading

/-! ## Marks in comments -/

/-- Marks the call that an expression begins with as one without effects. -/
def markPure {c : Category} : Tree c → Tree c
  | .call callee typeArguments arguments optional _ close =>
    .call callee typeArguments arguments optional true close
  | .construct callee typeArguments arguments _ close => .construct callee typeArguments arguments true close
  | .parenthesized inner => .parenthesized (markPure inner)
  | .binary operator left right => .binary operator (markPure left) right
  | .logical operator left right => .logical operator (markPure left) right
  | .conditional test yes no => .conditional (markPure test) yes no
  | .chain (.call callee typeArguments arguments optional _ close) =>
    .chain (.call callee typeArguments arguments optional true close)
  | e => e

/-- Marks a function as one whose calls have no effects. -/
def markFunction : Expression → Expression
  | .functionValue (.functionOf name isAsync isGenerator isDeclare typeParameters parameters result body _ p) =>
    .functionValue (.functionOf name isAsync isGenerator isDeclare typeParameters parameters result body true p)
  | .arrow isAsync isConcise typeParameters parameters result body _ p =>
    .arrow isAsync isConcise typeParameters parameters result body true p
  | e => e

/-- Notes that a function stands in parentheses by itself. -/
def markParenthesized : Expression → Expression
  | .functionValue (.functionOf name isAsync isGenerator isDeclare typeParameters parameters result body pure _) =>
    .functionValue (.functionOf name isAsync isGenerator isDeclare typeParameters parameters result body pure true)
  | .arrow isAsync isConcise typeParameters parameters result body pure _ =>
    .arrow isAsync isConcise typeParameters parameters result body pure true
  | e => e

/-- Whether the mark for a call without effects stands before the current token. -/
def isMarkedPure : Reading Bool := return (← get).trivia.pure

/-- Whether the mark for a function without effects stands before the current token. -/
def isMarkedFree : Reading Bool := return (← get).trivia.noSideEffects

/-! ## Operands -/

/-- An expression in parentheses. -/
def readParenthesized (g : Grammar) : Reading Expression := do
  advance
  let (items, trailing) ← within (fun s => { s with allowsIn := true, inDecorator := false })
    (delimited (.sign .rightParen) (.sign .comma) g.value)
  if trailing.isSome then fail .parenthesesComma
  expectSign .rightParen
  match items with
  | [] =>
    fail .emptyParentheses
    return .null
  | [e] => return .parenthesized (markParenthesized e)
  | items => return .parenthesized (.sequence (.ofList items))

/-- A class with decorators before it. -/
def readDecoratedClass (g : Grammar) : Reading Expression := do
  let decorators ← g.decorators
  let words ← readModifiers false false
  if ← isAtWord .classWord then return .classValue (← readClass g decorators words)
  decorators.forM fun _ => note .decoratorHere
  unexpected
  return .null

/-- The source of a module that is imported by an expression, from the opening parenthesis on. -/
def readImportCall (g : Grammar) (phase : Option ImportPhase) : Reading Expression := do
  expectSign .leftParen
  if ← eatSign .rightParen then
    fail .importWithoutSpecifier
    return .null
  let (arguments, close) ← within ({ · with allowsIn := true }) do
    let pos ← here
    let source := Tree.argumentItem pos (← g.value)
    let options ← if (← eatSign .comma) && !(← isAtSign .rightParen) then do
        let pos ← here
        let options := Tree.argumentItem pos (← g.value)
        let _ ← eatSign .comma
        pure [options]
      else pure []
    let close ← here
    if !(← eatSign .rightParen) then fail .importArguments
    return (source :: options, close)
  return .importCall phase (.ofList arguments) close

/-- An expression that begins with `import`. -/
def readImport (g : Grammar) : Reading Expression := do
  advance
  match ← kind with
  | .sign .leftParen => readImportCall g none
  | .sign .dot =>
    advance
    match ← kind with
    | .keyword .metaWord =>
      advance
      return .metaProperty "import" "meta"
    | .keyword .sourceWord =>
      advance
      readImportCall g (some .source)
    | .keyword .deferWord =>
      advance
      readImportCall g (some .deferred)
    | _ =>
      advance
      fail .importMetaOnly
      return .null
  | _ =>
    unexpected
    return .null

/-- The object whose parents' properties are meant. -/
def readSuper : Reading Expression := do
  advance
  let k ← kind
  if k ≠ .sign .dot && k ≠ .sign .leftBracket && k ≠ .sign .leftParen then note .unexpectedSuper
  return .superValue

/-! ## Properties and calls -/

/-- A property after a point. -/
def readNamedProperty (object : Expression) (optional : Bool) : Reading Expression := do
  advance
  if ← isAt .privateName then return .privateMember object (← readPrivateName) optional
  return .member object (← readAnyName) optional

/-- A property in brackets. -/
def readIndex (g : Grammar) (object : Expression) (optional : Bool) : Reading Expression := do
  advance
  let key ← within ({ · with allowsIn := true }) (g .expression)
  expectSign .rightBracket
  return .index object key optional

/-- A template that is passed to a function. -/
def readTagged (g : Grammar) (tag : Expression) (inChain : Bool) (typeArguments : List TypeTree) :
    Reading Expression := do
  let (texts, values) ← readTemplate g true
  if inChain then note .chainTemplate
  return .tagged tag (.ofList typeArguments) texts (.ofList values)

def isAtTemplate : Reading Bool := do
  return (← kind) ∈ [TokenKind.template .whole, .template .first]

/-- Properties of an operand; also says whether some of them are taken only if there is an object. -/
def readProperties (g : Grammar) (e : Expression) (inChain : Bool) : Reading (Expression × Bool) := do
  loop (e, inChain) fun (e, inChain) => do
    if ← hasFailed then return ((e, inChain), false)
    let inDecorator := (← surroundings).inDecorator
    match ← kind with
    | .sign .dot => return ((← readNamedProperty e false, inChain), true)
    | .sign .questionDot =>
      let next ← nextKind
      if next = .sign .leftBracket && !inDecorator then
        advance
        return ((← readIndex g e true, true), true)
      else if next.isAnyName || next = .privateName then return ((← readNamedProperty e true, true), true)
      else return ((e, inChain), false)
    | .sign .leftBracket =>
      if inDecorator then return ((e, inChain), false)
      return ((← readIndex g e false, inChain), true)
    | .sign .bang =>
      if !(← hasTypes) || (← onNewLine) then return ((e, inChain), false)
      advance
      return ((.nonNull e, inChain), true)
    | .template .whole | .template .first =>
      match e with
      | .instantiation tag typeArguments =>
        return ((← readTagged g tag inChain typeArguments.toList, inChain), true)
      | _ => return ((← readTagged g e inChain [], inChain), true)
    | .sign .less | .sign .doubleLess =>
      match ← readExpressionTypeArguments? g with
      | some typeArguments => return ((.instantiation e (.ofList typeArguments), inChain), true)
      | none => return ((e, inChain), false)
    | _ => return ((e, inChain), false)

/-- An operand with its properties, but without calls. -/
def readMemberExpression (g : Grammar) (primary : Reading Expression) : Reading (Expression × Bool) := do
  let e ← match ← kind with
    | .keyword .superWord => readSuper
    | .keyword .importWord => readImport g
    | _ => primary
  readProperties g e false

/-- A new object. -/
def readConstruct (g : Grammar) (primary : Reading Expression) : Reading Expression := do
  advance
  if ← eatSign .dot then
    if ← isAtWord .targetWord then
      advance
      return .metaProperty "new" "target"
    advance
    fail .newTargetOnly
    return .null
  let (callee, inChain) ← readMemberExpression g primary
  let (callee, typeArguments) := match callee with
    | .instantiation inner typeArguments => (inner, typeArguments)
    | e => (e, .nil)
  let (arguments, close) ← if ← isAtSign .leftParen then readArguments g true else pure (.nil, 0)
  match callee with
  | .importCall _ _ _ => note .newImport
  | _ => pure ()
  if inChain then note .newChain
  return .construct callee typeArguments arguments false close

/-- An operand without properties and calls. -/
def readPrimary (g : Grammar) : Nat → Reading Expression
  | 0 => do
    unexpected
    return .null
  | depth + 1 => do
    match ← kind with
    | .identifier => return .identifier (← readReference)
    | .sign .atSign => readDecoratedClass g
    | .sign .leftBracket => readArray g
    | .sign .leftBrace => readObject g
    | .sign .leftParen => readParenthesized g
    | .sign .slash | .sign .slashEqual => readRegex
    | .template .whole | .template .first =>
      let (texts, values) ← readTemplate g false
      return .template texts (.ofList values)
    | .string | .number _ | .bigint => readLiteral
    | .keyword .thisWord =>
      advance
      return .thisValue
    | .keyword .trueWord | .keyword .falseWord | .keyword .nullWord => readLiteral
    | .keyword .functionWord => return .functionValue (← readFunction g .expression false [])
    | .keyword .asyncWord =>
      if ← isAtFunction then
        advance
        return .functionValue (← readFunction g .expression true [])
      return .identifier (← readReference)
    | .keyword .classWord => return .classValue (← readClass g [] [])
    | .keyword .newWord => readConstruct g (readPrimary g depth)
    | _ => return .identifier (← readReference)

/-- A chain of optional properties and calls as a whole. -/
def closeChain : Expression → Expression
  | .member object name optional => .chain (.member object name optional)
  | .privateMember object name optional => .chain (.privateMember object name optional)
  | .index object key optional => .chain (.index object key optional)
  | .call callee typeArguments arguments optional pure close =>
    .chain (.call callee typeArguments arguments optional pure close)
  | .nonNull inner => .chain (.nonNull inner)
  | e => e

/-- An operand with its properties and calls. -/
def readLeftHandSide (g : Grammar) : Reading Expression := do
  let start ← readMemberExpression g (readPrimary g ((← bound) + 1))
  let (e, inChain) ← loop start fun (e, inChain) => do
    if ← hasFailed then return ((e, inChain), false)
    let (e, inChain) ← readProperties g e inChain
    let optional ← eatSign .questionDot
    let inChain := inChain || optional
    let typeArguments ← if optional then readExpressionTypeArguments? g else pure none
    if optional && (← isAtTemplate) then
      return ((← readTagged g e inChain (typeArguments.getD []), inChain), true)
    if typeArguments.isSome || (← isAtSign .leftParen) then
      let (callee, typeArguments) := match optional, e with
        | false, .instantiation inner typeArguments => (inner, typeArguments)
        | _, e => (e, .ofList (typeArguments.getD []))
      let (arguments, close) ← readArguments g false
      return ((.call callee typeArguments arguments optional false close, inChain), true)
    if optional then fail .unexpectedToken
    return ((e, inChain), false)
  if !inChain then return e
  match e with
  | .instantiation inner typeArguments => return .instantiation (closeChain inner) typeArguments
  | e => return closeChain e

/-! ## Unary operators -/

/-- The operator that a token is, if it changes its operand. -/
def TokenKind.updateOperator? : TokenKind → Option UpdateOperator
  | .sign .doublePlus => some .increment
  | .sign .doubleMinus => some .decrement
  | _ => none

/-- The operator that a token is, if it can stand before an operand. -/
def TokenKind.unaryOperator? : TokenKind → Option UnaryOperator
  | .sign .minus => some .minus
  | .sign .plus => some .plus
  | .sign .bang => some .not
  | .sign .tilde => some .bitNot
  | .keyword .typeofWord => some .typeOf
  | .keyword .voidWord => some .void
  | .keyword .deleteWord => some .delete
  | _ => none

/-- An operand that an operator may change. -/
def readUpdate (g : Grammar) : Reading Expression := do
  let k ← kind
  match k.updateOperator? with
  | some operator =>
    advance
    let operand ← g .unary
    match ← simpleTarget operand with
    | .targetSimple e => return .update operator true e
    | _ => return .null
  | none =>
    if k = .sign .less && (← hasMarkup) then return ← g (.markup false)
    let operand ← g .leftHandSide
    match (← kind).updateOperator?, ← onNewLine with
    | some operator, false =>
      advance
      match ← simpleTarget operand with
      | .targetSimple e => return .update operator false e
      | _ => return .null
    | _, _ => return operand

/-- Whether the word after `await` or `yield` shows that it is an operator. -/
def showsOperator : Reading Bool := do
  let k ← kind
  return !(← onNewLine) && (k.isAnyName || k = .string || k.isNumber || k = .bigint)

/-- Whether `await` is an operator here. -/
def isAtAwait : Reading Bool := do
  if !(← isAtWord .awaitWord) then return false
  if (← surroundings).inAsync then return true
  lookahead do
    advance
    showsOperator

/-- An operand with unary operators of the tighter kind. -/
def readSimpleUnary (g : Grammar) : Reading Expression := do
  let k ← kind
  match k.unaryOperator? with
  | some operator =>
    advance
    let isPure ← isMarkedPure
    let operand ← g .simpleUnary
    return .unary operator (if isPure then markPure operand else operand)
  | none =>
    if k = .sign .less && !(← hasMarkup) then
      if !(← hasTypes) then
        unexpected
        return .null
      advance
      let type ← g .type
      expectSign .greater
      return .typeAssertion type (← g .simpleUnary)
    if ← isAtAwait then
      if !(← surroundings).inAsync then note .awaitOutside
      advance
      return .await (← within ({ · with inAsync := true }) (g .simpleUnary))
    readUpdate g

/-- An operand with its unary operators. -/
def readUnary (g : Grammar) : Reading Expression := readSimpleUnary g

/-! ## Binary operators -/

/-- How tightly a token binds as a binary operator. -/
def TokenKind.precedence? (hasTypes : Bool) (k : TokenKind) : Option Precedence :=
  match k.logicalOperator?, k.binaryOperator? with
  | some operator, _ => some operator.precedence
  | none, some operator => some operator.precedence
  | none, none =>
    if hasTypes && (k = .keyword .asWord || k = .keyword .satisfiesWord) then some .comparison else none

/-- Notes operators of two kinds that must not be mixed without parentheses. -/
def checkLogical (operator : LogicalOperator) (left right : Expression) : Reading Unit := do
  let isOther : LogicalOperator → Bool
    | .coalesce => false
    | _ => true
  if operator = .coalesce then
    match left, right with
    | _, .logical inner _ _ => if isOther inner then note .mixedCoalesce
    | .logical inner _ _, _ => if isOther inner then note .mixedCoalesce
    | _, _ => return

/-- Binary operators after an operand, as long as they bind tighter than some. -/
def readBinaryRest (g : Grammar) (minimum : Precedence) (left : Expression) : Reading Expression := do
  let types ← hasTypes
  loop left fun left => do
    let k ← joinGreater
    match k.precedence? types with
    | none => return (left, false)
    | some p =>
      let stops := if p = .exponent then p < minimum else p ≤ minimum
      if stops || (k = .keyword .inWord && !(← surroundings).allowsIn) then return (left, false)
      if types && (k = .keyword .asWord || k = .keyword .satisfiesWord) then
        if ← onNewLine then return (left, false)
        advance
        let type ← if k = .keyword .asWord && (← isAtWord .constWord) then do
            advance
            pure (.typeReference (.word "const") .nil)
          else g .type
        return (if k = .keyword .asWord then .asType left type else .satisfies left type, true)
      advance
      let right ← g (.binary p)
      match k.logicalOperator?, k.binaryOperator? with
      | some operator, _ =>
        checkLogical operator left right
        return (.logical operator left right, true)
      | none, some operator =>
        if operator = .power then
          match left with
          | .await _ | .unary _ _ => note .unexpectedPower
          | _ => pure ()
        return (.binary operator left right, true)
      | none, none => return (left, false)

/-- Operands and binary operators that bind tighter than some. -/
def readBinary (g : Grammar) (minimum : Precedence) : Reading Expression := do
  if (← isAt .privateName) && (← surroundings).allowsIn then
    let name ← readPrivateName
    expectWord .inWord
    let right ← g (.binary .comparison)
    match right with
    | .privateIn _ _ =>
      fail .privateInPrivate
      return .null
    | _ => readBinaryRest g minimum (.privateIn name right)
  else
    let isPure ← isMarkedPure
    let operand ← g .unary
    readBinaryRest g minimum (if isPure then markPure operand else operand)

/-! ## Assignments -/

/-- The operator that a token is, if it assigns. -/
def TokenKind.assignOperator? : TokenKind → Option AssignOperator
  | .sign .equal => some .plain
  | .sign .plusEqual => some (.binary .add)
  | .sign .minusEqual => some (.binary .subtract)
  | .sign .starEqual => some (.binary .multiply)
  | .sign .slashEqual => some (.binary .divide)
  | .sign .percentEqual => some (.binary .remainder)
  | .sign .doubleStarEqual => some (.binary .power)
  | .sign .doubleLessEqual => some (.binary .shiftLeft)
  | .sign .doubleGreaterEqual => some (.binary .shiftRight)
  | .sign .tripleGreaterEqual => some (.binary .shiftRightUnsigned)
  | .sign .ampEqual => some (.binary .bitAnd)
  | .sign .pipeEqual => some (.binary .bitOr)
  | .sign .caretEqual => some (.binary .bitXor)
  | .sign .doubleAmpEqual => some (.logical .and)
  | .sign .doublePipeEqual => some (.logical .or)
  | .sign .doubleQuestionEqual => some (.logical .coalesce)
  | _ => none

/-- Whether `yield` is an operator here. -/
def isAtYield : Reading Bool := do
  if !(← isAtWord .yieldWord) then return false
  if (← surroundings).inGenerator then return true
  lookahead do
    advance
    showsOperator

/-- A value that a generator hands out. -/
def readYield (g : Grammar) : Reading Expression := do
  advance
  if !(← surroundings).inGenerator then note .yieldOutside
  if ← onNewLine then return .yield false .none
  let delegate ← eatSign .star
  let k ← kind
  let hasNoOperand := k = .keyword .inWord || k = .endOfText ||
    k ∈ [TokenKind.sign .semicolon, .sign .rightBracket, .sign .rightParen, .sign .rightBrace, .sign .colon, .sign .comma]
  if hasNoOperand && !delegate then return .yield false .none
  return .yield delegate (.some (← within ({ · with inGenerator := true }) g.value))

/-- An expression without a comma. -/
def readAssignment (g : Grammar) (arrowResult : Bool) : Reading Expression := do
  let isFree ← isMarkedFree
  let mark (e : Expression) : Expression := if isFree then markFunction e else e
  if ← isAtYield then return ← readYield g
  if let some e ← readParenthesizedArrow? g arrowResult then return mark e
  if ← isAtAsyncArrow then
    advance
    let parameter ← g (.binary .comma)
    return mark (← readPlainArrow g parameter true arrowResult)
  let left ← g (.binary .comma)
  let k ← kind
  match left, k with
  | .identifier _, .sign .arrow => return mark (← readPlainArrow g left false arrowResult)
  | _, _ =>
    match k.assignOperator? with
    | some operator =>
      let target ← if operator = .plain then readTarget left else simpleTarget left
      advance
      let value ← g (.assignment arrowResult)
      return .assign operator target value
    | none =>
      if !(← eatSign .question) then return mark left
      let yes ← within ({ · with allowsIn := true }) (g (.assignment false))
      expectSign .colon
      let no ← g (.assignment arrowResult)
      return .conditional left yes no

/-- Expressions with commas between them. -/
def readExpression (g : Grammar) : Reading Expression := do
  within ({ · with inDecorator := false }) do
    let first ← g.value
    if !(← isAtSign .comma) then return first
    let rest ← many do
      if ← eatSign .comma then return some (← g.value) else return none
    return .sequence (.ofList (first :: rest))

end Bundler.Script
