import Bundler.Script.Grammar.Pattern

/-!
# Parameters and types

The parameters of functions and the types of the typed dialect. Types and parameters contain each other, since a
function type has parameters and a parameter has a type.
-/

namespace Bundler.Script

open Reading

/-! ## Type parameters and arguments -/

/-- A parameter of a generic declaration. -/
def readTypeParameter (g : Grammar) : Reading (Tree .typeParameter) := do
  let words ← readModifiers true false
  allowModifiers [.inWord, .outWord, .constWord] .modifierOnTypeParameter words
  let name ← readBinding
  let bound ← if ← eatWord .extendsWord then pure (some (← g .type)) else pure none
  let init ← if ← eatSign .equal then pure (some (← g .type)) else pure none
  return .typeParameterOf name (.constWord ∈ words) (.inWord ∈ words) (.outWord ∈ words) (.ofOption bound)
    (.ofOption init)

/-- The parameters of a generic declaration in angle brackets, if there are any. -/
def readTypeParameters (g : Grammar) : Reading (List (Tree .typeParameter)) := do
  if !(← hasTypes) || !(← isAtSign .less) then return []
  advance
  let parameters ← commaList .greater (readTypeParameter g)
  expectSign .greater
  if parameters.isEmpty then note .emptyTypeParameters
  return parameters

/-- Whether the current token begins with `<`, which is then split off. -/
def isAtTypeArguments : Reading Bool := do
  if ← hasFailed then return false
  splitLess
  isAtSign .less

/-- Arguments of a type. -/
def readTypeArguments (g : Grammar) : Reading (List TypeTree) := do
  expectSign .less
  let arguments ← commaList .greater (g .type)
  expectSign .greater
  if arguments.isEmpty then note .emptyTypeArguments
  return arguments

/-- Arguments of a type that must stand on the line of its name. -/
def readTypeArguments? (g : Grammar) : Reading (List TypeTree) := do
  if !(← onNewLine) && (← isAtTypeArguments) then readTypeArguments g else return []

/-! ## Parameters -/

/-- For what a list of parameters is. -/
inductive ParameterPlace where
  | ordinary
  | constructor
  deriving DecidableEq, Inhabited, Repr

/-- A parameter of a function. -/
def readParameter (g : Grammar) (place : ParameterPlace) : Reading (Tree .parameter) := do
  let decorators ← g.decorators
  let words ← readModifiers false false
  match place with
  | .constructor =>
    allowModifiers [.publicWord, .privateWord, .protectedWord, .readonlyWord, .overrideWord] .modifierOnParameter words
  | .ordinary => allowModifiers [] (fun _ => .parameterProperty) words
  let pattern ← readPatternItem g
  return .parameterItem (.ofList decorators) (accessOf words) (.overrideWord ∈ words) (.readonlyWord ∈ words) pattern

/-- The parameters of a function in parentheses. -/
def readParameters (g : Grammar) (place : ParameterPlace) : Reading (List (Tree .parameter)) := do
  expectSign .leftParen
  let receiver ← if (← hasTypes) && (← isAtWord .thisWord) then do
      advance
      let type ← g.typeAnnotation
      if !(← isAtSign .rightParen) then expectSign .comma
      pure [Tree.parameterThis (.ofOption type)]
    else pure []
  let (items, rest) ← itemsWithRest .rightParen (readParameter g place) (readRestPattern g) .restParameterNotLast
  expectSign .rightParen
  return receiver ++ items ++ (rest.map (Tree.parameterRest .nil)).toList

/-! ## Results of functions -/

/-- The name before `is` in a type that states a test. -/
def readPredicateName : Reading String := do
  let name ← readAnyName
  if (← isAtWord .isWord) && !(← onNewLine) then advance else unexpected
  return name

/-- A type, or what a function tests of a parameter. -/
def readResult (g : Grammar) : Reading TypeTree := do
  let name ← if (← kind).isAnyName then attempt readPredicateName else pure none
  let type ← g .type
  match name with
  | some name => return .typePredicate false (.word name) (.some type)
  | none => return type

/-- The type of the result of a function after a colon, if there is one. -/
def readResult? (g : Grammar) : Reading (Option TypeTree) := do
  if (← hasTypes) && (← isAtSign .colon) then
    advance
    return some (← within ({ · with plainBounds := false }) (readResult g))
  else return none

/-! ## What begins a type -/

/-- Whether a token of the kind begins a type wherever it stands. -/
def TokenKind.beginsType : TokenKind → Bool
  | .keyword word => !word.isReserved ||
      word ∈ [.nullWord, .trueWord, .falseWord, .thisWord, .typeofWord, .voidWord, .importWord, .newWord]
  | .identifier | .string | .number _ | .bigint | .template .whole | .template .first => true
  | .sign s => s ∈ [.leftBrace, .leftBracket, .less, .pipe, .amp, .star, .question, .bang, .ellipsis]
  | _ => false

/-- Whether a parameter can begin here. -/
def canBeginParameter : Reading Bool := do
  let k ← kind
  return k = .sign .ellipsis || k.isBindable || k = .sign .leftBrace || k = .sign .leftBracket ||
    k = .sign .atSign || (← modifier?).isSome || k.beginsType

/-- Whether a type can begin here. -/
def canBeginType : Reading Bool := do
  let k ← kind
  match k with
  | .keyword .functionWord => return true
  | .sign .minus => return (← nextKind).isNumber || (← nextKind) = .bigint
  | .sign .leftParen => lookahead do
    advance
    return (← isAtSign .rightParen) || (← canBeginParameter)
  | _ => return k.beginsType

/-- Steps over the beginning of a parameter, if there is one. -/
def stepOverParameter (g : Grammar) : Reading Bool := do
  if (← modifier?).isSome then
    let _ ← readModifiers false false
  let k ← kind
  if k.isBindable || k = .keyword .thisWord then
    advance
    return true
  if k = .sign .leftBracket || k = .sign .leftBrace then
    let before := (← get).place.faults.length
    let _ ← g .pattern
    return !(← hasFailed) && (← get).place.faults.length == before
  return false

/-- Whether a parenthesis opens the parameters of a function type. -/
def opensFunctionType (g : Grammar) : Reading Bool := lookahead do
  advance
  if (← isAtSign .rightParen) || (← isAtSign .ellipsis) then return true
  if !(← stepOverParameter g) then return false
  if ← isAtSign .rightParen then
    advance
    isAtSign .arrow
  else return (← kind) ∈ [TokenKind.sign .colon, .sign .comma, .sign .question, .sign .equal]

/-! ## Types of objects -/

/-- Whether a bracket opens an index signature. -/
def isAtIndexer : Reading Bool := do
  if !(← isAtSign .leftBracket) then return false
  lookahead do
    advance
    if (← isAtSign .ellipsis) || (← isAtSign .rightBracket) then return true
    if (← modifier?).isSome then
      advance
      if (← kind).isName then return true
    else if !(← kind).isName then return false
    else advance
    if (← isAtSign .colon) || (← isAtSign .comma) then return true
    if !(← isAtSign .question) then return false
    advance
    return (← isAtSign .colon) || (← isAtSign .comma) || (← isAtSign .rightBracket)

/-- Ends a member of an object type. -/
def endTypeMember : Reading Unit := do
  if ← eatSign .comma then return
  endStatement

/-- The type after a colon that must be there. -/
def demandType (g : Grammar) : Reading TypeTree := do
  match ← g.typeAnnotation with
  | some type => return type
  | none =>
    unexpected
    return .typeThis

/-- An index signature: its parameter and its type. -/
def readIndexer (g : Grammar) (words : List Keyword) : Reading (String × TypeTree × TypeTree) := do
  allowModifiers [.readonlyWord, .staticWord] .modifierOnIndexer words
  advance
  let name ← readAnyName
  let keyType ← demandType g
  expectSign .rightBracket
  let type ← demandType g
  endTypeMember
  return (name, keyType, type)

/-- The parameters and the result of a call in an object type. -/
def readCallSignature (g : Grammar) :
    Reading (Tree (.many .typeParameter) × Tree (.many .parameter) × Tree (.optional .type)) := do
  let typeParameters ← readTypeParameters g
  let parameters ← readParameters g .ordinary
  let result ← readResult? g
  endTypeMember
  return (.ofList typeParameters, .ofList parameters, .ofOption result)

/-- A member of an object type. -/
def readTypeMember (g : Grammar) : Reading (Tree .typeMember) := do
  let pos ← here
  let k ← kind
  if k = .sign .leftParen || k = .sign .less then
    let (t, p, r) ← readCallSignature g
    return .typeCall pos t p r
  if k = .keyword .newWord then
    let next ← nextKind
    if next = .sign .leftParen || next = .sign .less then
      advance
      let (t, p, r) ← readCallSignature g
      return .typeConstruct pos t p r
  let words ← readModifiers false false
  let accessor (kind : MethodKind) : Reading (Tree .typeMember) := do
    let key ← readKey g
    let (t, p, r) ← readCallSignature g
    return .typeMethod pos kind key false t p r
  if ← eatAccessor .getWord then return ← accessor .getter
  if ← eatAccessor .setWord then return ← accessor .setter
  if ← isAtIndexer then
    let (name, keyType, type) ← readIndexer g words
    return .typeIndexer pos (.readonlyWord ∈ words) (.staticWord ∈ words) name keyType type
  allowModifiers [.readonlyWord] .modifierOnTypeMember words
  let key ← readKey g
  let optional ← eatSign .question
  let k ← kind
  if k = .sign .leftParen || k = .sign .less then
    let (t, p, r) ← readCallSignature g
    return .typeMethod pos .method key optional t p r
  let type ← g.typeAnnotation
  endTypeMember
  return .typeProperty pos (.readonlyWord ∈ words) optional key (.ofOption type)

/-- The members of an object type in braces. -/
def readTypeMembers (g : Grammar) : Reading (List (Tree .typeMember)) := do
  expectSign .leftBrace
  let members ← itemsUntil (.sign .rightBrace) (readTypeMember g)
  expectSign .rightBrace
  return members

/-- Whether a brace opens a mapped type. -/
def opensMappedType : Reading Bool := lookahead do
  advance
  if (← isAtSign .minus) || (← isAtSign .plus) then
    advance
    return ← isAtWord .readonlyWord
  let _ ← eatWord .readonlyWord
  if !(← eatSign .leftBracket) then return false
  if !(← kind).isAnyName then return false
  advance
  isAtWord .inWord

/-- A type that has a property for each member of another one. -/
def readMappedType (g : Grammar) : Reading TypeTree := do
  expectSign .leftBrace
  let readonly : MappedModifier ← match ← kind with
    | .keyword .readonlyWord => do
      advance
      pure .present
    | .sign .plus => do
      advance
      let _ ← eatWord .readonlyWord
      pure .added
    | .sign .minus => do
      advance
      let _ ← eatWord .readonlyWord
      pure .removed
    | _ => pure .untouched
  expectSign .leftBracket
  if !(← kind).isAnyName then unexpected
  let name ← readBinding
  expectWord .inWord
  let bound ← g .type
  let renamed ← if ← eatWord .asWord then pure (some (← g .type)) else pure none
  expectSign .rightBracket
  let optional : MappedModifier ← match ← kind with
    | .sign .question => do
      advance
      pure .present
    | .sign .plus => do
      advance
      expectSign .question
      pure .added
    | .sign .minus => do
      advance
      expectSign .question
      pure .removed
    | _ => pure .untouched
  let type ← if ← eatSign .colon then pure (some (← g .type)) else pure none
  let _ ← eatSign .semicolon
  expectSign .rightBrace
  return .typeMapped readonly name bound (.ofOption renamed) optional (.ofOption type)

/-! ## Tuples -/

/-- Whether an element of a tuple has a label. -/
def isAtTupleLabel : Reading Bool := lookahead do
  let _ ← eatSign .ellipsis
  if !(← kind).isAnyName then return false
  advance
  if ← eatSign .question then isAtSign .colon else isAtSign .colon

/-- An element of a tuple without its label. -/
def readTupleItem (g : Grammar) : Reading (Tree .tupleElement) := do
  if ← eatSign .ellipsis then return .tupleRest (.tupleItem (← g .type))
  match ← g .type with
  | .typeNullable inner false => return .tupleOptional inner
  | type => return .tupleItem type

/-- An element of a tuple. -/
def readTupleElement (g : Grammar) : Reading (Tree .tupleElement) := do
  if ← isAtTupleLabel then
    let isRest ← eatSign .ellipsis
    let label ← readAnyName
    let optional ← eatSign .question
    expectSign .colon
    let item := Tree.tupleNamed label optional (← readTupleItem g)
    return if isRest then .tupleRest item else item
  readTupleItem g

/-! ## Names and other operands -/

/-- A dotted name. -/
def readEntity : Reading EntityName := do
  let first : EntityName ← if ← isAtWord .thisWord then do
      advance
      pure .thisWord
    else pure (.word (← readAnyName))
  loop first fun name => do
    if !(← eatSign .dot) then return (name, false)
    return (.dotted name (← readAnyName), true)

/-- A named type with its arguments. -/
def readTypeReference (g : Grammar) : Reading TypeTree := do
  let name ← readEntity
  return .typeReference name (.ofList (← readTypeArguments? g))

/-- The type that a module exports under a name. -/
def readImportType (g : Grammar) (options : Reading Expression) : Reading TypeTree := do
  expectWord .importWord
  expectSign .leftParen
  let source ← g .type
  let options ← if ← eatSign .comma then pure (some (← options)) else pure none
  expectSign .rightParen
  let qualifier ← if ← eatSign .dot then pure (some (← readEntity)) else pure none
  return .typeImport source (.ofOption options) qualifier (.ofList (← readTypeArguments? g))

/-- The type of a value. -/
def readTypeQuery (g : Grammar) (options : Reading Expression) : Reading TypeTree := do
  advance
  if ← isAtWord .importWord then return .typeImportQuery (← readImportType g options) .nil
  let name ← readEntity
  return .typeQuery name (.ofList (← readTypeArguments? g))

/-- A literal as a type. -/
def readLiteralType (negative : Bool) : Reading TypeTree := do
  if negative then
    advance
    return .typeLiteral (.unary .minus (← readLiteral))
  return .typeLiteral (← readLiteral)

/-- A type that is stated of a parameter if a function returns. -/
def readAssertion (g : Grammar) : Reading TypeTree := do
  advance
  let name : EntityName ← if ← isAtWord .thisWord then do
      advance
      pure .thisWord
    else pure (.word (← readAnyName))
  let type ← if ← eatWord .isWord then pure (some (← g .type)) else pure none
  return .typePredicate true name (.ofOption type)

/-- The words that name types by themselves. -/
def Keyword.isTypeName (k : Keyword) : Bool :=
  k ∈ [.anyWord, .unknownWord, .stringWord, .numberWord, .bigintWord, .symbolWord, .booleanWord, .undefinedWord,
    .neverWord, .objectWord]

/-- A type without operators; `options` reads the object after the source of an imported type. -/
def readPlainType (g : Grammar) (options : Reading Expression) : Reading TypeTree := do
  match ← kind with
  | .keyword .voidWord =>
    advance
    return .typeKeyword "void"
  | .keyword .nullWord =>
    advance
    return .typeKeyword "null"
  | .keyword .thisWord =>
    advance
    if (← isAtWord .isWord) && !(← onNewLine) then
      advance
      return .typePredicate false .thisWord (.some (← g .type))
    return .typeThis
  | .keyword .typeofWord => readTypeQuery g options
  | .keyword .importWord => readImportType g options
  | .keyword .assertsWord =>
    let next ← nextToken
    if next.kind.isAnyName && !next.onNewLine then readAssertion g else readTypeReference g
  | .keyword .trueWord | .keyword .falseWord => readLiteralType false
  | .keyword word =>
    if word.isTypeName && (← nextKind) ≠ .sign .dot then
      advance
      return .typeKeyword word.text
    readTypeReference g
  | .string | .number _ | .bigint => readLiteralType false
  | .template .whole =>
    return .typeLiteral (.template [← readTemplateText false] .nil)
  | .template .first =>
    let (texts, types) ← readTemplateOf false (g .type)
    return .typeTemplate texts (.ofList types)
  | .sign .minus =>
    let next ← nextKind
    if next.isNumber || next = .bigint then readLiteralType true else readTypeReference g
  | .sign .leftBrace =>
    if ← opensMappedType then readMappedType g else return .typeObject (.ofList (← readTypeMembers g))
  | .sign .leftBracket =>
    advance
    let elements ← commaList .rightBracket (readTupleElement g)
    expectSign .rightBracket
    return .typeTuple (.ofList elements)
  | .sign .leftParen =>
    advance
    let inner ← g .type
    expectSign .rightParen
    return .typeParenthesized inner
  | .sign .question =>
    advance
    if (← kind) ∈ [TokenKind.sign .comma, .sign .rightBrace, .sign .rightParen, .sign .greater, .sign .equal,
        .sign .pipe] then return .typeUnknown
    return .typeNullable (← g .type) true
  | .sign .bang =>
    advance
    return .typeNonNullable (← g .typeOperand) true
  | _ => readTypeReference g

/-! ## Operators -/

/-- A type with the operators after it. -/
def readSuffixedType (g : Grammar) (options : Reading Expression) : Reading TypeTree := do
  loop (← readPlainType g options) fun type => do
    if ← onNewLine then return (type, false)
    match ← kind with
    | .sign .bang =>
      advance
      return (.typeNonNullable type false, true)
    | .sign .question =>
      let opensType ← lookahead do
        advance
        canBeginType
      if opensType then return (type, false)
      advance
      return (.typeNullable type false, true)
    | .sign .leftBracket =>
      advance
      if ← canBeginType then
        let key ← g .type
        expectSign .rightBracket
        return (.typeIndexed type key, true)
      expectSign .rightBracket
      return (.typeArray type, true)
    | _ => return (type, false)

/-- The bound of an inferred type; a question mark after it makes it part of a conditional type instead. -/
def readInferBound (g : Grammar) : Reading TypeTree := do
  expectWord .extendsWord
  let bound ← within ({ · with plainBounds := true }) (g .type)
  if !(← surroundings).plainBounds && (← isAtSign .question) then unexpected
  return bound

/-- A type with the operators before it. -/
def readTypeOperand (g : Grammar) (options : Reading Expression) : Reading TypeTree := do
  let operation (operator : TypeOperator) : Reading TypeTree := do
    advance
    return .typeOperation operator (← g .typeOperand)
  match ← kind with
  | .keyword .keyofWord => operation .keyOf
  | .keyword .uniqueWord => operation .unique
  | .keyword .readonlyWord => operation .readonly
  | .keyword .inferWord =>
    advance
    let name ← readBinding
    let bound ← attempt (readInferBound g)
    return .typeInfer (.typeParameterOf name false false false (.ofOption bound) .none)
  | _ => within ({ · with plainBounds := false }) (readSuffixedType g options)

/-- Types with a sign between them, and perhaps before the first one. -/
def readJoinedTypes (sign : Sign) (join : Tree (.many .type) → TypeTree) (operand : Reading TypeTree) :
    Reading TypeTree := do
  let leading ← eatSign sign
  let first ← operand
  if !leading && !(← isAtSign sign) then return first
  let rest ← many do
    if ← eatSign sign then return some (← operand) else return none
  return join (.ofList (first :: rest))

/-- The type of a function or of a constructor. -/
def readFunctionType (g : Grammar) : Reading TypeTree := do
  let isAbstract ← eatWord .abstractWord
  let isConstructor ← eatWord .newWord
  let typeParameters ← readTypeParameters g
  let parameters ← readParameters g .ordinary
  expectSign .arrow
  let result ← within ({ · with plainBounds := false }) (readResult g)
  return if isConstructor then .typeConstructor isAbstract (.ofList typeParameters) (.ofList parameters) result
    else .typeFunction (.ofList typeParameters) (.ofList parameters) result

/-- A type. -/
def readType (g : Grammar) : Reading TypeTree := do
  let isFunction ← match ← kind with
    | .sign .less | .keyword .newWord => pure true
    | .sign .leftParen => opensFunctionType g
    | .keyword .abstractWord => pure ((← nextKind) = .keyword .newWord)
    | _ => pure false
  if isFunction then return ← readFunctionType g
  let check ← readJoinedTypes .pipe .typeUnion (readJoinedTypes .amp .typeIntersection (g .typeOperand))
  if (← surroundings).plainBounds || (← onNewLine) || !(← eatWord .extendsWord) then return check
  let bound ← within ({ · with plainBounds := true }) (g .type)
  expectSign .question
  let yes ← within ({ · with plainBounds := false }) (g .type)
  expectSign .colon
  let no ← within ({ · with plainBounds := false }) (g .type)
  return .typeConditional check bound yes no

/-! ## Types in expressions -/

/-- Whether a token of the kind begins an operand. -/
def TokenKind.beginsOperand : TokenKind → Bool
  | .identifier | .string | .number _ | .bigint | .regex | .template .whole | .template .first => true
  | .keyword word => !word.isReserved || word ∈ [.thisWord, .superWord, .nullWord, .trueWord, .falseWord,
      .functionWord, .classWord, .newWord]
  | .sign s => s ∈ [.leftParen, .leftBracket, .leftBrace, .slash, .slashEqual]
  | _ => false

/-- The operator that a token is, if it is a binary one. -/
def TokenKind.binaryOperator? : TokenKind → Option BinaryOperator
  | .sign .doubleEqual => some .equal
  | .sign .bangEqual => some .notEqual
  | .sign .tripleEqual => some .strictEqual
  | .sign .bangDoubleEqual => some .strictNotEqual
  | .sign .less => some .less
  | .sign .lessEqual => some .lessEqual
  | .sign .greater => some .greater
  | .sign .greaterEqual => some .greaterEqual
  | .sign .doubleLess => some .shiftLeft
  | .sign .doubleGreater => some .shiftRight
  | .sign .tripleGreater => some .shiftRightUnsigned
  | .sign .plus => some .add
  | .sign .minus => some .subtract
  | .sign .star => some .multiply
  | .sign .slash => some .divide
  | .sign .percent => some .remainder
  | .sign .doubleStar => some .power
  | .sign .pipe => some .bitOr
  | .sign .caret => some .bitXor
  | .sign .amp => some .bitAnd
  | .keyword .inWord => some .isIn
  | .keyword .instanceofWord => some .instanceOf
  | _ => none

/-- The operator that a token is, if it is a logical one. -/
def TokenKind.logicalOperator? : TokenKind → Option LogicalOperator
  | .sign .doublePipe => some .or
  | .sign .doubleAmp => some .and
  | .sign .doubleQuestion => some .coalesce
  | _ => none

/-- Whether an expression can begin here. -/
def canBeginExpression : Reading Bool := do
  let k ← kind
  if k.beginsOperand || k.isBindable then return true
  match k with
  | .keyword .importWord =>
    let next ← nextKind
    return next = .sign .leftParen || next = .sign .less || next = .sign .dot
  | .keyword word => return word ∈ [.typeofWord, .voidWord, .deleteWord, .inWord, .instanceofWord]
  | .privateName => return true
  | .sign s => return s ∈ [.plus, .minus, .tilde, .bang, .doublePlus, .doubleMinus, .less, .atSign] ||
      k.binaryOperator?.isSome || k.logicalOperator?.isSome
  | _ => return false

/-- Whether what stands here can follow arguments of a type in an expression. -/
def canFollowTypeArguments : Reading Bool := do
  let k ← kind
  match k with
  | .sign .leftParen | .template .whole | .template .first => return true
  | .sign .less | .sign .greater | .sign .plus | .sign .minus => return false
  | _ =>
    return (← onNewLine) || k.binaryOperator?.isSome || k.logicalOperator?.isSome || !(← canBeginExpression)

/-- Arguments of a type after an expression, unless `<` and `>` are operators there. -/
def readExpressionTypeArguments? (g : Grammar) : Reading (Option (List TypeTree)) := do
  if !(← hasTypes) then return none
  match (← kind) with
  | .sign .less | .sign .doubleLess =>
    attempt do
      if !(← isAtTypeArguments) then unexpected
      advance
      let arguments ← commaList .greater (g .type)
      if (← joinGreater) = .sign .greaterEqual then unexpected
      expectSign .greater
      if !(← canFollowTypeArguments) then unexpected
      if arguments.isEmpty then note .emptyTypeArguments
      return arguments
  | _ => return none

end Bundler.Script
