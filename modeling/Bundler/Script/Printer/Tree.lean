import Bundler.Script.Printer.Declaration

/-!
# Writing trees

Each node is written by the rule for its kind, given how its parts are written.
-/

namespace Bundler.Script

open Printing

/-- A node with its writing. -/
def printed : {c : Category} → Tree c → Printed c
  | _, .nil => []
  | _, .cons head tail => printed head :: printed tail
  | _, .none => none
  | _, .some tree => some (printed tree)
  -- Expressions.
  | _, t@(.identifier name) => ⟨t, fun _ => writeWord name⟩
  | _, t@.thisValue => ⟨t, fun _ => writeWord "this"⟩
  | _, t@.superValue => ⟨t, fun _ => writeWord "super"⟩
  | _, t@.null => ⟨t, fun _ => writeWord "null"⟩
  | _, t@(.boolean value) => ⟨t, fun _ => writeWord (if value then "true" else "false")⟩
  | _, t@(.number value) => ⟨t, fun _ => writeNumber value⟩
  | _, t@(.bigint value) => ⟨t, fun _ => writeBigint value⟩
  | _, t@(.string value) => ⟨t, fun _ => writeString value⟩
  | _, t@(.regex pattern flags) => ⟨t, fun _ => writeRegex pattern flags⟩
  | _, t@(.template texts values) => ⟨t, fun _ => writeTemplate texts ((printed values).map Piece.whole)⟩
  | _, t@(.tagged tag typeArguments texts values) =>
    ⟨t, fun _ => writeTagged (printed tag) (printed typeArguments) texts (printed values)⟩
  | _, t@(.array elements _) => ⟨t, fun _ => writeArray (printed elements)⟩
  | _, t@(.object properties _) => ⟨t, writeObject (printed properties)⟩
  | _, t@(.functionValue f) => ⟨t, writeFunctionValue (printed f)⟩
  | _, t@(.arrow isAsync isConcise typeParameters parameters result body pure inParens) =>
    ⟨t, writeArrow isAsync isConcise ⟨(printed typeParameters), (printed parameters), (printed result)⟩ (printed body) pure
      inParens⟩
  | _, t@(.classValue c) => ⟨t, writeClassValue (printed c)⟩
  | _, t@(.unary operator operand) => ⟨t, writeUnary operator (printed operand)⟩
  | _, t@(.update operator isBefore operand) => ⟨t, writeUpdate operator isBefore (printed operand)⟩
  | _, t@(.binary operator left right) => ⟨t, writeBinary operator (printed left) (printed right)⟩
  | _, t@(.logical operator left right) => ⟨t, writeLogical operator (printed left) (printed right)⟩
  | _, t@(.privateIn name right) => ⟨t, writePrivateIn name (printed right)⟩
  | _, t@(.conditional test yes no) => ⟨t, writeConditional (printed test) (printed yes) (printed no)⟩
  | _, t@(.assign operator target value) => ⟨t, writeAssign operator (printed target) (printed value)⟩
  | _, t@(.sequence expressions) => ⟨t, writeSequence (printed expressions)⟩
  | _, t@(.member object name optional) => ⟨t, writeMember (printed object) name optional⟩
  | _, t@(.privateMember object name optional) => ⟨t, writeMember (printed object) ("#" ++ name) optional⟩
  | _, t@(.index object key optional) => ⟨t, writeIndex (printed object) (printed key) optional⟩
  | _, t@(.call callee typeArguments arguments optional pure close) =>
    ⟨t, writeCall (printed callee) (printed typeArguments) (printed arguments) optional pure close⟩
  | _, t@(.construct callee typeArguments arguments pure close) =>
    ⟨t, writeConstruct (printed callee) (printed typeArguments) (printed arguments) pure close⟩
  | _, t@(.importCall phase arguments close) => ⟨t, writeImportCall phase (printed arguments) close⟩
  | _, t@(.chain inner) => ⟨t, writeChain (printed inner)⟩
  | _, t@(.metaProperty object property) => ⟨t, fun _ => writeWord (object ++ "." ++ property)⟩
  | _, t@(.await operand) => ⟨t, writeAwait (printed operand)⟩
  | _, t@(.yield delegate operand) => ⟨t, writeYield delegate (printed operand)⟩
  | _, t@(.parenthesized inner) => ⟨t, (printed inner).write⟩
  | _, t@(.asType inner type) => ⟨t, writeAsType (printed inner) (printed type)⟩
  | _, t@(.satisfies inner type) => ⟨t, writeSatisfies (printed inner) (printed type)⟩
  | _, t@(.typeAssertion type inner) => ⟨t, writeTypeAssertion (printed type) (printed inner)⟩
  | _, t@(.nonNull inner) => ⟨t, writeNonNull (printed inner)⟩
  | _, t@(.instantiation inner typeArguments) => ⟨t, writeInstantiation (printed inner) (printed typeArguments)⟩
  | _, t@(.markupElement name _ attributes children) =>
    ⟨t, fun _ => writeElement name (printed attributes) (printed children)⟩
  | _, t@(.markupFragment children) => ⟨t, fun _ => writeFragment (printed children)⟩
  -- Parts of expressions.
  | _, t@.elementHole => ⟨t, fun _ => return⟩
  | _, t@(.elementItem value) => ⟨t, fun _ => (printed value).operand .comma⟩
  | _, t@(.elementSpread value) => ⟨t, fun _ => writeSpread (printed value)⟩
  | _, t@(.argumentItem _ value) => ⟨t, fun _ => (printed value).operand .comma⟩
  | _, t@(.argumentSpread _ value) => ⟨t, fun _ => writeSpread (printed value)⟩
  | _, t@(.keyName name) => ⟨t, fun _ => write name⟩
  | _, t@(.keyPrivate name) => ⟨t, fun _ => write ("#" ++ name)⟩
  | _, t@(.keyLiteral value) => ⟨t, fun _ => (printed value).operand .comma⟩
  | _, t@(.keyComputed value) => ⟨t, fun _ => writeComputedKey (printed value)⟩
  | _, t@(.propertyShorthand _ name init) => ⟨t, fun _ => writePropertyShorthand name (printed init)⟩
  | _, t@(.propertyValue key value) => ⟨t, fun _ => writePropertyValue (printed key) (printed value)⟩
  | _, t@(.propertyMethod kind key f) => ⟨t, writePropertyMethod kind (printed key) (printed f)⟩
  | _, t@(.propertySpread value) => ⟨t, fun _ => writeSpread (printed value)⟩
  -- Functions and patterns.
  | _, t@(.functionOf name isAsync isGenerator isDeclare typeParameters parameters result body _ _) =>
    ⟨t, writeFunction name isAsync isGenerator isDeclare ⟨(printed typeParameters), (printed parameters), (printed result)⟩
      (printed body)⟩
  | _, t@(.bodyOf directives statements) => ⟨t, writeBody directives (printed statements)⟩
  | _, t@(.patternName name) => ⟨t, fun _ => writeWord name⟩
  | _, t@(.patternObject properties rest) => ⟨t, writePatternObject (printed properties) (printed rest)⟩
  | _, t@(.patternArray elements rest) => ⟨t, writePatternArray (printed elements) (printed rest)⟩
  | _, t@(.patternDefault inner value) => ⟨t, writePatternDefault (printed inner) (printed value)⟩
  | _, t@(.patternTyped inner mark type) => ⟨t, writePatternTyped (printed inner) mark (printed type)⟩
  | _, t@(.patternPropertyOf key _ value) => ⟨t, writePatternProperty (printed key) (printed value)⟩
  | _, t@(.targetSimple value) => ⟨t, fun m => (printed value).write (m.inside .comma)⟩
  | _, t@(.targetObject properties rest) => ⟨t, writeTargetObject (printed properties) (printed rest)⟩
  | _, t@(.targetArray elements rest trailing) => ⟨t, writeTargetArray (printed elements) (printed rest) trailing⟩
  | _, t@(.targetDefault inner value) => ⟨t, writeTargetDefault (printed inner) (printed value)⟩
  | _, t@(.targetShorthand name init) => ⟨t, fun _ => writeTargetShorthand name (printed init)⟩
  | _, t@(.targetKeyed key value) => ⟨t, writeTargetKeyed (printed key) (printed value)⟩
  | _, t@(.parameterItem decorators access isOverride isReadonly pattern) =>
    ⟨t, writeParameter (printed decorators) access isOverride isReadonly (printed pattern)⟩
  | _, t@(.parameterThis type) => ⟨t, fun _ => writeParameterThis (printed type)⟩
  | _, t@(.parameterRest _ pattern) => ⟨t, writeParameterRest (printed pattern)⟩
  -- Classes.
  | _, t@(.classOf decorators name isAbstract isDeclare typeParameters parent parentArguments implemented members) =>
    ⟨t, writeClass (printed decorators) name isAbstract isDeclare
      ⟨(printed typeParameters), (printed parent), (printed parentArguments), (printed implemented)⟩ (printed members)⟩
  | _, t@(.heritageOf base typeArguments) => ⟨t, writeHeritage (printed base) (printed typeArguments)⟩
  | _, t@(.memberMethod pos decorators access isAbstract isStatic _ kind key optional f) =>
    ⟨t, writeMemberMethod pos ⟨(printed decorators), access, false, isAbstract, isStatic, false, false⟩ kind (printed key)
      optional (printed f)⟩
  | _, t@(.memberField pos decorators access isDeclare isAbstract isStatic _ isReadonly isAccessor optional _ key type
      value) =>
    ⟨t, fun _ => writeMemberField pos
      ⟨(printed decorators), access, isDeclare, isAbstract, isStatic, isReadonly, isAccessor⟩ (printed key) optional
      (printed type) (printed value)⟩
  | _, t@(.memberBlock pos statements) => ⟨t, writeMemberBlock pos (printed statements)⟩
  | _, t@(.memberIndexer pos isReadonly _ name keyType type) =>
    ⟨t, fun _ => writeMemberIndexer pos isReadonly name (printed keyType) (printed type)⟩
  -- Parts of statements.
  | _, t@(.declaratorOf pattern init) => ⟨t, writeDeclarator (printed pattern) (printed init)⟩
  | _, t@.forNothing => ⟨t, fun _ => return⟩
  | _, t@(.forVariables kind declarators) => ⟨t, writeVariables false kind (printed declarators)⟩
  | _, t@(.forValue value) => ⟨t, (printed value).write⟩
  | _, t@(.forEachVariable kind declarators) => ⟨t, writeVariables false kind (printed declarators)⟩
  | _, t@(.forEachTarget target) => ⟨t, writeForTarget (printed target)⟩
  | _, t@(.caseOf test statements) => ⟨t, writeCase (printed test) (printed statements)⟩
  | _, t@(.attributeOf key value) => ⟨t, fun _ => writeImportAttribute (printed key) value⟩
  | _, t@(.attributesOf isAssert attributes) => ⟨t, fun _ => writeImportAttributes isAssert (printed attributes)⟩
  | _, t@(.importNamed imported name isType) => ⟨t, fun _ => writeRenamed isType imported (.word name)⟩
  | _, t@(.importDefault name) => ⟨t, fun _ => write name⟩
  | _, t@(.importAll name) => ⟨t, fun _ => write ("* as " ++ name)⟩
  | _, t@(.exportNamed name exported isType) => ⟨t, fun _ => writeRenamed isType name exported⟩
  | _, t@(.sourceModule specifier) => ⟨t, fun _ => writeModuleSource specifier⟩
  | _, t@(.sourceEntity name) => ⟨t, fun _ => writeEntityName name⟩
  | _, t@.namespaceNothing => ⟨t, fun _ => writeChar ';'⟩
  | _, t@(.namespaceBlock body) => ⟨t, writeNamespaceBlock (printed body)⟩
  | _, t@(.namespaceNested name body) => ⟨t, writeNamespaceNested name (printed body)⟩
  | _, t@(.enumMemberOf pos key init) => ⟨t, fun _ => writeEnumMember pos (printed key) (printed init)⟩
  | _, t@(.handlerOf parameter statements) => ⟨t, writeHandler (printed parameter) (printed statements)⟩
  -- Statements.
  | _, t@(.evaluation pos value) => ⟨t, writeEvaluation pos (printed value)⟩
  | _, t@(.block pos statements) => ⟨t, fun m => writeBraced pos m (writeBlock (printed statements) m)⟩
  | _, t@(.empty pos) => ⟨t, fun m => writeSimple pos m (return)⟩
  | _, t@(.debugger pos) => ⟨t, fun m => writeSimple pos m (writeWord "debugger")⟩
  | _, t@(.choice pos test yes no) =>
    ⟨t, fun m => writeOpen pos m (writeChoice (printed test) (printed yes) (printed no) m)⟩
  | _, t@(.forLoop pos start test update body) =>
    ⟨t, fun m => writeOpen pos m (writeForLoop (printed start) (printed test) (printed update) (printed body) m)⟩
  | _, t@(.forIn pos left right body) =>
    ⟨t, fun m => writeOpen pos m (writeForIn (printed left) (printed right) (printed body) m)⟩
  | _, t@(.forOf pos isAwait left right body) =>
    ⟨t, fun m => writeOpen pos m (writeForOf isAwait (printed left) (printed right) (printed body) m)⟩
  | _, t@(.whileLoop pos test body) => ⟨t, fun m => writeOpen pos m (writeWhile (printed test) (printed body) m)⟩
  | _, t@(.doLoop pos body test) => ⟨t, fun m => writeSimple pos m (writeDo (printed body) (printed test) m)⟩
  | _, t@(.continueTo pos label) => ⟨t, fun m => writeSimple pos m (writeJump "continue" label)⟩
  | _, t@(.breakTo pos label) => ⟨t, fun m => writeSimple pos m (writeJump "break" label)⟩
  | _, t@(.returning pos value) => ⟨t, fun m => writeSimple pos m (writeValueOf "return" (printed value))⟩
  | _, t@(.withObject pos object body) =>
    ⟨t, fun m => writeOpen pos m (do
      writeSubject "with" (printed object)
      writeInner (printed body) m)⟩
  | _, t@(.switch pos subject cases) =>
    ⟨t, fun m => writeBraced pos m (writeSwitch (printed subject) (printed cases) m)⟩
  | _, t@(.labeled pos label body) => ⟨t, writeLabeled pos label (printed body)⟩
  | _, t@(.throwing pos value) =>
    ⟨t, fun m => writeSimple pos m (writeValueOf "throw" (some (printed value)))⟩
  | _, t@(.guarded pos body handler final) =>
    ⟨t, fun m => writeBraced pos m (writeGuarded (printed body) (printed handler) (printed final) m)⟩
  -- Declarations.
  | _, t@(.variables pos isDeclare kind declarators) =>
    ⟨t, fun m => writeSimple pos m (writeVariables isDeclare kind (printed declarators) m)⟩
  | _, t@(.functionDeclaration pos f) => ⟨t, writeFunctionDeclaration pos (printed f)⟩
  | _, t@(.classDeclaration pos c) => ⟨t, fun m => writeBraced pos m ((printed c).write m)⟩
  | _, t@(.enumDeclaration pos isConst isDeclare name members) =>
    ⟨t, fun m => writeBraced pos m (writeEnum isConst isDeclare name (printed members))⟩
  | _, t@(.interfaceDeclaration pos _ name typeParameters parents members) =>
    ⟨t, fun m => writeBraced pos m (writeInterface name (printed typeParameters) (printed parents) (printed members))⟩
  | _, t@(.typeAlias pos isDeclare name typeParameters type) =>
    ⟨t, fun m => writeSimple pos m (writeTypeAlias isDeclare name (printed typeParameters) (printed type))⟩
  | _, t@(.namespaceDeclaration pos isDeclare isModule name body) =>
    ⟨t, fun m => writeBraced pos m (writeNamespace isDeclare isModule name (printed body) m)⟩
  | _, t@(.globalDeclaration pos isDeclare body) =>
    ⟨t, fun m => writeBraced pos m (writeGlobal isDeclare (printed body) m)⟩
  | _, t@(.importEquals pos _ name source) =>
    ⟨t, fun m => writeSimple pos m (writeImportEquals name (printed source))⟩
  -- Imports and exports.
  | _, t@(.importFrom pos isType phase names specifier attributes) =>
    ⟨t, fun m => writeSimple pos m (writeImport isType phase (printed names) specifier (printed attributes))⟩
  | _, t@(.exportDeclaration pos declaration) => ⟨t, writeExportDeclaration pos (printed declaration)⟩
  | _, t@(.exportList pos isType names) => ⟨t, fun m => writeSimple pos m (writeExportNames isType (printed names))⟩
  | _, t@(.exportFrom pos isType names specifier _) =>
    ⟨t, fun m => writeSimple pos m (writeExportFrom isType (printed names) specifier)⟩
  | _, t@(.exportDefault pos value) => ⟨t, writeExportDefault pos (printed value)⟩
  | _, t@(.exportAll pos isType exported specifier attributes) =>
    ⟨t, fun m => writeSimple pos m (writeExportAll isType exported specifier (printed attributes))⟩
  | _, t@(.exportAssign pos value) => ⟨t, fun m => writeSimple pos m (writeAround "export = " (printed value) "")⟩
  | _, t@(.exportNamespace pos name) =>
    ⟨t, fun m => writeSimple pos m (writeWord ("export as namespace " ++ name))⟩
  | _, t@(.defaultFunction _ f) => ⟨t, fun m => (printed f).write m.asWhole⟩
  | _, t@(.defaultClass _ c) => ⟨t, (printed c).write⟩
  | _, t@(.defaultInterface declaration) => ⟨t, (printed declaration).write⟩
  | _, t@(.defaultValue value) => ⟨t, fun _ => writeDefaultValue (printed value)⟩
  -- Types.
  | _, t@(.typeParameterOf name isConst isIn isOut bound init) =>
    ⟨t, fun _ => writeTypeParameter name isConst isIn isOut (printed bound) (printed init)⟩
  | _, t@(.tupleItem type) => ⟨t, (printed type).write⟩
  | _, t@(.tupleOptional type) => ⟨t, fun _ => writeAround "" (printed type) "?"⟩
  | _, t@(.tupleRest element) => ⟨t, fun _ => writeAround "..." (printed element) ""⟩
  | _, t@(.tupleNamed label optional element) => ⟨t, fun _ => writeTupleNamed label optional (printed element)⟩
  | _, t@(.typeKeyword name) => ⟨t, fun _ => write name⟩
  | _, t@.typeThis => ⟨t, fun _ => write "this"⟩
  | _, t@(.typeReference name arguments) => ⟨t, fun _ => writeTypeReference "" name (printed arguments)⟩
  | _, t@(.typeLiteral value) => ⟨t, fun _ => (printed value).whole⟩
  | _, t@(.typeTemplate texts types) => ⟨t, fun _ => writeTemplate texts ((printed types).map Piece.whole)⟩
  | _, t@(.typeArray element) => ⟨t, fun _ => writeAround "" (printed element) "[]"⟩
  | _, t@(.typeTuple elements) => ⟨t, fun _ => do
      writeChar '['
      writeList (printed elements) .free
      writeChar ']'⟩
  | _, t@(.typeUnion types) => ⟨t, fun _ => writeTypesWith "|" (printed types)⟩
  | _, t@(.typeIntersection types) => ⟨t, fun _ => writeTypesWith "&" (printed types)⟩
  | _, t@(.typeConditional check bound yes no) =>
    ⟨t, fun _ => writeTypeConditional (printed check) (printed bound) (printed yes) (printed no)⟩
  | _, t@(.typeInfer parameter) => ⟨t, fun _ => writeAround "infer " (printed parameter) ""⟩
  | _, t@(.typeParenthesized inner) => ⟨t, fun _ => writeAround "(" (printed inner) ")"⟩
  | _, t@(.typeOperation operator operand) =>
    ⟨t, fun _ => writeAround (operator.text ++ " ") (printed operand) ""⟩
  | _, t@(.typeIndexed object key) => ⟨t, fun _ => writeTypeIndexed (printed object) (printed key)⟩
  | _, t@(.typeMapped readonly name bound renamed optional type) =>
    ⟨t, fun _ => writeTypeMapped readonly name (printed bound) (printed renamed) optional (printed type)⟩
  | _, t@(.typeObject members) => ⟨t, fun _ => writeTypeMembers (printed members)⟩
  | _, t@(.typeFunction typeParameters parameters result) =>
    ⟨t, fun _ => writeTypeFunction "" (printed typeParameters) (printed parameters) (printed result)⟩
  | _, t@(.typeConstructor isAbstract typeParameters parameters result) =>
    ⟨t, fun _ => writeTypeFunction (if isAbstract then "abstract new " else "new ") (printed typeParameters)
      (printed parameters) (printed result)⟩
  | _, t@(.typeQuery name arguments) => ⟨t, fun _ => writeTypeReference "typeof " name (printed arguments)⟩
  | _, t@(.typeImport source options qualifier arguments) =>
    ⟨t, fun _ => writeTypeImport (printed source) (printed options) qualifier (printed arguments)⟩
  | _, t@(.typeImportQuery inner arguments) => ⟨t, fun _ => writeTypeImportQuery (printed inner) (printed arguments)⟩
  | _, t@(.typePredicate asserts name type) => ⟨t, fun _ => writeTypePredicate asserts name (printed type)⟩
  | _, t@(.typeNullable inner isBefore) => ⟨t, fun _ => writeMarkedType "?" isBefore (printed inner)⟩
  | _, t@(.typeNonNullable inner isBefore) => ⟨t, fun _ => writeMarkedType "!" isBefore (printed inner)⟩
  | _, t@.typeUnknown => ⟨t, fun _ => writeChar '?'⟩
  | _, t@(.typeProperty pos isReadonly optional key type) =>
    ⟨t, fun _ => writeTypeMember pos (writeTypeProperty isReadonly optional (printed key) (printed type))⟩
  | _, t@(.typeMethod pos kind key optional typeParameters parameters result) =>
    ⟨t, fun _ => writeTypeMember pos (writeTypeMethod kind (printed key) optional
      ⟨(printed typeParameters), (printed parameters), (printed result)⟩)⟩
  | _, t@(.typeCall pos typeParameters parameters result) =>
    ⟨t, fun _ => writeTypeMember pos
      (writeSignature ⟨(printed typeParameters), (printed parameters), (printed result)⟩ .free)⟩
  | _, t@(.typeConstruct pos typeParameters parameters result) =>
    ⟨t, fun _ => writeTypeMember pos
      (writeTypeConstruct ⟨(printed typeParameters), (printed parameters), (printed result)⟩)⟩
  | _, t@(.typeIndexer pos isReadonly _ name keyType type) =>
    ⟨t, fun _ => writeTypeMember pos (writeIndexer isReadonly name (printed keyType) (printed type))⟩
  -- Markup.
  | _, t@(.attributeFlag name) => ⟨t, fun _ => writeMarkupName name⟩
  | _, t@(.attributeText name text) => ⟨t, fun _ => writeAttributeText name text⟩
  | _, t@(.attributeValue name value) => ⟨t, fun _ => do
      writeAttributeName name
      writeAround "\x7b" (printed value) "\x7d"⟩
  | _, t@(.attributeElement name element) => ⟨t, fun _ => do
      writeAttributeName name
      (printed element).whole⟩
  | _, t@(.attributeNothing name close) => ⟨t, fun _ => do
      writeAttributeName name
      writeNothing close⟩
  | _, t@(.attributeSpread value) => ⟨t, fun _ => writeAttributeSpread (printed value)⟩
  | _, t@(.childText text) => ⟨t, fun _ => write text⟩
  | _, t@(.childElement element) => ⟨t, fun _ => (printed element).whole⟩
  | _, t@(.childValue value) => ⟨t, fun _ => writeAround "\x7b" (printed value) "\x7d"⟩
  | _, t@(.childNothing close) => ⟨t, fun _ => writeNothing close⟩
  | _, t@(.childSpread value) => ⟨t, fun _ => writeAround "\x7b..." (printed value) "\x7d"⟩

end Bundler.Script
