import Bundler.Script.Token

/-!
# Faults of scripts

What can be wrong with the text of a script, and the message about it.
-/

namespace Bundler.Script

inductive Fault where
  -- Characters and tokens.
  | invalidCharacter (c : Char)
  | unexpectedEnd
  | invalidNumberEnd
  | unterminatedString
  | unterminatedComment
  | unterminatedRegex
  | invalidEscape
  | invalidUnicodeEscape
  | badTemplateEscape
  | regexFlag (c : Char)
  | regexFlagTwice (c : Char)
  | regexFlagsUV
  | markupGreater
  | markupBrace
  | escapedKeyword
  -- Phrases.
  | unexpectedToken
  | expected (wanted found : TokenKind)
  | missingSemicolon
  | flow
  | duplicateExport (name : String)
  | duplicateDefaultExport
  -- Names.
  | identifierExpected
  | reservedWord (name : String)
  | awaitAsName
  | yieldAsName
  -- Expressions.
  | cannotAssign
  | invalidObjectAssignment
  | emptyParentheses
  | parenthesesComma
  | privateInPrivate
  | unexpectedPower
  | mixedCoalesce
  | awaitOutside
  | yieldOutside
  | newTargetOnly
  | importMetaOnly
  | unexpectedSuper
  | newImport
  | newChain
  | chainTemplate
  | importArguments
  | importWithoutSpecifier
  | breakBeforeArrow
  -- Patterns and parameters.
  | restNotLast
  | restTrailingComma
  | restInitializer
  | restPattern
  | restParameterNotLast
  | spreadNotLast
  -- Statements.
  | returnOutside
  | breakAfterThrow
  | missingInitializer (isConst : Bool)
  | missingUsingInitializer
  | usingPattern
  | usingInForIn (isAwait : Bool)
  | forAwaitLoop
  | forOfAsync
  | forOfLet
  | lexicalInStatement
  | asyncInStatement
  | generatorInStatement
  | missingCatch
  -- Functions and classes.
  | functionName
  | functionBody
  | getterParameters
  | setterParameters
  | setterRest
  | setterInitializer
  | invalidClass
  | constructorGenerator
  | constructorAsync
  | constructorAccessor
  | constructorPrivate
  | constructorField
  | staticPrototype
  | decoratorHere
  -- Imports and exports.
  | quotedExport
  | reservedExport
  | surrogateName
  | unexpectedExport
  | duplicateAttribute (name : String)
  -- Types.
  | emptyTypeParameters
  | emptyTypeArguments
  | modifierHere (name : String)
  | modifierOnParameter (name : String)
  | modifierOnTypeParameter (name : String)
  | modifierOnTypeMember (name : String)
  | modifierOnIndexer (name : String)
  | parameterProperty
  | modifierSeen (name : String)
  | accessibilitySeen
  | modifierOrder (first second : String)
  | abstractInConcrete
  | enumComputedName
  | enumNumericName
  | extendsMany
  | extendsTwice
  | implementsTwice
  | extendsAfterImplements
  | interfaceImplements
  | thisInArrow
  | decoratorOnOverload
  | typeOnlyImportBoth
  -- Markup.
  | elementClosing (name : String)
  | fragmentClosing
  | markupComma
  deriving DecidableEq, Inhabited, Repr

/-- The message about a fault. -/
def Fault.text : Fault → String
  | invalidCharacter c => "Invalid Character `" ++ c.toString ++ "`"
  | unexpectedEnd => "Unexpected end of file"
  | invalidNumberEnd => "Invalid characters after number"
  | unterminatedString => "Unterminated string"
  | unterminatedComment => "Unterminated multiline comment"
  | unterminatedRegex => "Unterminated regular expression"
  | invalidEscape => "Invalid escape sequence"
  | invalidUnicodeEscape => "Invalid Unicode escape sequence"
  | badTemplateEscape => "Bad escape sequence in untagged template literal"
  | regexFlag c => "Unexpected flag " ++ c.toString ++ " in regular expression literal"
  | regexFlagTwice c => "Flag " ++ c.toString ++ " is mentioned twice in regular expression literal"
  | regexFlagsUV => "The 'u' and 'v' regular expression flags cannot be enabled at the same time"
  | markupGreater => "Unexpected token. Did you mean `\x7b'>'\x7d` or `&gt;`?"
  | markupBrace => "Unexpected token. Did you mean `\x7b'\x7d'\x7d` or `&rbrace;`?"
  | escapedKeyword => "Keywords cannot contain escape characters"
  | unexpectedToken => "Unexpected token"
  | expected wanted found => "Expected `" ++ wanted.text ++ "` but found `" ++ found.text ++ "`"
  | missingSemicolon => "Expected a semicolon or an implicit semicolon after a statement, but found none"
  | flow => "Flow is not supported"
  | duplicateExport name => "Duplicated export '" ++ name ++ "'"
  | duplicateDefaultExport => "Duplicated default export"
  | identifierExpected => "Identifier expected."
  | reservedWord name =>
    "Identifier expected. '" ++ name ++ "' is a reserved word that cannot be used here."
  | awaitAsName => "Cannot use `await` as an identifier in an async context"
  | yieldAsName => "Cannot use `yield` as an identifier in a generator context"
  | cannotAssign => "Cannot assign to this expression"
  | invalidObjectAssignment => "Invalid assignment in object literal"
  | emptyParentheses => "Empty parenthesized expression"
  | parenthesesComma => "Parenthesized expressions may not have a trailing comma."
  | privateInPrivate => "Unexpected right-hand side of private-in expression"
  | unexpectedPower => "Unexpected exponentiation expression"
  | mixedCoalesce => "Logical expressions and coalesce expressions cannot be mixed"
  | awaitOutside => "`await` is only allowed within async functions and at the top levels of modules"
  | yieldOutside => "A 'yield' expression is only allowed in a generator body."
  | newTargetOnly => "The only valid meta property for new is new.target"
  | importMetaOnly => "The only valid meta property for import is import.meta"
  | unexpectedSuper => "'super' can only be used with function calls or in property accesses"
  | newImport => "Cannot use new with dynamic import"
  | newChain => "Optional chaining cannot appear in the callee of new expressions"
  | chainTemplate => "Tagged template expressions are not permitted in an optional chain"
  | importArguments =>
    "Dynamic imports can only accept a module specifier and an optional set of attributes as arguments"
  | importWithoutSpecifier => "import() requires a specifier."
  | breakBeforeArrow => "Line terminator not permitted before arrow"
  | restNotLast => "A rest element must be last in a destructuring pattern"
  | restTrailingComma => "A rest parameter or binding pattern may not have a trailing comma."
  | restInitializer => "A rest element cannot have an initializer."
  | restPattern => "Invalid rest element"
  | restParameterNotLast => "A rest parameter must be last in a parameter list"
  | spreadNotLast => "Spread must be last element"
  | returnOutside => "A 'return' statement can only be used within a function body."
  | breakAfterThrow => "Illegal newline after throw"
  | missingInitializer isConst =>
    if isConst then "Missing initializer in const declaration"
    else "Missing initializer in destructuring declaration"
  | missingUsingInitializer => "Using declarations must have an initializer."
  | usingPattern => "Using declarations may not have destructuring patterns."
  | usingInForIn isAwait =>
    if isAwait then "The left-hand side of a for...in statement cannot be an await using declaration."
    else "The left-hand side of a for...in statement cannot be an using declaration."
  | forAwaitLoop => "await can only be used in conjunction with `for...of` statements"
  | forOfAsync => "The left-hand side of a `for...of` statement may not be `async`"
  | forOfLet => "The left-hand side of a `for...of` statement may not start with `let`"
  | lexicalInStatement => "Lexical declaration cannot appear in a single-statement context"
  | asyncInStatement => "Async functions can only be declared at the top level or inside a block"
  | generatorInStatement => "Generators can only be declared at the top level or inside a block"
  | missingCatch => "Missing catch or finally clause"
  | functionName => "Expected function name"
  | functionBody => "Expected function body"
  | getterParameters => "A 'get' accessor must not have any formal parameters."
  | setterParameters => "A 'set' accessor must have exactly one parameter."
  | setterRest => "A 'set' accessor cannot have rest parameter."
  | setterInitializer => "A 'set' accessor parameter cannot have an initializer."
  | invalidClass => "Invalid class declaration"
  | constructorGenerator => "Constructor can't be a generator"
  | constructorAsync => "Constructor can't be an async method"
  | constructorAccessor => "Constructor can't have get/set modifier"
  | constructorPrivate => "Classes can't have an element named '#constructor'"
  | constructorField => "Classes can't have a field named 'constructor'"
  | staticPrototype => "Classes may not have a static property named prototype"
  | decoratorHere => "Decorators are not valid here."
  | quotedExport => "A string literal cannot be used as an exported binding without `from`"
  | surrogateName => "An export name cannot include a unicode lone surrogate"
  | reservedExport => "A reserved word cannot be used as an exported binding without `from`"
  | unexpectedExport => "Unexpected export."
  | duplicateAttribute name => "Identifier `" ++ name ++ "` has already been declared"
  | emptyTypeParameters => "Type parameter list cannot be empty."
  | emptyTypeArguments => "Type argument list cannot be empty."
  | modifierHere name => "'" ++ name ++ "' modifier cannot be used here."
  | modifierOnParameter name => "'" ++ name ++ "' modifier cannot appear on a parameter."
  | modifierOnTypeParameter name => "'" ++ name ++ "' modifier cannot appear on a type parameter."
  | modifierOnTypeMember name => "'" ++ name ++ "' modifier cannot appear on a type member."
  | modifierOnIndexer name => "'" ++ name ++ "' modifier cannot appear on an index signature."
  | parameterProperty => "A parameter property is only allowed in a constructor implementation."
  | modifierSeen name => "'" ++ name ++ "' modifier already seen."
  | accessibilitySeen => "Accessibility modifier already seen."
  | modifierOrder first second => "'" ++ first ++ "' modifier must precede '" ++ second ++ "' modifier."
  | abstractInConcrete => "Abstract methods can only appear within an abstract class."
  | enumComputedName => "Computed property names are not allowed in enums."
  | enumNumericName => "An enum member cannot have a numeric name."
  | extendsMany => "Classes can only extend a single class."
  | extendsTwice => "'extends' clause already seen."
  | implementsTwice => "'implements' clause already seen."
  | extendsAfterImplements => "'extends' clause must precede 'implements' clause."
  | interfaceImplements => "Interface declaration cannot have 'implements' clause."
  | thisInArrow => "An arrow function cannot have a 'this' parameter."
  | decoratorOnOverload => "A decorator can only decorate a method implementation, not an overload."
  | typeOnlyImportBoth =>
    "A type-only import can specify a default import or named bindings, but not both."
  | elementClosing name => "Expected corresponding JSX closing tag for '" ++ name ++ "'."
  | fragmentClosing => "Expected corresponding closing tag for JSX fragment."
  | markupComma => "JSX expressions may not use the comma operator"

end Bundler.Script
