import Bundler.Script.Operator

/-!
# Tokens

The words and signs of scripts, and the kinds of tokens with the names that messages use for them.
-/

namespace Bundler.Script

/-! ## Signs -/

/-- The punctuation of scripts. -/
inductive Sign where
  | leftBrace
  | rightBrace
  | leftParen
  | rightParen
  | leftBracket
  | rightBracket
  | dot
  | ellipsis
  | semicolon
  | comma
  | colon
  | atSign
  | arrow
  | question
  | questionDot
  | doubleQuestion
  | doubleQuestionEqual
  | equal
  | doubleEqual
  | tripleEqual
  | bang
  | bangEqual
  | bangDoubleEqual
  | less
  | lessEqual
  | doubleLess
  | doubleLessEqual
  | greater
  | greaterEqual
  | doubleGreater
  | doubleGreaterEqual
  | tripleGreater
  | tripleGreaterEqual
  | plus
  | doublePlus
  | plusEqual
  | minus
  | doubleMinus
  | minusEqual
  | star
  | doubleStar
  | starEqual
  | doubleStarEqual
  | slash
  | slashEqual
  | percent
  | percentEqual
  | amp
  | doubleAmp
  | ampEqual
  | doubleAmpEqual
  | pipe
  | doublePipe
  | pipeEqual
  | doublePipeEqual
  | caret
  | caretEqual
  | tilde
  deriving DecidableEq, Inhabited, Repr

namespace Sign

/-- The signs that are read as one token, with their spelling, the longer ones first. -/
def spellings : List (List Char × Sign) := [
  (['.', '.', '.'], ellipsis), (['?', '?', '='], doubleQuestionEqual), (['=', '=', '='], tripleEqual),
  (['!', '=', '='], bangDoubleEqual), (['<', '<', '='], doubleLessEqual), (['*', '*', '='], doubleStarEqual),
  (['&', '&', '='], doubleAmpEqual), (['|', '|', '='], doublePipeEqual), (['=', '>'], arrow),
  (['?', '.'], questionDot), (['?', '?'], doubleQuestion), (['=', '='], doubleEqual), (['!', '='], bangEqual),
  (['<', '='], lessEqual), (['<', '<'], doubleLess), (['+', '+'], doublePlus), (['+', '='], plusEqual),
  (['-', '-'], doubleMinus), (['-', '='], minusEqual), (['*', '*'], doubleStar), (['*', '='], starEqual),
  (['/', '='], slashEqual), (['%', '='], percentEqual), (['&', '&'], doubleAmp), (['&', '='], ampEqual),
  (['|', '|'], doublePipe), (['|', '='], pipeEqual), (['^', '='], caretEqual), (['\x7b'], leftBrace),
  (['\x7d'], rightBrace), (['('], leftParen), ([')'], rightParen), (['['], leftBracket), ([']'], rightBracket),
  (['.'], dot), ([';'], semicolon), ([','], comma), ([':'], colon), (['@'], atSign), (['?'], question),
  (['='], equal), (['!'], bang), (['<'], less), (['>'], greater), (['+'], plus), (['-'], minus), (['*'], star),
  (['/'], slash), (['%'], percent), (['&'], amp), (['|'], pipe), (['^'], caret), (['~'], tilde)]

/-- The signs that begin with `>`, which only an expression puts together. -/
def combinedSpellings : List (List Char × Sign) := [
  (['>', '='], greaterEqual), (['>', '>'], doubleGreater), (['>', '>', '='], doubleGreaterEqual),
  (['>', '>', '>'], tripleGreater), (['>', '>', '>', '='], tripleGreaterEqual)]

def text (s : Sign) : String :=
  (((spellings ++ combinedSpellings).find? fun p => p.2 = s).map fun p => String.ofList p.1).getD ""

end Sign

/-! ## Words -/

/-- The words with a meaning of their own. -/
inductive Keyword where
  -- Reserved everywhere.
  | awaitWord
  | breakWord
  | caseWord
  | catchWord
  | classWord
  | constWord
  | continueWord
  | debuggerWord
  | defaultWord
  | deleteWord
  | doWord
  | elseWord
  | enumWord
  | exportWord
  | extendsWord
  | finallyWord
  | forWord
  | functionWord
  | ifWord
  | importWord
  | inWord
  | instanceofWord
  | newWord
  | returnWord
  | superWord
  | switchWord
  | thisWord
  | throwWord
  | tryWord
  | typeofWord
  | varWord
  | voidWord
  | whileWord
  | withWord
  | nullWord
  | trueWord
  | falseWord
  | yieldWord
  -- Reserved in strict code.
  | letWord
  | staticWord
  | implementsWord
  | interfaceWord
  | packageWord
  | privateWord
  | protectedWord
  | publicWord
  -- Words with a meaning in some places.
  | asyncWord
  | fromWord
  | getWord
  | metaWord
  | ofWord
  | setWord
  | targetWord
  | accessorWord
  | sourceWord
  | deferWord
  | abstractWord
  | asWord
  | assertsWord
  | assertWord
  | anyWord
  | booleanWord
  | constructorWord
  | declareWord
  | inferWord
  | intrinsicWord
  | isWord
  | keyofWord
  | moduleWord
  | namespaceWord
  | neverWord
  | outWord
  | readonlyWord
  | requireWord
  | numberWord
  | objectWord
  | satisfiesWord
  | stringWord
  | symbolWord
  | typeWord
  | undefinedWord
  | uniqueWord
  | usingWord
  | unknownWord
  | globalWord
  | bigintWord
  | overrideWord
  deriving DecidableEq, Inhabited, Repr

namespace Keyword

/-- The words that can never be names. -/
def isReserved : Keyword → Bool
  | awaitWord | breakWord | caseWord | catchWord | classWord | constWord | continueWord | debuggerWord
  | defaultWord | deleteWord | doWord | elseWord | enumWord | exportWord | extendsWord | finallyWord
  | forWord | functionWord | ifWord | importWord | inWord | instanceofWord | newWord | returnWord
  | superWord | switchWord | thisWord | throwWord | tryWord | typeofWord | varWord | voidWord
  | whileWord | withWord | nullWord | trueWord | falseWord | yieldWord => true
  | _ => false

/-- The words with their spelling. -/
def spellings : List (Keyword × String) := [
  (awaitWord, "await"), (breakWord, "break"), (caseWord, "case"), (catchWord, "catch"), (classWord, "class"),
  (constWord, "const"), (continueWord, "continue"), (debuggerWord, "debugger"), (defaultWord, "default"),
  (deleteWord, "delete"), (doWord, "do"), (elseWord, "else"), (enumWord, "enum"), (exportWord, "export"),
  (extendsWord, "extends"), (finallyWord, "finally"), (forWord, "for"), (functionWord, "function"),
  (ifWord, "if"), (importWord, "import"), (inWord, "in"), (instanceofWord, "instanceof"), (newWord, "new"),
  (returnWord, "return"), (superWord, "super"), (switchWord, "switch"), (thisWord, "this"), (throwWord, "throw"),
  (tryWord, "try"), (typeofWord, "typeof"), (varWord, "var"), (voidWord, "void"), (whileWord, "while"),
  (withWord, "with"), (nullWord, "null"), (trueWord, "true"), (falseWord, "false"), (yieldWord, "yield"),
  (letWord, "let"), (staticWord, "static"), (implementsWord, "implements"), (interfaceWord, "interface"),
  (packageWord, "package"), (privateWord, "private"), (protectedWord, "protected"), (publicWord, "public"),
  (asyncWord, "async"), (fromWord, "from"), (getWord, "get"), (metaWord, "meta"), (ofWord, "of"),
  (setWord, "set"), (targetWord, "target"), (accessorWord, "accessor"), (sourceWord, "source"),
  (deferWord, "defer"), (abstractWord, "abstract"), (asWord, "as"), (assertsWord, "asserts"),
  (assertWord, "assert"), (anyWord, "any"), (booleanWord, "boolean"), (constructorWord, "constructor"),
  (declareWord, "declare"), (inferWord, "infer"), (intrinsicWord, "intrinsic"), (isWord, "is"),
  (keyofWord, "keyof"), (moduleWord, "module"), (namespaceWord, "namespace"), (neverWord, "never"),
  (outWord, "out"), (readonlyWord, "readonly"), (requireWord, "require"), (numberWord, "number"),
  (objectWord, "object"), (satisfiesWord, "satisfies"), (stringWord, "string"), (symbolWord, "symbol"),
  (typeWord, "type"), (undefinedWord, "undefined"), (uniqueWord, "unique"), (usingWord, "using"),
  (unknownWord, "unknown"), (globalWord, "global"), (bigintWord, "bigint"), (overrideWord, "override")]

def text (k : Keyword) : String :=
  ((spellings.find? fun p => p.1 = k).map Prod.snd).getD ""

/-- The word with a spelling. -/
def ofText? (name : String) : Option Keyword :=
  (spellings.find? fun p => p.2 = name).map Prod.fst

end Keyword

/-! ## Kinds of tokens -/

/-- How a number is written. -/
inductive NumberForm where
  | decimal
  | float
  | exponent
  | negativeExponent
  | binary
  | octal
  | hexadecimal
  deriving DecidableEq, Inhabited, Repr

def NumberForm.text : NumberForm → String
  | decimal => "decimal"
  | float => "float"
  | exponent => "e"
  | negativeExponent => "-e"
  | binary => "binary"
  | octal => "octal"
  | hexadecimal => "hex"

/-- Which part of a template literal a token is. -/
inductive TemplatePart where
  | whole
  | first
  | middle
  | last
  deriving DecidableEq, Inhabited, Repr

inductive TokenKind where
  /-- No token could be read. -/
  | invalid
  | endOfText
  /-- The first line of a program that names its interpreter. -/
  | interpreter
  | identifier
  | keyword (word : Keyword)
  | privateName
  | number (form : NumberForm)
  | bigint
  | string
  | template (part : TemplatePart)
  | regex
  /-- Text between elements of markup. -/
  | markupText
  | sign (sign : Sign)
  deriving DecidableEq, Inhabited, Repr

namespace TokenKind

/-- The name of a kind in messages. -/
def text : TokenKind → String
  | invalid => "Unknown"
  | endOfText => "EOF"
  | interpreter => "#!"
  | identifier => "Identifier"
  | keyword word => word.text
  | privateName => "#identifier"
  | number form => form.text
  | bigint => "bigint"
  | string => "string"
  | template _ => "$\x7b\x7d"
  | regex => "/regexp/"
  | markupText => "jsx"
  | sign s => s.text

/-- Any word, with or without a meaning of its own. -/
def isAnyName : TokenKind → Bool
  | identifier | keyword _ => true
  | _ => false

/-- A word that is not reserved. -/
def isName : TokenKind → Bool
  | identifier => true
  | keyword word => !word.isReserved
  | _ => false

/-- A word that can be bound, where `await` and `yield` are left to later checks. -/
def isBindable (k : TokenKind) : Bool :=
  k.isName || k = keyword .awaitWord || k = keyword .yieldWord

def isNumber : TokenKind → Bool
  | number _ => true
  | _ => false

/-- A kind that can be the name of a property as it stands. -/
def isLiteralKey : TokenKind → Bool
  | identifier | keyword _ | string | number _ | bigint => true
  | _ => false

end TokenKind

/-- A token of the source. -/
structure Token where
  kind : TokenKind
  start : Nat
  stop : Nat
  /-- A line break stands before the token. -/
  onNewLine : Bool
  /-- The token is a word with an escape in it. -/
  escaped : Bool
  /-- The code points that a word or a string stands for. -/
  codes : List Nat
  /-- A template holds an escape without a meaning. -/
  badEscape : Bool
  /-- The source from the token on. -/
  source : List Char
  deriving Inhabited

namespace Token

/-- The characters of the token as they are written. -/
def spelling (t : Token) : List Char :=
  t.source.take (t.stop - t.start)

/-- The word that the token stands for. -/
def name (t : Token) : String :=
  String.ofList (t.codes.map Char.ofNat)

end Token

end Bundler.Script
