import Bundler.Config.Fault
import Bundler.Number.Shortest

/-!
# Scalars of a settings file

Readers for strings, words and numbers. Where a value of another kind was expected, the value is still read and named in
the fault, so that a fault in its form comes first.
-/

namespace Bundler.Config

def quote : UInt8 := 0x22

def backslash : UInt8 := 0x5C

/-! ## Strings -/

/-- The value of a hexadecimal digit. -/
def hexValue? (b : UInt8) : Option Nat :=
  let n := b.toNat
  if 0x30 ≤ n && n ≤ 0x39 then some (n - 0x30)
  else if 0x41 ≤ n && n ≤ 0x46 then some (n - 0x41 + 10)
  else if 0x61 ≤ n && n ≤ 0x66 then some (n - 0x61 + 10)
  else none

/-- Reads four hexadecimal digits. -/
def hexQuad (rest : List UInt8) : Except Fault (Nat × List UInt8) :=
  match rest with
  | a :: b :: c :: d :: rest =>
    match hexValue? a, hexValue? b, hexValue? c, hexValue? d with
    | some a, some b, some c, some d => .ok (((a * 16 + b) * 16 + c) * 16 + d, rest)
    | _, _, _, _ => faultAt .invalidEscape rest
  | _ => faultAt .unclosedString []

/-- Reads `\` and `u` before the second half of a surrogate pair. -/
def pairMark (rest : List UInt8) : Except Fault (Unit × List UInt8) :=
  match rest with
  | [] => faultAt .unclosedString []
  | b :: rest =>
    if b ≠ backslash then faultAt .brokenSurrogatePair rest
    else
      match rest with
      | [] => faultAt .unclosedString []
      | c :: rest => if c ≠ 0x75 then faultAt .brokenSurrogatePair rest else .ok ((), rest)

/-- Reads a character after `\u`: four digits, or two times four for a character beyond U+FFFF. -/
def hexEscape (rest : List UInt8) : Except Fault (Char × List UInt8) := do
  let (first, rest) ← hexQuad rest
  if 0xDC00 ≤ first && first ≤ 0xDFFF then faultAt .loneSurrogate rest
  else if first < 0xD800 || 0xDBFF < first then .ok (Char.ofNat first, rest)
  else
    let ((), rest) ← pairMark rest
    let (second, rest) ← hexQuad rest
    if second < 0xDC00 || 0xDFFF < second then faultAt .loneSurrogate rest
    else .ok (Char.ofNat (0x10000 + (first - 0xD800) * 0x400 + (second - 0xDC00)), rest)

/-- Reads what stands behind a `\`. -/
def escape (rest : List UInt8) : Except Fault (Char × List UInt8) :=
  match rest with
  | [] => faultAt .unclosedString []
  | b :: rest =>
    match Char.ofNat b.toNat with
    | '"' => .ok ('"', rest)
    | '\\' => .ok ('\\', rest)
    | '/' => .ok ('/', rest)
    | 'b' => .ok ('\x08', rest)
    | 'f' => .ok ('\x0c', rest)
    | 'n' => .ok ('\n', rest)
    | 'r' => .ok ('\r', rest)
    | 't' => .ok ('\t', rest)
    | 'u' => hexEscape rest
    | _ => faultAt .invalidEscape rest

/-- Reads up to the closing quote; `fuel` bounds the number of characters and is taken from the length of the text. -/
def stringBody : Nat → List UInt8 → List UInt8 → Except Fault (List UInt8 × List UInt8)
  | 0, _, rest => faultAt .unclosedString rest
  | fuel + 1, readSoFar, rest =>
    match rest with
    | [] => faultAt .unclosedString []
    | b :: rest =>
      if b = quote then .ok (readSoFar.reverse, rest)
      else if b = backslash then
        match escape rest with
        | .error fault => .error fault
        | .ok (c, rest) => stringBody fuel ((String.utf8EncodeChar c).reverse ++ readSoFar) rest
      else if b < 0x20 then faultAt .controlCharacter rest
      else stringBody fuel (b :: readSoFar) rest

/-- Reads a string whose opening quote is read. -/
def stringAfterQuote (rest : List UInt8) : Except Fault (String × List UInt8) := do
  let (bytes, rest) ← stringBody (rest.length + 1) [] rest
  .ok (Utf8.decodeLossy bytes, rest)

/-! ## Words -/

/-- Reads the rest of a word of which the first letter is read. -/
def wordRest : List UInt8 → List UInt8 → Except Fault (Unit × List UInt8)
  | [], rest => .ok ((), rest)
  | _ :: _, [] => faultAt .missingValue []
  | letter :: letters, b :: rest => if b = letter then wordRest letters rest else faultAt .expectedWord rest

/-! ## Numbers -/

def isDigit (b : UInt8) : Bool :=
  0x30 ≤ b && b ≤ 0x39

def digitValue (b : UInt8) : Nat :=
  b.toNat - 0x30

def nextIs (p : UInt8 → Bool) (rest : List UInt8) : Bool :=
  match rest with
  | [] => false
  | b :: _ => p b

/-- The largest whole number that is kept exactly. -/
def maxWhole : Nat := Nat.pow 2 64 - 1

/-- The largest exponent that is counted. -/
def maxExponent : Nat := Nat.pow 2 31 - 1

/-- A number as a settings file spells it. -/
inductive Number where
  | whole (value : Int)
  | real (negative : Bool) (value : Magnitude)
  deriving DecidableEq, Inhabited, Repr

def Number.text : Number → String
  | .whole value => "integer `" ++ toString value ++ "`"
  | .real negative value =>
    "floating point `" ++ (if negative then "-" else "") ++ String.ofList (value.text messageNumber) ++ "`"

/-- Divides by powers of ten until the exponent is in reach. -/
def scaleTiny : Nat → Magnitude → Int → Magnitude
  | 0, _, _ => .zero
  | steps + 1, value, exponent =>
    if exponent ≥ -308 then value.div (.ofDecimal 1 (-exponent))
    else if value.isZero then value
    else scaleTiny steps (value.div (.ofDecimal 1 308)) (exponent + 308)

/-- The value of `significand * 10 ^ exponent`, rounded once for the significand and once for every power of ten. -/
def realOf (negative : Bool) (significand : Nat) (exponent : Int) (rest : List UInt8) :
    Except Fault (Number × List UInt8) :=
  let value := Magnitude.ofNat significand
  if exponent ≥ 0 then
    if exponent > 308 then
      if value.isZero then .ok (.real negative value, rest) else faultAt .numberOutOfRange rest
    else
      match value.mul (.ofDecimal 1 exponent) with
      | .infinite => faultAt .numberOutOfRange rest
      | product => .ok (.real negative product, rest)
  else .ok (.real negative (scaleTiny 4 value exponent), rest)

/-- Reads the digits of an exponent, the first of which is read. -/
def exponentDigits (negative : Bool) (significand : Nat) (start : Int) (isPositive : Bool) :
    Nat → List UInt8 → Except Fault (Number × List UInt8)
  | exponent, [] => realOf negative significand (if isPositive then start + exponent else start - exponent) []
  | exponent, b :: rest =>
    if isDigit b then
      let longer := exponent * 10 + digitValue b
      if longer > maxExponent then
        if significand ≠ 0 && isPositive then faultAt .numberOutOfRange rest
        else .ok (.real negative .zero, rest.dropWhile isDigit)
      else exponentDigits negative significand start isPositive longer rest
    else
      realOf negative significand (if isPositive then start + exponent else start - exponent) (b :: rest)

/-- Reads an exponent whose mark is read. -/
def exponentPart (negative : Bool) (significand : Nat) (start : Int) (rest : List UInt8) :
    Except Fault (Number × List UInt8) :=
  let (isPositive, rest) := match rest with
    | 0x2B :: rest => (true, rest)
    | 0x2D :: rest => (false, rest)
    | rest => (true, rest)
  match rest with
  | [] => faultAt .missingValue []
  | b :: rest =>
    if isDigit b then exponentDigits negative significand start isPositive (digitValue b) rest
    else faultAt .invalidNumber rest

/-- Goes on behind the digits of a number: with an exponent if one follows. -/
def exponentOrEnd (negative : Bool) (significand : Nat) (start : Int) (rest : List UInt8) :
    Except Fault (Number × List UInt8) :=
  match rest with
  | 0x65 :: rest => exponentPart negative significand start rest
  | 0x45 :: rest => exponentPart negative significand start rest
  | rest => realOf negative significand start rest

/-- Reads digits behind the point. Those that no longer fit are dropped. -/
def fractionDigits (negative : Bool) (start : Int) : Nat → Nat → List UInt8 → Except Fault (Number × List UInt8)
  | significand, count, [] =>
    if count = 0 then faultAt .missingValue [] else realOf negative significand (start - count) []
  | significand, count, b :: rest =>
    if isDigit b then
      let longer := significand * 10 + digitValue b
      if longer > maxWhole then
        exponentOrEnd negative significand (start - count) ((b :: rest).dropWhile isDigit)
      else fractionDigits negative start longer (count + 1) rest
    else if count = 0 then faultOver .invalidNumber (b :: rest)
    else exponentOrEnd negative significand (start - count) (b :: rest)

/-- Goes on behind the whole digits: with a fraction or an exponent if one follows. -/
def fractionOrEnd (negative : Bool) (significand : Nat) (start : Int) (rest : List UInt8) :
    Except Fault (Number × List UInt8) :=
  match rest with
  | 0x2E :: rest => fractionDigits negative start significand 0 rest
  | rest => exponentOrEnd negative significand start rest

/-- A number without fraction and exponent; minus zero and numbers below the 64-bit range are real numbers. -/
def wholeOf (negative : Bool) (significand : Nat) (rest : List UInt8) : Except Fault (Number × List UInt8) :=
  if !negative then .ok (.whole significand, rest)
  else if significand = 0 || significand > Nat.pow 2 63 then .ok (.real true (.ofNat significand), rest)
  else .ok (.whole (-significand), rest)

/-- Reads whole digits. -/
def wholeDigits (negative : Bool) : Nat → List UInt8 → Except Fault (Number × List UInt8)
  | significand, [] => wholeOf negative significand []
  | significand, b :: rest =>
    if isDigit b then
      let longer := significand * 10 + digitValue b
      if longer > maxWhole then
        let digits := (b :: rest).takeWhile isDigit
        fractionOrEnd negative significand digits.length ((b :: rest).dropWhile isDigit)
      else wholeDigits negative longer rest
    else if b = 0x2E || b = 0x65 || b = 0x45 then fractionOrEnd negative significand 0 (b :: rest)
    else wholeOf negative significand (b :: rest)

/-- Reads a number behind its sign. -/
def number (negative : Bool) (rest : List UInt8) : Except Fault (Number × List UInt8) :=
  match rest with
  | [] => faultAt .missingValue []
  | b :: rest =>
    if b = 0x30 then
      if nextIs isDigit rest then faultOver .invalidNumber rest else wholeDigits negative 0 rest
    else if isDigit b then wholeDigits negative (digitValue b) rest
    else faultAt .invalidNumber rest

/-! ## Values of the wrong kind -/

/-- Characters that messages spell out: controls, blanks other than the space, marks and invisible characters. -/
def isSpelledOut (n : Nat) : Bool :=
  n < 0x20 || (0x7F ≤ n && n ≤ 0xA0) || n == 0xAD || (0x300 ≤ n && n ≤ 0x36F) || (0x483 ≤ n && n ≤ 0x489) ||
  (0x591 ≤ n && n ≤ 0x5BD) || (0x600 ≤ n && n ≤ 0x605) || (0x610 ≤ n && n ≤ 0x61A) || n == 0x61C ||
  (0x64B ≤ n && n ≤ 0x65F) || n == 0x1680 || n == 0x180E || (0x1AB0 ≤ n && n ≤ 0x1ACE) ||
  (0x1DC0 ≤ n && n ≤ 0x1DFF) || (0x2000 ≤ n && n ≤ 0x200F) || (0x2028 ≤ n && n ≤ 0x202F) ||
  (0x205F ≤ n && n ≤ 0x206F) || (0x20D0 ≤ n && n ≤ 0x20F0) || n == 0x3000 || (0x302A ≤ n && n ≤ 0x302F) ||
  (0xE000 ≤ n && n ≤ 0xF8FF) || (0xFE00 ≤ n && n ≤ 0xFE0F) || (0xFE20 ≤ n && n ≤ 0xFE2F) || n == 0xFEFF ||
  (0xFFF0 ≤ n && n ≤ 0xFFFB) || n == 0xFFFE || n == 0xFFFF || 0xE0000 ≤ n

/-- How a character stands in a quoted text of a message. -/
def quotedChar (c : Char) : List Char :=
  match c with
  | '\x00' => ['\\', '0']
  | '\t' => ['\\', 't']
  | '\n' => ['\\', 'n']
  | '\r' => ['\\', 'r']
  | '"' => ['\\', '"']
  | '\\' => ['\\', '\\']
  | c => if isSpelledOut c.toNat then '\\' :: 'u' :: '\x7b' :: hexDigits c.toNat ++ ['\x7d'] else [c]

/-- A text in quotes, as messages show it. -/
def quoted (text : String) : String :=
  "\"" ++ String.ofList (text.toList.flatMap quotedChar) ++ "\""

/-- The fault of a value that is not of the expected kind, placed behind the value. -/
def wrongKind {α : Type} (expected found : String) (rest : List UInt8) : Except Fault (α × List UInt8) :=
  .error (.meaning (.wrongKind found expected) rest.length)

/-- Reads the value that stands in place of the expected one and refuses it. -/
def refuseValue {α : Type} (expected : String) (rest : List UInt8) : Except Fault (α × List UInt8) :=
  match rest with
  | [] => faultOver .expectedValue []
  | b :: tail =>
    match Char.ofNat b.toNat with
    | 'n' => do
      let ((), rest) ← wordRest "ull".toUTF8.toList tail
      wrongKind expected "null" rest
    | 't' => do
      let ((), rest) ← wordRest "rue".toUTF8.toList tail
      wrongKind expected "boolean `true`" rest
    | 'f' => do
      let ((), rest) ← wordRest "alse".toUTF8.toList tail
      wrongKind expected "boolean `false`" rest
    | '-' => do
      let (found, rest) ← number true tail
      wrongKind expected found.text rest
    | '"' => do
      let (found, rest) ← stringAfterQuote tail
      wrongKind expected ("string " ++ quoted found) rest
    | '[' => wrongKind expected "sequence" (b :: tail)
    | '\x7b' => wrongKind expected "map" (b :: tail)
    | _ =>
      if isDigit b then do
        let (found, rest) ← number false (b :: tail)
        wrongKind expected found.text rest
      else faultOver .expectedValue (b :: tail)

/-- Reads a string. -/
def stringValue (rest : List UInt8) : Except Fault (String × List UInt8) :=
  match skipBlanks rest with
  | [] => faultOver .missingValue []
  | b :: tail => if b = quote then stringAfterQuote tail else refuseValue "a string" (b :: tail)

/-- Reads `true` or `false`. -/
def boolValue (rest : List UInt8) : Except Fault (Bool × List UInt8) :=
  match skipBlanks rest with
  | [] => faultOver .missingValue []
  | b :: tail =>
    if b = 0x74 then do
      let ((), rest) ← wordRest "rue".toUTF8.toList tail
      .ok (true, rest)
    else if b = 0x66 then do
      let ((), rest) ← wordRest "alse".toUTF8.toList tail
      .ok (false, rest)
    else refuseValue "a boolean" (b :: tail)

/-- Reads `null` or a value. -/
def optionalValue {α : Type} (value : List UInt8 → Except Fault (α × List UInt8)) (rest : List UInt8) :
    Except Fault (Option α × List UInt8) :=
  match skipBlanks rest with
  | 0x6E :: tail => do
    let ((), rest) ← wordRest "ull".toUTF8.toList tail
    .ok (none, rest)
  | rest => do
    let (found, rest) ← value rest
    .ok (some found, rest)

end Bundler.Config
