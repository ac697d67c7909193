import Bundler.Number.Magnitude
import Bundler.Script.Scan.Basic

/-!
# Numbers

Number literals: decimal, with a fraction or an exponent, and in other bases. Underscores may separate digits, and the
mark `n` makes a big integer.
-/

namespace Bundler.Script

/-- Some digits and what is wrong with them. -/
structure DigitRun where
  cursor : Cursor
  faults : List Fault

/-- Reads digits after the first one; an underscore must stand between digits. -/
def DigitRun.tail (p : Char → Bool) : List Char → Nat → DigitRun
  | '_' :: c :: rest, n =>
    if p c then tail p rest (n + 2) else ⟨⟨c :: rest, n + 1⟩, [.invalidCharacter c]⟩
  | ['_'], n => ⟨⟨[], n + 1⟩, [.unexpectedEnd]⟩
  | c :: rest, n => if p c then tail p rest (n + 1) else ⟨⟨c :: rest, n⟩, []⟩
  | [], n => ⟨⟨[], n⟩, []⟩

/-- Reads digits, at least one. -/
def DigitRun.read (p : Char → Bool) (c : Cursor) : DigitRun :=
  match c.rest with
  | ch :: rest => if p ch then tail p rest (c.offset + 1) else ⟨c, [c.unexpected]⟩
  | [] => ⟨c, [.unexpectedEnd]⟩

/-- Reads digits, perhaps none. -/
def DigitRun.readAny (p : Char → Bool) (c : Cursor) : DigitRun :=
  match c.rest with
  | ch :: rest => if p ch then tail p rest (c.offset + 1) else ⟨c, []⟩
  | [] => ⟨c, []⟩

/-- After a number there must be no digit and no name. -/
def endNumber (kind : TokenKind) (c : Cursor) : Scanned :=
  match c.rest with
  | ch :: _ =>
    if ch.isDigit || isWordStart ch then .fail .invalidNumberEnd ((c.skip 1).skipWhile isWordStart)
    else .plain kind c
  | [] => .plain kind c

/-- Reads an exponent after its mark. -/
def scanExponent (c : Cursor) : NumberForm × DigitRun :=
  match c.rest with
  | '-' :: _ => (.negativeExponent, .read Char.isDigit (c.skip 1))
  | '+' :: _ => (.exponent, .read Char.isDigit (c.skip 1))
  | _ => (.exponent, .read Char.isDigit c)

/-- Reads an exponent, if there is one, and ends the number. -/
def scanNumberEnd (form : NumberForm) (replace : Bool) (c : Cursor) : Scanned :=
  match c.rest with
  | 'e' :: _ | 'E' :: _ =>
    let (exponentForm, run) := scanExponent (c.skip 1)
    (endNumber (.number (if replace then exponentForm else form)) run.cursor).after run.faults
  | _ => endNumber (.number form) c

/-- Reads a fraction after the point; `needed` asks for a digit. -/
def scanFraction (needed : Bool) (c : Cursor) : Scanned :=
  let run := if needed then DigitRun.read Char.isDigit c else DigitRun.readAny Char.isDigit c
  (scanNumberEnd .float false run.cursor).after run.faults

/-- Reads the digits of a number in another base, after the mark of the base. -/
def scanBased (form : NumberForm) (p : Char → Bool) (c : Cursor) : Scanned :=
  let run := DigitRun.read p c
  match run.faults with
  | fault :: _ => .fail fault run.cursor
  | [] =>
    match run.cursor.rest with
    | 'n' :: _ => endNumber .bigint (run.cursor.skip 1)
    | _ => endNumber (.number form) run.cursor

/-- Reads a number that begins with a zero and another digit: octal, unless a digit is 8 or 9. -/
def scanZeroDigits (c : Cursor) : Scanned :=
  let stop := c.skipWhile Char.isDigit
  let isDecimal := (c.rest.takeWhile Char.isDigit).any fun d => d == '8' || d == '9'
  match isDecimal, stop.rest with
  | true, '.' :: _ => scanFraction false (stop.skip 1)
  | true, 'e' :: _ =>
    let (form, run) := scanExponent (stop.skip 1)
    (Scanned.plain (.number form) run.cursor).after run.faults
  | true, _ => endNumber (.number .decimal) stop
  | false, _ => endNumber (.number .octal) stop

/-- Reads a number whose first character is a zero, from after the zero. -/
def scanZero (c : Cursor) : Scanned :=
  match c.rest with
  | 'b' :: _ | 'B' :: _ => scanBased .binary isBinaryDigit (c.skip 1)
  | 'o' :: _ | 'O' :: _ => scanBased .octal isOctalDigit (c.skip 1)
  | 'x' :: _ | 'X' :: _ => scanBased .hexadecimal isHexDigit (c.skip 1)
  | 'e' :: _ | 'E' :: _ =>
    let (form, run) := scanExponent (c.skip 1)
    (Scanned.plain (.number form) run.cursor).after run.faults
  | '.' :: _ => scanFraction false (c.skip 1)
  | 'n' :: _ => endNumber .bigint (c.skip 1)
  | d :: _ => if d.isDigit then scanZeroDigits c else endNumber (.number .decimal) c
  | [] => .plain (.number .decimal) c

/-- Reads a number that begins with a digit. -/
def scanNumber (c : Cursor) : Scanned :=
  match c.rest with
  | '0' :: _ => scanZero (c.skip 1)
  | _ =>
    let run := DigitRun.tail Char.isDigit (c.rest.drop 1) (c.offset + 1)
    (match run.cursor.rest with
      | '.' :: _ => scanFraction false (run.cursor.skip 1)
      | 'n' :: _ => endNumber .bigint (run.cursor.skip 1)
      | _ => scanNumberEnd .decimal true run.cursor).after run.faults

/-! ## Values -/

/-- The value of a decimal literal without underscores. -/
def decimalValue (digits : List Char) : Magnitude :=
  let whole := digits.takeWhile Char.isDigit
  let rest := digits.dropWhile Char.isDigit
  let (fraction, rest) := match rest with
    | '.' :: rest => (rest.takeWhile Char.isDigit, rest.dropWhile Char.isDigit)
    | _ => ([], rest)
  let (isNegative, exponent) := match rest.drop 1 with
    | '-' :: rest => (true, digitsValue 10 rest)
    | rest => (false, digitsValue 10 rest)
  let power : Int := (if isNegative then -(exponent : Int) else exponent) - fraction.length
  .ofDecimal (digitsValue 10 (whole ++ fraction)) power

/-- The value of a number literal. -/
def numberValue (form : NumberForm) (spelling : List Char) : Magnitude :=
  let digits := spelling.filter (· != '_')
  match form with
  | .binary => .ofNat (digitsValue 2 (digits.drop 2))
  | .hexadecimal => .ofNat (digitsValue 16 (digits.drop 2))
  | .octal => .ofNat (digitsValue 8 (digits.filter Char.isDigit))
  | _ => decimalValue digits

/-- The value of a big integer literal. -/
def bigintValue (spelling : List Char) : Nat :=
  match spelling.filter fun c => c != '_' && c != 'n' with
  | '0' :: 'x' :: digits | '0' :: 'X' :: digits => digitsValue 16 digits
  | '0' :: 'o' :: digits | '0' :: 'O' :: digits => digitsValue 8 digits
  | '0' :: 'b' :: digits | '0' :: 'B' :: digits => digitsValue 2 digits
  | digits => digitsValue 10 digits

end Bundler.Script
