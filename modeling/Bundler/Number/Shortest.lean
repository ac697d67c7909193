import Bundler.Number.Magnitude

/-!
# The shortest decimal

The fewest decimal digits that read back as a given value, and among the decimals with so few digits the one nearest to
it. The decimals that read back form an interval around the value: it reaches half way to both neighbours, and its ends
belong to it when the mantissa is even.
-/

namespace Bundler

/-- A decimal number: `digits * 10 ^ exponent`, the digits without trailing zeros. -/
structure Decimal where
  digits : Nat
  exponent : Int
  deriving DecidableEq, Inhabited, Repr

namespace Decimal

/-- The decimals that read back as a value, as quotients over one denominator. -/
structure Interval where
  low : Nat
  value : Nat
  high : Nat
  den : Nat
  /-- The ends belong to the interval. -/
  closed : Bool

/-- Half way to both neighbours; below a power of two the neighbours are twice as close. -/
def Interval.around (m : Nat) (exponent : Int) : Interval :=
  let (below, above) := if m = Nat.pow 2 52 && exponent > Magnitude.minExponent then (1, 2) else (2, 2)
  let (num, den) := Magnitude.toQuotient 1 exponent
  ⟨(4 * m - below) * num, 4 * m * num, (4 * m + above) * num, 4 * den, m % 2 == 0⟩

/-- Whether `digits * 10 ^ exponent` lies in the interval. -/
def Interval.contains (i : Interval) (digits : Nat) (exponent : Int) : Bool :=
  let (n, d) := if exponent ≥ 0 then (digits * Nat.pow 10 exponent.toNat, 1) else (digits, Nat.pow 10 (-exponent).toNat)
  let x := n * i.den
  if i.closed then i.low * d ≤ x && x ≤ i.high * d else i.low * d < x && x < i.high * d

/-- The multiple of `10 ^ exponent` in the interval that is nearest to the value, a tie to the even one. -/
def Interval.nearest? (i : Interval) (exponent : Int) : Option Nat :=
  let (n, d) := if exponent ≥ 0 then (i.value, i.den * Nat.pow 10 exponent.toNat) else (i.value * Nat.pow 10 (-exponent).toNat, i.den)
  let near := Magnitude.divRound n d
  let far := if near * d > n then near - 1 else near + 1
  if i.contains near exponent then some near
  else if i.contains far exponent then some far
  else none

/-- Searches the grids from coarse to fine. -/
def search (i : Interval) : Nat → Int → Decimal
  | 0, exponent => ⟨(i.nearest? exponent).getD 0, exponent⟩
  | steps + 1, exponent =>
    match i.nearest? exponent with
    | some digits => if digits = 0 then search i steps (exponent - 1) else ⟨digits, exponent⟩
    | none => search i steps (exponent - 1)

/-- The exponent of the first digit of `m * 2 ^ exponent`, or one more. -/
def leadingExponent (m : Nat) (exponent : Int) : Int :=
  -- The factor 1233 / 4096 is just above the logarithm of two to base ten.
  ((Nat.log2 m : Int) + exponent) * 1233 / 4096 + 1

/-- Moves trailing zeros of the digits into the exponent; `steps` bounds their number. -/
def stripZeros : Nat → Decimal → Decimal
  | 0, d => d
  | steps + 1, d =>
    if d.digits ≠ 0 && d.digits % 10 = 0 then stripZeros steps ⟨d.digits / 10, d.exponent + 1⟩ else d

/-- The shortest decimal that reads back as `m * 2 ^ exponent`. -/
def shortest (m : Nat) (exponent : Int) : Decimal :=
  if m = 0 then ⟨0, 0⟩
  else stripZeros 20 (search (.around m exponent) 20 (leadingExponent m exponent))

end Decimal

/-! ## Texts of numbers -/

/-- The decimal digits of a natural number. -/
def decimalDigits (n : Nat) : List Char :=
  Nat.toDigits 10 n

/-- The lower-case hexadecimal digits of a natural number. -/
def hexDigits (n : Nat) : List Char :=
  Nat.toDigits 16 n

/-- The text of an exponent after the mark: its sign and at least so many digits. -/
def exponentText (width : Nat) (exponent : Int) : List Char :=
  let digits := decimalDigits exponent.natAbs
  (if exponent < 0 then '-' else '+') :: List.replicate (width - digits.length) '0' ++ digits

/-- How a decimal is written. -/
structure DecimalFormat where
  /-- The least exponent of the first digit that is written without an exponent. -/
  least : Int
  /-- The exponent of the first digit from which on an exponent is written. -/
  bound : Int
  /-- Whole numbers end in `.0`. -/
  pointZero : Bool
  /-- The least number of digits of an exponent. -/
  exponentWidth : Nat

/-- The text of a decimal in a format. -/
def DecimalFormat.write (f : DecimalFormat) (d : Decimal) : List Char :=
  let digits := decimalDigits d.digits
  let lead : Int := d.exponent + digits.length - 1
  if d.digits = 0 then if f.pointZero then ['0', '.', '0'] else ['0']
  else if f.least ≤ lead && lead < f.bound then
    if d.exponent ≥ 0 then
      digits ++ List.replicate d.exponent.toNat '0' ++ (if f.pointZero then ['.', '0'] else [])
    else if lead ≥ 0 then
      digits.take (lead + 1).toNat ++ '.' :: digits.drop (lead + 1).toNat
    else '0' :: '.' :: List.replicate (-lead - 1).toNat '0' ++ digits
  else
    let fraction := digits.drop 1
    digits.take 1 ++ (if fraction.isEmpty then [] else '.' :: fraction) ++
      'e' :: exponentText f.exponentWidth lead

/-- Numbers of scripts: whole up to 21 digits, fractions down to six zeros after the point. -/
def scriptNumber : DecimalFormat := ⟨-6, 21, false, 1⟩

/-- Numbers in messages about settings: a point in every number, and exponents outside -5 to 15. -/
def messageNumber : DecimalFormat := ⟨-5, 16, true, 2⟩

/-- The text of a value in a format. -/
def Magnitude.text (f : DecimalFormat) : Magnitude → List Char
  | .finite m e => f.write (Decimal.shortest m e)
  | .infinite => ['I', 'n', 'f', 'i', 'n', 'i', 't', 'y']

end Bundler
