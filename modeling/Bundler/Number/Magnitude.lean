/-!
# Magnitudes

The non-negative values of 64-bit binary floating point, with exact arithmetic on natural numbers: a value is a
mantissa times a power of two, and every operation rounds its exact result to the nearest value, a tie to the even
mantissa.
-/

namespace Bundler

/-- A non-negative binary floating-point value: `mantissa * 2 ^ exponent`, or infinity. -/
inductive Magnitude where
  | finite (mantissa : Nat) (exponent : Int)
  | infinite
  deriving DecidableEq, Inhabited, Repr

namespace Magnitude

/-- The exponent of the smallest values. -/
def minExponent : Int := -1074

/-- The exponent of the largest values. -/
def maxExponent : Int := 971

/-- Mantissas stay below this. -/
def mantissaBound : Nat := Nat.pow 2 53

def zero : Magnitude :=
  .finite 0 minExponent

def isZero : Magnitude → Bool
  | .finite m _ => m == 0
  | .infinite => false

/-- The quotient rounded to the nearest natural number, a tie to the even one. -/
def divRound (num den : Nat) : Nat :=
  let q := num / den
  let rest := 2 * (num % den)
  if rest > den || (rest == den && q % 2 == 1) then q + 1 else q

/-- The quotient of `num / den` by `2 ^ exponent`, as a quotient again. -/
def scaleDown (num den : Nat) (exponent : Int) : Nat × Nat :=
  if exponent ≥ 0 then (num, den * Nat.pow 2 exponent.toNat) else (num * Nat.pow 2 (-exponent).toNat, den)

/-- The exponent with which `num / den` has a mantissa of 53 bits, or the least exponent if it is smaller. -/
def exponentFor (num den : Nat) : Int :=
  let guess : Int := (Nat.log2 num : Int) - (Nat.log2 den : Int) - 52
  let (n, d) := scaleDown num den guess
  let exact := if n / d < Nat.pow 2 52 then guess - 1 else guess
  max exact minExponent

/-- The value nearest to `num / den`. -/
def ofQuotient (num den : Nat) : Magnitude :=
  if num = 0 then zero
  else
    let exponent := exponentFor num den
    let (n, d) := scaleDown num den exponent
    let m := divRound n d
    let (m, exponent) := if m = mantissaBound then (m / 2, exponent + 1) else (m, exponent)
    if exponent > maxExponent then .infinite else .finite m exponent

/-- The value nearest to a natural number. -/
def ofNat (n : Nat) : Magnitude :=
  ofQuotient n 1

/-- The exact value as a quotient. -/
def toQuotient (m : Nat) (exponent : Int) : Nat × Nat :=
  if exponent ≥ 0 then (m * Nat.pow 2 exponent.toNat, 1) else (m, Nat.pow 2 (-exponent).toNat)

/-- The value nearest to `digits * 10 ^ exponent`. -/
def ofDecimal (digits : Nat) (exponent : Int) : Magnitude :=
  -- Far beyond the largest and the smallest value no power of ten is computed.
  if digits = 0 then zero
  else if exponent > 400 then infinite
  else if (Nat.log2 digits : Int) + 1 + 3 * exponent < -1200 then zero
  else if exponent ≥ 0 then ofQuotient (digits * Nat.pow 10 exponent.toNat) 1
  else ofQuotient digits (Nat.pow 10 (-exponent).toNat)

/-- The rounded product. -/
def mul : Magnitude → Magnitude → Magnitude
  | .finite m e, .finite n f =>
    let (a, b) := toQuotient m e
    let (c, d) := toQuotient n f
    ofQuotient (a * c) (b * d)
  | _, _ => .infinite

/-- The rounded quotient; the divisor is not zero. -/
def div : Magnitude → Magnitude → Magnitude
  | .finite m e, .finite n f =>
    let (a, b) := toQuotient m e
    let (c, d) := toQuotient n f
    ofQuotient (a * d) (b * c)
  | .finite _ _, .infinite => zero
  | .infinite, _ => .infinite

/-- The natural number a value is, if it is one. -/
def toNat? : Magnitude → Option Nat
  | .finite m e =>
    let (n, d) := toQuotient m e
    if n % d = 0 then some (n / d) else none
  | .infinite => none

end Magnitude

end Bundler
