import Bundler.Number.Shortest

/-!
# Compact numbers

How a number is written in few characters: without a zero before the point, in hexadecimal digits, or with an exponent
in place of zeros, whatever is shorter.
-/

namespace Bundler

/-- The text of a whole number. -/
def intText (n : Int) : List Char :=
  (if n < 0 then ['-'] else []) ++ decimalDigits n.natAbs

/-- The shorter of two texts; of two equally long ones the first. -/
def shorter (first second : List Char) : List Char :=
  if second.length < first.length then second else first

namespace Compact

/-- Leaves out a zero before the point and the sign of a positive exponent. -/
def strip (text : List Char) : List Char :=
  let rec withoutPlus : List Char → List Char
    | 'e' :: '+' :: rest => 'e' :: rest
    | c :: rest => c :: withoutPlus rest
    | [] => []
  match withoutPlus text with
  | '0' :: '.' :: rest => '.' :: rest
  | text => text

/-- The hexadecimal text of a whole number; only so many bits are written. -/
def hexText (n : Nat) : List Char :=
  '0' :: 'x' :: hexDigits (min n (Nat.pow 2 128 - 1))

/-- Zeros after the point become an exponent. -/
def withoutLeadingZeros (text : List Char) : List Char :=
  match text with
  | '.' :: '0' :: fraction =>
    let digits := fraction.dropWhile (· == '0')
    shorter text (digits ++ 'e' :: '-' :: decimalDigits (fraction.length + 1))
  | _ => text

/-- Zeros at the end become an exponent. -/
def withoutTrailingZeros (text : List Char) : List Char :=
  let zeros := (text.reverse.takeWhile (· == '0')).length
  if zeros = 0 then text else shorter text (text.take (text.length - zeros) ++ 'e' :: decimalDigits zeros)

/-- The whole number that an exponent is. -/
def exponentOf (text : List Char) : Int :=
  match text with
  | '-' :: digits => -((String.ofList digits).toNat?.getD 0 : Nat)
  | digits => ((String.ofList digits).toNat?.getD 0 : Nat)

/-- The digits after the point move before it, if there is an exponent. -/
def withoutPoint (text : List Char) : List Char :=
  let whole := text.takeWhile (· != '.')
  let rest := (text.dropWhile (· != '.')).drop 1
  let fraction := rest.takeWhile (· != 'e')
  match rest.dropWhile (· != 'e') with
  | 'e' :: exponent => shorter text (whole ++ fraction ++ 'e' :: intText (exponentOf exponent - fraction.length))
  | _ => text

end Compact

open Bundler.Compact in
/-- A number in few characters. -/
def Magnitude.compactText (x : Magnitude) : List Char :=
  let text := strip (x.text scriptNumber)
  match x.toNat? with
  | some n =>
    if n < 1000 then text
    else
      let hex := hexText n
      if hex.length < text.length then hex else withoutPoint (withoutTrailingZeros text)
  | none => withoutPoint (withoutTrailingZeros (withoutLeadingZeros text))

/-- Whether a point after the text of a number would be taken as part of it. -/
def takesPoint (text : List Char) : Bool :=
  text.all Char.isDigit

end Bundler
