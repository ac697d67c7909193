/-!
# UTF-8

Bytes to text in two ways: `decode?` refuses bytes that are no UTF-8, `decodeLossy` puts U+FFFD in place of every
longest run that starts a character and does not finish it.
-/

namespace Bundler.Utf8

/-- The UTF-8 bytes of a text. -/
def encode (s : String) : List UInt8 :=
  s.toList.flatMap String.utf8EncodeChar

/-- Stands for bytes that are no UTF-8. -/
def replacement : Char := Char.ofNat 0xFFFD

/-- A byte that continues a character. -/
def isContinuation (b : UInt8) : Bool :=
  0x80 ≤ b && b < 0xC0

/-- The second bytes allowed after a first byte of three; overlong forms and surrogates are left out. -/
def isSecondOfThree (first b : UInt8) : Bool :=
  if first == 0xE0 then 0xA0 ≤ b && b < 0xC0
  else if first == 0xED then 0x80 ≤ b && b < 0xA0
  else isContinuation b

/-- The second bytes allowed after a first byte of four; overlong forms and values past U+10FFFF are left out. -/
def isSecondOfFour (first b : UInt8) : Bool :=
  if first == 0xF0 then 0x90 ≤ b && b < 0xC0
  else if first == 0xF4 then 0x80 ≤ b && b < 0x90
  else isContinuation b

/-- Puts the low six bits of a continuation byte behind the bits read so far. -/
def extend (bits : Nat) (b : UInt8) : Nat :=
  bits * 64 + b.toNat % 64

/-- Reads every character, and `none` where no character starts or one breaks off. -/
def scan : List UInt8 → List (Option Char)
  | [] => []
  | b :: bs =>
    if b < 0x80 then some (Char.ofNat b.toNat) :: scan bs
    else if 0xC2 ≤ b && b < 0xE0 then
      match bs with
      | c :: cs =>
        if isContinuation c then some (Char.ofNat (extend (b.toNat % 32) c)) :: scan cs
        else none :: scan (c :: cs)
      | [] => [none]
    else if 0xE0 ≤ b && b < 0xF0 then
      match bs with
      | c :: cs =>
        if isSecondOfThree b c then
          match cs with
          | d :: ds =>
            if isContinuation d then some (Char.ofNat (extend (extend (b.toNat % 16) c) d)) :: scan ds
            else none :: scan (d :: ds)
          | [] => [none]
        else none :: scan (c :: cs)
      | [] => [none]
    else if 0xF0 ≤ b && b < 0xF5 then
      match bs with
      | c :: cs =>
        if isSecondOfFour b c then
          match cs with
          | d :: ds =>
            if isContinuation d then
              match ds with
              | e :: es =>
                if isContinuation e then
                  some (Char.ofNat (extend (extend (extend (b.toNat % 8) c) d) e)) :: scan es
                else none :: scan (e :: es)
              | [] => [none]
            else none :: scan (d :: ds)
          | [] => [none]
        else none :: scan (c :: cs)
      | [] => [none]
    else none :: scan bs

/-- The text of the bytes, with U+FFFD for what is no UTF-8. -/
def decodeLossy (bytes : List UInt8) : String :=
  String.ofList ((scan bytes).map (·.getD replacement))

/-- The text of the bytes, if they are UTF-8. -/
def decode? (bytes : List UInt8) : Option String :=
  let chars := scan bytes
  if chars.all Option.isSome then some (String.ofList (chars.filterMap id)) else none

end Bundler.Utf8
