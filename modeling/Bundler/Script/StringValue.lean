import Bundler.Number.Shortest

/-!
# Values of string literals

An escape in a string literal can stand for half of a surrogate pair, so the value of a literal is a list of code points
among which surrogates may stand alone.
-/

namespace Bundler.Script

/-- The value of a string literal. -/
structure StringValue where
  codes : List Nat
  deriving DecidableEq, Inhabited, Repr

namespace StringValue

/-- Whether a code point is one half of a surrogate pair. -/
def isSurrogate (code : Nat) : Bool :=
  0xD800 ≤ code && code ≤ 0xDFFF

/-- A lower-case hexadecimal number of at least four digits. -/
def hexFour (code : Nat) : List Char :=
  let digits := hexDigits code
  List.replicate (4 - digits.length) '0' ++ digits

/-- The value of some text. -/
def ofText (text : String) : StringValue :=
  ⟨text.toList.map Char.toNat⟩

/--
The value as text. A value in which a surrogate stands alone spells each surrogate as the replacement character and four
hexadecimal digits, and so each replacement character that is meant as such.
-/
def toText (value : StringValue) : String :=
  if value.codes.any isSurrogate then
    String.ofList (value.codes.flatMap fun code =>
      if isSurrogate code || code == 0xFFFD then Char.ofNat 0xFFFD :: hexFour code else [Char.ofNat code])
  else String.ofList (value.codes.map Char.ofNat)

end StringValue

end Bundler.Script
