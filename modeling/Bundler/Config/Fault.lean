import Bundler.Text.Utf8

/-!
# Faults in a settings file

The readers of a settings file work on the bytes that are left. A fault remembers how many were left when it was found,
from which its line and column follow. A fault about meaning, not form, gets its place later, where the reader gives
up.
-/

namespace Bundler.Config

/-- What is wrong with the form of a text. -/
inductive FormFault where
  | unclosedList
  | unclosedObject
  | unclosedString
  | missingValue
  | expectedColon
  | expectedListComma
  | expectedObjectComma
  | expectedWord
  | expectedValue
  | invalidEscape
  | invalidNumber
  | numberOutOfRange
  | loneSurrogate
  | brokenSurrogatePair
  | keyNotString
  | controlCharacter
  | trailingComma
  | trailingCharacters
  deriving DecidableEq, Inhabited, Repr

def FormFault.text : FormFault → String
  | .unclosedList => "EOF while parsing a list"
  | .unclosedObject => "EOF while parsing an object"
  | .unclosedString => "EOF while parsing a string"
  | .missingValue => "EOF while parsing a value"
  | .expectedColon => "expected `:`"
  | .expectedListComma => "expected `,` or `]`"
  | .expectedObjectComma => "expected `,` or `\x7d`"
  | .expectedWord => "expected ident"
  | .expectedValue => "expected value"
  | .invalidEscape => "invalid escape"
  | .invalidNumber => "invalid number"
  | .numberOutOfRange => "number out of range"
  | .loneSurrogate => "lone leading surrogate in hex escape"
  | .brokenSurrogatePair => "unexpected end of hex escape"
  | .keyNotString => "key must be a string"
  | .controlCharacter => "control character (\\u0000-\\u001F) found while parsing a string"
  | .trailingComma => "trailing comma"
  | .trailingCharacters => "trailing characters"

/-- What a settings file holds that settings cannot be made of. -/
inductive MeaningFault where
  | unknownKey (key : String)
  | repeatedKey (key : String)
  /-- A value of one kind stands where another is expected. -/
  | wrongKind (found expected : String)
  | wrongLength (length : Nat)
  deriving DecidableEq, Inhabited, Repr

def MeaningFault.text : MeaningFault → String
  | .unknownKey key => "unknown field `" ++ key ++ "`, expected one of `entry`, `output`, `singleQuote`"
  | .repeatedKey key => "duplicate field `" ++ key ++ "`"
  | .wrongKind found expected => "invalid type: " ++ found ++ ", expected " ++ expected
  | .wrongLength length =>
    "invalid length " ++ toString length ++ ", expected struct KnitConfig with 3 elements"

/-- A fault and how many bytes were left behind it. -/
inductive Fault where
  | form (fault : FormFault) (left : Nat)
  | meaning (fault : MeaningFault) (left : Nat)
  deriving DecidableEq, Inhabited, Repr

/-- The line and the column behind so many bytes; both count bytes, lines from one. -/
def position (bytes : List UInt8) : Nat × Nat :=
  bytes.foldl (fun (line, column) (b : UInt8) => if b = 0x0A then (line + 1, 0) else (line, column + 1)) (1, 0)

/-- The wording of a fault in a text. -/
def Fault.message (whole : List UInt8) (fault : Fault) : String :=
  let (text, left) := match fault with
    | .form fault left => (fault.text, left)
    | .meaning fault left => (fault.text, left)
  let (line, column) := position (whole.take (whole.length - left))
  text ++ " at line " ++ toString line ++ " column " ++ toString column

/-- A fault before the next byte. -/
def faultAt {α : Type} (fault : FormFault) (rest : List UInt8) : Except Fault α :=
  .error (.form fault rest.length)

/-- A fault about the next byte, placed behind it. -/
def faultOver {α : Type} (fault : FormFault) (rest : List UInt8) : Except Fault α :=
  .error (.form fault (rest.length - 1))

/-- Blanks, tabs and line ends mean nothing between the parts of a text. -/
def isBlank (b : UInt8) : Bool :=
  b == 0x20 || b == 0x0A || b == 0x09 || b == 0x0D

def skipBlanks (rest : List UInt8) : List UInt8 :=
  rest.dropWhile isBlank

end Bundler.Config
