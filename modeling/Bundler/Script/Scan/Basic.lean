import Bundler.Script.Cursor
import Bundler.Script.Fault

/-!
# Scanned tokens

The result of reading one token: what it is, where it ends, and what is wrong with it.
-/

namespace Bundler.Script

/-- A token that has been read, except for its place. -/
structure Scanned where
  kind : TokenKind
  /-- The place after the token. -/
  cursor : Cursor
  /-- What is wrong with the token, in the order of the source. -/
  faults : List Fault
  escaped : Bool
  codes : List Nat
  badEscape : Bool
  deriving Inhabited

namespace Scanned

/-- A token with nothing to note about it. -/
def plain (kind : TokenKind) (cursor : Cursor) : Scanned := ⟨kind, cursor, [], false, [], false⟩

/-- No token, for some reason. -/
def fail (fault : Fault) (cursor : Cursor) : Scanned := ⟨.invalid, cursor, [fault], false, [], false⟩

/-- Puts faults before those of the token. -/
def after (faults : List Fault) (s : Scanned) : Scanned := { s with faults := faults ++ s.faults }

end Scanned

/-- What is wrong with the character at a place where it should not stand. -/
def Cursor.unexpected (c : Cursor) : Fault :=
  match c.rest with
  | [] => .unexpectedEnd
  | ch :: _ => .invalidCharacter ch

/-- The value of a hexadecimal digit. -/
def hexValue? (c : Char) : Option Nat :=
  if c.isDigit then some (c.toNat - '0'.toNat)
  else if 'a' ≤ c && c ≤ 'f' then some (c.toNat - 'a'.toNat + 10)
  else if 'A' ≤ c && c ≤ 'F' then some (c.toNat - 'A'.toNat + 10)
  else none

def isHexDigit (c : Char) : Bool := (hexValue? c).isSome

def isOctalDigit (c : Char) : Bool := '0' ≤ c && c ≤ '7'

def isBinaryDigit (c : Char) : Bool := c == '0' || c == '1'

/-- The number that some digits spell in a base; characters that are no digits do not count. -/
def digitsValue (base : Nat) (digits : List Char) : Nat :=
  digits.foldl (fun n c => match hexValue? c with
    | some d => n * base + d
    | none => n) 0

end Bundler.Script
