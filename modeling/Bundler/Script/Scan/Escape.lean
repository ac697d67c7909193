import Bundler.Script.Scan.Basic

/-!
# Escapes

Escape sequences in strings, templates and names. An escape may stand for one half of a surrogate pair; two such escapes
in a row that form a pair stand for one character.
-/

namespace Bundler.Script

/-! ## Hexadecimal digits -/

/-- Reads exactly so many hexadecimal digits onto a value; the place is where reading stopped. -/
def scanHex : Nat → Nat → Cursor → Option Nat × Cursor
  | 0, value, c => (some value, c)
  | n + 1, value, c =>
    match c.rest with
    | ch :: rest =>
      match hexValue? ch with
      | some d => scanHex n (value * 16 + d) ⟨rest, c.offset + 1⟩
      | none => (none, c)
    | [] => (none, c)

/-- Reads hexadecimal digits onto a value that must stay a code point. -/
def scanCodePointDigits (value : Nat) : List Char → Nat → Option Nat × Cursor
  | ch :: rest, n =>
    match hexValue? ch with
    | some d =>
      let value := value * 16 + d
      if value > 0x10FFFF then (none, ⟨rest, n + 1⟩) else scanCodePointDigits value rest (n + 1)
    | none => (some value, ⟨ch :: rest, n⟩)
  | [], n => (some value, ⟨[], n⟩)

/-- Reads a code point in braces, from after the opening brace. -/
def scanBracedCodePoint (c : Cursor) : Option Nat × Cursor :=
  match scanHex 1 0 c with
  | (none, c) => (none, c)
  | (some value, c) =>
    match scanCodePointDigits value c.rest c.offset with
    | (none, c) => (none, c)
    | (some value, c) =>
      match c.rest with
      | '\x7d' :: rest => (some value, ⟨rest, c.offset + 1⟩)
      | _ => (none, c)

def isHighSurrogate (code : Nat) : Bool := 0xD800 ≤ code && code ≤ 0xDBFF

def isLowSurrogate (code : Nat) : Bool := 0xDC00 ≤ code && code ≤ 0xDFFF

/-- The character of a surrogate pair. -/
def joinSurrogates (high low : Nat) : Nat :=
  0x10000 + (high - 0xD800) * 0x400 + (low - 0xDC00)

/-- Reads four hexadecimal digits, and a second escape after them if the two form a surrogate pair. -/
def scanCodeUnits (c : Cursor) : Option Nat × Cursor :=
  match scanHex 4 0 c with
  | (none, c) => (none, c)
  | (some high, c) =>
    match isHighSurrogate high, c.rest with
    | true, '\\' :: 'u' :: rest =>
      match scanHex 4 0 ⟨rest, c.offset + 2⟩ with
      | (none, c) => (none, c)
      | (some low, after) =>
        if isLowSurrogate low then (some (joinSurrogates high low), after) else (some high, c)
    | _, _ => (some high, c)

/-- Reads what follows `\u`. -/
def scanUnicodeEscape (c : Cursor) : Option Nat × Cursor :=
  match c.rest with
  | '\x7b' :: rest => scanBracedCodePoint ⟨rest, c.offset + 1⟩
  | _ => scanCodeUnits c

/-! ## Escapes in strings and templates -/

/-- An escape that has been read. -/
structure Escape where
  /-- What it stands for. -/
  codes : List Nat
  isValid : Bool
  cursor : Cursor

namespace Escape

def one (code : Nat) (cursor : Cursor) : Escape := ⟨[code], true, cursor⟩

def ofOption : Option Nat × Cursor → Escape
  | (some code, cursor) => ⟨[code], true, cursor⟩
  | (none, cursor) => ⟨[], false, cursor⟩

/-- Reads an octal escape: up to three digits if the first one is at most 3, else up to two. -/
def octal (first : Char) (c : Cursor) : Escape :=
  let limit := if '0' ≤ first && first ≤ '3' then 2 else 1
  let digits := (c.rest.take limit).takeWhile isOctalDigit
  .one (digitsValue 8 (first :: digits)) (c.skip digits.length)

/-- Reads an escape from after the backslash; there is none at the end of the source. -/
def read? (inTemplate : Bool) (c : Cursor) : Option Escape :=
  match c.rest with
  | [] => none
  | ch :: rest =>
    let next : Cursor := ⟨rest, c.offset + 1⟩
    let followedByDigit := (rest.head?.map Char.isDigit).getD false
    some <| match ch with
      | '\n' | '\u2028' | '\u2029' => ⟨[], true, next⟩
      | '\r' => ⟨[], true, if rest.head? = some '\n' then next.skip 1 else next⟩
      | 'b' => .one 8 next
      | 'f' => .one 12 next
      | 'n' => .one 10 next
      | 'r' => .one 13 next
      | 't' => .one 9 next
      | 'v' => .one 11 next
      | 'x' => .ofOption (scanHex 2 0 next)
      | 'u' => .ofOption (scanUnicodeEscape next)
      | _ =>
        if ch == '0' && !followedByDigit then .one 0 next
        else if inTemplate then
          if ch.isDigit then ⟨[], false, next⟩ else .one ch.toNat next
        else if isOctalDigit ch then .octal ch next
        else .one ch.toNat next

end Escape

/-! ## Escapes in names -/

/-- Reads an escape in a name from after the backslash; it must stand for a character of names. -/
def scanNameEscape (isFirst : Bool) (c : Cursor) : Except Fault Nat × Cursor :=
  match c.rest with
  | 'u' :: rest =>
    match scanUnicodeEscape ⟨rest, c.offset + 1⟩ with
    | (some code, after) =>
      let ch := Char.ofNat code
      let isPair := code ≥ 0x10000 && rest.head? != some '\x7b'
      if isPair || ch.toNat ≠ code then (.error .invalidUnicodeEscape, after)
      else if if isFirst then isWordStart ch else isWordPart ch then (.ok code, after)
      else (.error (.invalidCharacter ch), after)
    | (none, after) => (.error .invalidUnicodeEscape, after)
  | _ :: rest => (.error .invalidUnicodeEscape, ⟨rest, c.offset + 1⟩)
  | [] => (.error .invalidUnicodeEscape, c)

end Bundler.Script
