import Bundler.Number.Compact
import Bundler.Script.Printer.State

/-!
# Writing names and literals

Strings are written in one kind of quotes, with escapes for quotes, line breaks and control characters. No text of a
string or template may contain what would end a script in a web page.
-/

namespace Bundler.Script

open Printing

/-! ## Strings -/

/-- How a character of a string is written, given the one after it. -/
def escapeCode (quote : Char) (code : Nat) (next : Option Nat) : List Char :=
  if StringValue.isSurrogate code then '\\' :: 'u' :: StringValue.hexFour code
  else
    let c := Char.ofNat code
    if c == quote then ['\\', c]
    else match code with
      | 0 =>
        if next.any fun n => '0'.toNat ≤ n && n ≤ '9'.toNat then ['\\', 'x', '0', '0'] else ['\\', '0']
      | 0x07 => ['\\', 'x', '0', '7']
      | 0x08 => ['\\', 'b']
      | 0x0A => ['\\', 'n']
      | 0x0B => ['\\', 'v']
      | 0x0C => ['\\', 'f']
      | 0x0D => ['\\', 'r']
      | 0x1B => ['\\', 'x', '1', 'B']
      | 0x5C => ['\\', '\\']
      | 0xA0 => ['\\', 'x', 'A', '0']
      | 0x2028 => ['\\', 'u', '2', '0', '2', '8']
      | 0x2029 => ['\\', 'u', '2', '0', '2', '9']
      | _ => [c]

/-- The rest of the tag that ends a script, after its first character. -/
def endTag : List Char := ['/', 's', 'c', 'r', 'i', 'p', 't']

/-- Whether some code points begin like the tag that ends a script, after its first character. -/
def beginsEndTag (codes : List Nat) : Bool :=
  (codes.take endTag.length).map (fun code => (Char.ofNat code).toLower) = endTag

/-- The text of a string between its quotes. -/
def escapeCodes (quote : Char) : List Nat → List Char
  | [] => []
  | code :: rest =>
    if code = '<'.toNat && beginsEndTag rest then '<' :: '\\' :: escapeCodes quote rest
    else escapeCode quote code rest.head? ++ escapeCodes quote rest

/-- Writes a string in quotes. -/
def writeString (value : StringValue) : Printing Unit := do
  let quote := (← get).quote
  writeChar quote
  writeChars (escapeCodes quote value.codes)
  writeChar quote

/-- Text in which the tag that ends a script does not occur. -/
def breakEndTag : List Char → List Char
  | [] => []
  | c :: rest =>
    if c == '<' && beginsEndTag ((rest.take endTag.length).map Char.toNat) then c :: '\\' :: breakEndTag rest else c :: breakEndTag rest

/-! ## Other literals -/

def writeNumber (value : Magnitude) : Printing Unit := do
  let text := value.compactText
  separate
  writeChars text
  if takesPoint text then modify fun p => { p with integerEnd := p.length }

def writeBigint (value : Nat) : Printing Unit := do
  separate
  writeChars (decimalDigits value ++ ['n'])

/-- The flags of a regular expression in their order. -/
def sortFlags (flags : String) : List Char :=
  ['g', 'i', 'm', 's', 'u', 'y', 'd', 'v'].filter fun c => flags.toList.contains c

def writeRegex (pattern flags : String) : Printing Unit := do
  let clashes := match ← lastChar? with
    | some '/' => true
    | some '<' => (pattern.toList.take 6).map Char.toLower = ['s', 'c', 'r', 'i', 'p', 't']
    | _ => false
  if clashes then space
  writeChar '/'
  write pattern
  writeChar '/'
  writeChars (sortFlags flags)
  modify fun p => { p with regexEnd := p.length }

/-- Writes a template with values between its texts. -/
def writeTemplate (texts : List String) (values : List (Printing Unit)) : Printing Unit := do
  let rec parts : List String → List (Printing Unit) → Printing Unit
    | text :: texts, value :: values => do
      writeChars (breakEndTag text.toList)
      write "$\x7b"
      value
      writeChar '\x7d'
      parts texts values
    | texts, _ => texts.forM fun text => writeChars (breakEndTag text.toList)
  writeChar '\x60'
  parts texts values
  writeChar '\x60'

/-! ## Directives -/

/-- The quote for a directive: the one that does not occur in it. -/
def directiveQuote (quote : Char) : List Char → Char
  | '\\' :: _ :: rest => directiveQuote quote rest
  | '"' :: _ => '\''
  | '\'' :: _ => '"'
  | _ :: rest => directiveQuote quote rest
  | [] => quote

/-- Writes a directive as it was written. -/
def writeDirective (text : String) : Printing Unit := do
  indent
  let quote := directiveQuote (← get).quote text.toList
  writeChar quote
  write text
  writeChar quote
  endStatement

/-! ## Names -/

/-- Writes a name in an import or export list. -/
def writeModuleName : ModuleName → Printing Unit
  | .word name => write name
  | .quoted value => writeString value

/-- Writes the dotted name of a type. -/
def writeEntityName : EntityName → Printing Unit
  | .word name => write name
  | .thisWord => write "this"
  | .dotted left right => do
    writeEntityName left
    writeChar '.'
    write right

/-- Writes the name of an element or an attribute of markup. -/
def writeMarkupName : MarkupName → Printing Unit
  | .plain name => write name
  | .spaced space name => write (space ++ ":" ++ name)
  | .member object property => do
    writeMarkupName object
    writeChar '.'
    write property

end Bundler.Script
