import Bundler.Script.Scan.Escape

/-!
# Names, strings, templates and regular expressions

Tokens whose characters are free text: names with escapes, quoted strings, the parts of templates, regular expressions,
and the texts of markup. The number of steps is bounded by the length of the source.
-/

namespace Bundler.Script

/-! ## Names -/

/-- Reads the rest of a name that holds an escape; `codes` are those read so far, the latest first. -/
def scanEscapedName (isFirst : Bool) : Nat → List Nat → Cursor → List Nat × List Fault × Cursor
  | 0, codes, c => (codes, [], c)
  | steps + 1, codes, c =>
    match c.rest with
    | '\\' :: rest =>
      match scanNameEscape isFirst ⟨rest, c.offset + 1⟩ with
      | (.ok code, c) => scanEscapedName false steps (code :: codes) c
      | (.error fault, c) =>
        let (codes, faults, c) := scanEscapedName false steps codes c
        (codes, fault :: faults, c)
    | ch :: rest =>
      if isWordPart ch then scanEscapedName false steps (ch.toNat :: codes) ⟨rest, c.offset + 1⟩
      else (codes, [], c)
    | [] => (codes, [], c)

/-- Reads a name: its code points, whether it holds an escape, and what is wrong with it. -/
def scanName (bound : Nat) (c : Cursor) : List Nat × Bool × List Fault × Cursor :=
  let plain := c.rest.takeWhile isWordPart
  let after := c.skipWhile isWordPart
  let codes := plain.map Char.toNat
  match after.rest with
  | '\\' :: _ =>
    let (codes, faults, c) := scanEscapedName plain.isEmpty bound codes.reverse after
    (codes.reverse, true, faults, c)
  | _ => (codes, false, [], after)

/-- Reads a name or a word with a meaning of its own. -/
def scanWord (bound : Nat) (c : Cursor) : Scanned :=
  let (codes, escaped, faults, after) := scanName bound c
  let kind := match Keyword.ofText? (String.ofList (codes.map Char.ofNat)) with
    | some word => .keyword word
    | none => .identifier
  ⟨kind, after, faults, escaped, codes, false⟩

/-- Reads a private name from after its mark. -/
def scanPrivateName (bound : Nat) (c : Cursor) : Scanned :=
  match c.rest with
  | ch :: _ =>
    if isWordStart ch || ch == '\\' then
      let (codes, escaped, faults, after) := scanName bound c
      ⟨.privateName, after, faults, escaped, codes, false⟩
    else .fail (.invalidCharacter ch) (c.skip 1)
  | [] => .fail .unexpectedEnd c

/-! ## Strings and templates -/

/-- Reads a string up to its closing quote; `codes` are those read so far, the latest first. -/
def scanString (quote : Char) : Nat → List Nat → Cursor → Scanned
  | 0, _, c => .fail .unterminatedString c
  | steps + 1, codes, c =>
    match c.rest with
    | [] => .fail .unterminatedString c
    | ch :: rest =>
      let next : Cursor := ⟨rest, c.offset + 1⟩
      if ch == quote then ⟨.string, next, [], false, codes.reverse, false⟩
      else if ch == '\n' || ch == '\r' then .fail .unterminatedString next
      else if ch == '\\' then
        match Escape.read? false next with
        | none => (scanString quote steps codes next).after [.unterminatedString]
        | some e =>
          (scanString quote steps (e.codes ++ codes) e.cursor).after (if e.isValid then [] else [.invalidEscape])
      else scanString quote steps (ch.toNat :: codes) next

/-- Reads a part of a template up to a value or the closing quote. -/
def scanTemplate (isFirst : Bool) (badEscape : Bool) : Nat → Cursor → Scanned
  | 0, c => .fail .unterminatedString c
  | steps + 1, c =>
    match c.rest with
    | '$' :: '\x7b' :: rest =>
      let kind : TokenKind := .template (if isFirst then .first else .middle)
      ⟨kind, ⟨rest, c.offset + 2⟩, [], false, [], badEscape⟩
    | [] => .fail .unterminatedString c
    | ch :: rest =>
      let next : Cursor := ⟨rest, c.offset + 1⟩
      if ch == '\x60' then
        ⟨.template (if isFirst then .whole else .last), next, [], false, [], badEscape⟩
      else if ch == '\\' then
        match Escape.read? true next with
        | none => (scanTemplate isFirst badEscape steps next).after [.unterminatedString]
        | some e => scanTemplate isFirst (badEscape || !e.isValid) steps e.cursor
      else scanTemplate isFirst badEscape steps next

/-- The text of a part of a template as it is written; all line breaks are alike. -/
def templateText (part : TemplatePart) (spelling : List Char) : String :=
  let length := spelling.length - (match part with
    | .whole | .last => 2
    | .first | .middle => 3)
  String.ofList (unifyBreaks ((spelling.drop 1).take length))
where
  unifyBreaks : List Char → List Char
    | '\r' :: '\n' :: rest => '\n' :: unifyBreaks rest
    | c :: rest => (if c == '\r' then '\n' else c) :: unifyBreaks rest
    | [] => []

/-! ## Regular expressions -/

/-- Where a place in a regular expression lies. -/
inductive RegexMode where
  | plain
  | escape
  | classPart
  | classEscape

/-- Reads the pattern of a regular expression from after the opening slash to after the closing one. -/
def scanPattern (n : Nat) : RegexMode → List Char → Option Cursor × Cursor
  | _, [] => (none, ⟨[], n⟩)
  | mode, c :: rest =>
    if isLineEnd c then (none, ⟨rest, n + 1⟩)
    else match mode with
      | .escape => scanPattern (n + 1) .plain rest
      | .classEscape => scanPattern (n + 1) .classPart rest
      | .plain =>
        if c == '/' then (some ⟨rest, n + 1⟩, ⟨rest, n + 1⟩)
        else scanPattern (n + 1) (if c == '[' then .classPart else if c == '\\' then .escape else .plain) rest
      | .classPart =>
        scanPattern (n + 1) (if c == ']' then .plain else if c == '\\' then .classEscape else .classPart) rest

/-- The flags in the order in which they are written. -/
def regexFlagOrder : List Char := ['g', 'i', 'm', 's', 'u', 'y', 'd', 'v']

/-- Collects the flags of a regular expression, and what is wrong with them. -/
def readFlags (seen : List Char) : List Char → List Char × List Fault
  | [] => (seen, if seen.contains 'u' && seen.contains 'v' then [.regexFlagsUV] else [])
  | c :: rest =>
    if !regexFlagOrder.contains c then
      let (flags, faults) := readFlags seen rest
      (flags, .regexFlag c :: faults)
    else if seen.contains c then
      let (flags, faults) := readFlags seen rest
      (flags, .regexFlagTwice c :: faults)
    else readFlags (c :: seen) rest

/-- A regular expression that has been read. -/
structure ScannedRegex where
  token : Scanned
  pattern : String
  flags : String

/-- Reads a regular expression from after its first slash. -/
def scanRegex (c : Cursor) : ScannedRegex :=
  match scanPattern c.offset .plain c.rest with
  | (none, after) => ⟨⟨.regex, after, [.unterminatedRegex], false, [], false⟩, "", ""⟩
  | (some close, _) =>
    let isFlag (ch : Char) : Bool := ch.isAlphanum || ch == '$' || ch == '_'
    let after := close.skipWhile isFlag
    let (flags, faults) := readFlags [] (close.rest.takeWhile isFlag)
    ⟨⟨.regex, after, faults, false, [], false⟩, String.ofList (c.rest.take (close.offset - c.offset - 1)),
      String.ofList (regexFlagOrder.filter flags.contains)⟩

/-! ## Markup -/

/-- Reads the text between elements of markup. -/
def scanMarkupText (n : Nat) : List Char → Scanned
  | [] => .plain .markupText ⟨[], n⟩
  | c :: rest =>
    if c == '<' || c == '\x7b' then .plain .markupText ⟨c :: rest, n⟩
    else if c == '>' then .fail .markupGreater ⟨rest, n + 1⟩
    else if c == '\x7d' then .fail .markupBrace ⟨rest, n + 1⟩
    else scanMarkupText (n + 1) rest

/-- Reads what can stand between elements of markup: text, a new element, or a value. -/
def scanMarkupChild (c : Cursor) : Scanned :=
  match c.rest with
  | '<' :: _ => .plain (.sign .less) (c.skip 1)
  | '\x7b' :: _ => .plain (.sign .leftBrace) (c.skip 1)
  | [] => .plain .endOfText c
  | _ => scanMarkupText c.offset c.rest

/-- Reads a quoted string in markup, where nothing is escaped, from after the opening quote. -/
def scanMarkupString (quote : Char) (c : Cursor) : Scanned :=
  let text := c.rest.takeWhile (· != quote)
  let after := c.skipWhile (· != quote)
  match after.rest with
  | [] => .fail .unterminatedString after
  | _ :: _ => ⟨.string, after.skip 1, [], false, text.map Char.toNat, false⟩

end Bundler.Script
