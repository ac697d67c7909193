import Bundler.Script.Scan.Number
import Bundler.Script.Scan.Text

/-!
# Reading tokens

One token after another, each after the gap before it.
-/

namespace Bundler.Script

/-- Reads a sign; a question mark and a point are two signs before a digit. -/
def scanSign? (text : List Char) : Option Sign :=
  match Sign.spellings.find? fun p => p.1.isPrefixOf text with
  | some (_, .questionDot) =>
    if ((text.drop 2).head?.map Char.isDigit).getD false then some .question else some .questionDot
  | found => found.map Prod.snd

def Sign.length (s : Sign) : Nat :=
  ((Sign.spellings.find? fun p => p.2 = s).map fun p => p.1.length).getD 1

/-- Reads the token at a place; `inAttribute` says that it is the value of an attribute of markup. -/
def scanToken (bound : Nat) (inAttribute : Bool) (c : Cursor) : Scanned :=
  match c.rest with
  | [] => .plain .endOfText c
  | ch :: rest =>
    let next : Cursor := ⟨rest, c.offset + 1⟩
    let followedByDigit := (rest.head?.map Char.isDigit).getD false
    if ch.isDigit then scanNumber c
    else if ch == '.' && followedByDigit then scanFraction true next
    else if isWordStart ch || ch == '\\' then scanWord bound c
    else if ch == '#' then scanPrivateName bound next
    else if ch == '"' || ch == '\'' then
      if inAttribute then scanMarkupString ch next else scanString ch bound [] next
    else if ch == '\x60' then scanTemplate true false bound next
    else match scanSign? c.rest with
      | some sign => .plain (.sign sign) (c.skip sign.length)
      | none => .fail (.invalidCharacter ch) next

/-- A token in its place, the place after it, and the faults and comments on the way. -/
structure Lexed where
  token : Token
  cursor : Cursor
  faults : List Fault
  trivia : Trivia

/-- Puts what was read in its place. -/
def Lexed.ofScanned (start : Cursor) (onNewLine : Bool) (trivia : Trivia) (s : Scanned) : Lexed :=
  ⟨⟨s.kind, start.offset, s.cursor.offset, onNewLine, s.escaped, s.codes, s.badEscape, start.rest⟩, s.cursor,
    s.faults, trivia.token s.kind start.offset⟩

/-- Reads the next token. -/
def lexToken (bound : Nat) (inAttribute : Bool) (trivia : Trivia) (c : Cursor) : Lexed :=
  let gap := skipGap { trivia with pure := false, noSideEffects := false } false c.offset .blank c.rest
  if gap.unterminated then
    .ofScanned gap.cursor gap.onNewLine gap.trivia ⟨.endOfText, gap.cursor, [.unterminatedComment], false, [], false⟩
  else .ofScanned gap.cursor gap.onNewLine gap.trivia (scanToken bound inAttribute gap.cursor)

/-- Reads the first token of a source, which may be the line that names an interpreter. -/
def lexFirst (bound : Nat) (c : Cursor) : Lexed :=
  match c.rest with
  | '#' :: '!' :: _ =>
    .ofScanned c true .empty (.plain .interpreter (c.skipWhile fun ch => !isLineEnd ch))
  | _ => lexToken bound false .empty c

end Bundler.Script
