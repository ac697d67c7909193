import Bundler.Script.Token

/-!
# Comments

While tokens are read, comments are collected. A comment that follows code on its line belongs to that code; any other
is attached to the token after it.
-/

namespace Bundler.Script

/-- What a comment is for. -/
inductive CommentPurpose where
  | plain
  /-- A notice that is kept on a line of its own. -/
  | legal
  /-- The call that follows has no effect besides its value. -/
  | pure
  /-- Calls of the function that follows have no effect besides their value. -/
  | noSideEffects
  deriving DecidableEq, Inhabited, Repr

structure Comment where
  isLine : Bool
  start : Nat
  stop : Nat
  /-- The source from the comment on. -/
  source : List Char
  purpose : CommentPurpose
  /-- The offset of the token that it is attached to, if any. -/
  anchor : Option Nat
  afterBreak : Bool
  beforeBreak : Bool
  deriving Inhabited

namespace Comment

/-- The comment as it is written, with its marks. -/
def spelling (c : Comment) : List Char :=
  c.source.take (c.stop - c.start)

/-- The comment without its marks. -/
def content (isLine : Bool) (spelling : List Char) : List Char :=
  if isLine then spelling.drop 2 else (spelling.drop 2).take (spelling.length - 4)

end Comment

/-! ## The purpose of a comment -/

/-- Whether some text occurs in another. -/
def occursIn (part : List Char) : List Char → Bool
  | [] => part.isEmpty
  | c :: rest => part.isPrefixOf (c :: rest) || occursIn part rest

private def licenseMark : List Char := ['@', 'l', 'i', 'c', 'e', 'n', 's', 'e']

private def preserveMark : List Char := ['@', 'p', 'r', 'e', 's', 'e', 'r', 'v', 'e']

private def pureMark : List Char := "__PURE__".toList

private def noSideEffectsMark : List Char := "__NO_SIDE_EFFECTS__".toList

private def isMarkBlank (c : Char) : Bool :=
  c == ' ' || c == '\t' || c == '\n' || c == '\r' || c == '\x0c'

/-- What a comment with some content is for. -/
def CommentPurpose.ofContent (isLine : Bool) (content : List Char) : CommentPurpose :=
  let notice := if occursIn licenseMark content || occursIn preserveMark content then legal else plain
  match content with
  | [] => plain
  | '!' :: _ => legal
  | c :: _ =>
    if c == '*' && !isLine then notice
    else match content.dropWhile isMarkBlank with
      | '@' :: mark | '#' :: mark =>
        if pureMark.isPrefixOf mark then pure
        else if noSideEffectsMark.isPrefixOf mark then noSideEffects
        else notice
      | _ => notice

/-! ## Collecting comments -/

/-- What is known about the comments before the place where tokens are read. -/
structure Trivia where
  /-- Comments that are settled, the latest first. -/
  settled : List Comment
  /-- Comments whose token has not been read yet, the latest first. -/
  pending : List Comment
  /-- A line break stands between the last token and here. -/
  afterBreak : Bool
  /-- The last token opens something, so that a comment after it is about what follows. -/
  afterOpening : Bool
  /-- A mark for a pure call stands directly before the last token. -/
  pure : Bool
  /-- A mark for a function without side effects stands directly before the last token. -/
  noSideEffects : Bool
  deriving Inhabited

namespace Trivia

/-- Nothing has been read yet. -/
def empty : Trivia := ⟨[], [], true, false, false, false⟩

/-- Notes a line break. -/
def lineBreak (t : Trivia) : Trivia :=
  match t.pending with
  | [] => { t with afterBreak := true }
  | last :: rest =>
    let pending := { last with beforeBreak := true } :: rest
    if t.afterBreak then { t with pending }
    else { t with pending := [], settled := pending ++ t.settled, afterBreak := true }

/-- Notes a token: the comments that wait for one are attached to it. -/
def token (t : Trivia) (kind : TokenKind) (start : Nat) : Trivia :=
  { t with
    settled := t.pending.map (fun c => { c with anchor := some start }) ++ t.settled
    pending := []
    afterBreak := false
    afterOpening := kind = .sign .equal || kind = .sign .leftParen }

/-- Where the latest comment starts. -/
def lastStart (t : Trivia) : Option Nat :=
  (t.pending.head? <|> t.settled.head?).map (·.start)

/-- Notes a comment, unless it has been read before. -/
def comment (t : Trivia) (isLine : Bool) (start stop : Nat) (source : List Char) : Trivia :=
  let purpose := CommentPurpose.ofContent isLine (Comment.content isLine (source.take (stop - start)))
  let t := { t with
    pure := t.pure || purpose = .pure
    noSideEffects := t.noSideEffects || purpose = .noSideEffects }
  let isKnown := t.lastStart.any fun last => start ≤ last
  if isKnown then t
  else
    let c : Comment := ⟨isLine, start, stop, source, purpose, none, t.afterBreak, isLine⟩
    if !isLine then { t with pending := c :: t.pending }
    else if !t.afterBreak && !t.afterOpening then
      { t with settled := c :: t.pending ++ t.settled, pending := [], afterBreak := true }
    else { t with pending := c :: t.pending, afterBreak := true }

/-- All settled comments from the first to the last. -/
def comments (t : Trivia) : List Comment :=
  t.settled.reverse

end Trivia

end Bundler.Script
