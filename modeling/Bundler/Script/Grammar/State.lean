import Bundler.Script.Scan.Token
import Bundler.Script.Tree

/-!
# Reading with one token ahead

The state in which phrases are read, and the steps that all phrases share: looking at the current token, stepping over
it, asking for it, and trying a phrase.

The first fault that leaves no way to go on is kept; from then on the source counts as ended, so that every phrase that
is still open comes to its end. Faults that were found before it stay, those found later do not.
-/

namespace Bundler.Script

/-- What a source may contain besides plain script. -/
structure Dialect where
  hasTypes : Bool
  hasMarkup : Bool
  /-- All declarations only describe what exists elsewhere. -/
  isAmbient : Bool
  deriving DecidableEq, Inhabited, Repr

/-- What surrounds the phrase that is read. -/
structure Surroundings where
  /-- `in` is an operator here. -/
  allowsIn : Bool
  inGenerator : Bool
  inAsync : Bool
  inFunction : Bool
  inAmbient : Bool
  /-- Conditional types are not read here. -/
  plainBounds : Bool
  /-- In a decorator, where a bracket does not select a property. -/
  inDecorator : Bool
  deriving DecidableEq, Inhabited, Repr

/-- A place in the source with the faults found before it. -/
structure Place where
  cursor : Cursor
  token : Token
  /-- Where the token before the current one ends. -/
  previousStop : Nat
  /-- Faults of tokens, the latest first. -/
  tokenFaults : List Fault
  /-- Faults of phrases, the latest first. -/
  faults : List Fault
  /-- The fault that ended the reading, and the number of faults of phrases before it. -/
  fatal : Option (Fault × Nat)
  isPure : Bool
  isFreeOfEffects : Bool
  deriving Inhabited

/-- The state while phrases are read. -/
structure Reader where
  place : Place
  trivia : Trivia
  surroundings : Surroundings
  dialect : Dialect
  /-- The length of the source, which bounds the number of steps of every repetition. -/
  bound : Nat
  /-- Where the properties of object literals stand that are only fine in a target of an assignment. -/
  openProperties : List Nat
  /-- Places of parentheses that are known not to open an arrow function. -/
  notArrows : List Nat
  deriving Inhabited

/-- Reading something from the source. -/
abbrev Reading := StateM Reader

namespace Reading

/-! ## The current token -/

def token : Reading Token := return (← get).place.token

def kind : Reading TokenKind := return (← get).place.token.kind

def isAt (k : TokenKind) : Reading Bool := return (← get).place.token.kind = k

def isAtSign (s : Sign) : Reading Bool := isAt (.sign s)

def isAtWord (w : Keyword) : Reading Bool := isAt (.keyword w)

/-- Where the current token starts. -/
def here : Reading Nat := return (← get).place.token.start

def onNewLine : Reading Bool := return (← get).place.token.onNewLine

def bound : Reading Nat := return (← get).bound

def hasTypes : Reading Bool := return (← get).dialect.hasTypes

def hasMarkup : Reading Bool := return (← get).dialect.hasMarkup

def surroundings : Reading Surroundings := return (← get).surroundings

/-! ## Faults -/

/-- Notes a fault of a phrase and goes on. -/
def note (fault : Fault) : Reading Unit :=
  modify fun r => { r with place.faults := fault :: r.place.faults }

/-- Ends the reading because of a fault, unless it has ended before. -/
def fail (fault : Fault) : Reading Unit :=
  modify fun r =>
    if r.place.fatal.isSome then r
    else { r with
      place.fatal := some (fault, r.place.faults.length)
      place.cursor := r.place.cursor.toEnd }

def hasFailed : Reading Bool := return (← get).place.fatal.isSome

/-- Whether nothing more can be read. -/
def isOver : Reading Bool := do
  let place := (← get).place
  return place.token.kind = .endOfText || place.token.kind = .invalid || place.fatal.isSome

/-- Ends the reading because of the current token, or because of what made it unreadable. -/
def unexpected : Reading Unit := do
  let place := (← get).place
  match place.token.kind, place.tokenFaults with
  | .endOfText, fault :: earlier | .invalid, fault :: earlier =>
    modify fun r => { r with place.tokenFaults := earlier }
    fail fault
  | _, _ => fail .unexpectedToken

/-! ## Stepping on -/

/-- Puts a token that was read in place of the current one. -/
def put (lexed : Lexed) : Reading Unit :=
  modify fun r => { r with
    place := { r.place with
      cursor := lexed.cursor
      token := lexed.token
      tokenFaults := lexed.faults.reverse ++ r.place.tokenFaults
      isPure := lexed.trivia.pure
      isFreeOfEffects := lexed.trivia.noSideEffects }
    trivia := lexed.trivia }

/-- Remembers where the current token ends, before it is left. -/
def leave : Reading Unit :=
  modify fun r => { r with place.previousStop := r.place.token.stop }

/-- Steps to the next token; the current one is taken as a token of the kind. -/
def advanceAs (k : TokenKind) : Reading Unit := do
  let isWord := match k with
    | .keyword _ => true
    | _ => false
  if isWord && (← token).escaped then note .escapedKeyword
  leave
  let r ← get
  put (lexToken r.bound false r.trivia r.place.cursor)

/-- Steps to the next token. -/
def advance : Reading Unit := do advanceAs (← kind)

/-- Steps over a token of the kind, if there is one. -/
def eat (k : TokenKind) : Reading Bool := do
  if ← isAt k then
    advance
    return true
  else return false

def eatSign (s : Sign) : Reading Bool := eat (.sign s)

def eatWord (w : Keyword) : Reading Bool := eat (.keyword w)

/-- Asks for a token of the kind without stepping over it. -/
def demand (k : TokenKind) : Reading Unit := do
  let found ← kind
  if found ≠ k then fail (.expected k found)

/-- Asks for a token of the kind and steps on. -/
def expect (k : TokenKind) : Reading Unit := do
  demand k
  advanceAs k

def expectSign (s : Sign) : Reading Unit := expect (.sign s)

def expectWord (w : Keyword) : Reading Unit := expect (.keyword w)

/-- Whether a statement may end here without a semicolon. -/
def canEndStatement : Reading Bool := do
  let t ← token
  return t.onNewLine || t.kind = .sign .semicolon || t.kind = .sign .rightBrace || t.kind = .endOfText

/-- Ends a statement. -/
def endStatement : Reading Unit := do
  if ← eatSign .semicolon then return
  if !(← canEndStatement) then fail .missingSemicolon

/-! ## Looking ahead -/

/-- Goes back to a place. -/
def rewind (place : Place) : Reading Unit :=
  modify fun r => { r with
    place
    trivia := { r.trivia with pure := place.isPure, noSideEffects := place.isFreeOfEffects } }

/-- The current place, from which reading can go on as if nothing had failed. -/
def checkpoint : Reading Place := do
  let place := (← get).place
  modify fun r => { r with place.fatal := none }
  return place

/-- Reads something and goes back. -/
def lookahead {α : Type} (reading : Reading α) : Reading α := do
  let place ← checkpoint
  let answer ← reading
  rewind place
  return answer

/-- Reads something; if that fails, nothing has happened. -/
def attempt {α : Type} (reading : Reading α) : Reading (Option α) := do
  let surroundings ← surroundings
  let place ← checkpoint
  let answer ← reading
  if ← hasFailed then
    modify fun r => { r with surroundings }
    rewind place
    return none
  else return some answer

/-- The token after the current one. -/
def nextToken : Reading Token := lookahead do
  advance
  token

/-- The kind of the token after the current one. -/
def nextKind : Reading TokenKind := return (← nextToken).kind

/-! ## Surroundings -/

/-- Reads something in other surroundings. -/
def within {α : Type} (change : Surroundings → Surroundings) (reading : Reading α) : Reading α := do
  let before ← surroundings
  modify fun r => { r with surroundings := change before }
  let answer ← reading
  modify fun r => { r with surroundings := before }
  return answer

/-! ## Repetition -/

/-- Reads items until one is missing, at most so many. -/
def repeatedly {α : Type} (item : Reading (Option α)) : Nat → Reading (List α)
  | 0 => return []
  | steps + 1 => do
    match ← item with
    | some a => return a :: (← repeatedly item steps)
    | none => return []

/-- Reads items until one is missing. -/
def many {α : Type} (item : Reading (Option α)) : Reading (List α) := do
  repeatedly item ((← bound) + 2)

/-- Extends a value step by step until a step is missing, at most so often. -/
def iterate {α : Type} (step : α → Reading (α × Bool)) : Nat → α → Reading α
  | 0, a => return a
  | steps + 1, a => do
    let (a, goOn) ← step a
    if goOn then iterate step steps a else return a

/-- Extends a value step by step; a step says whether another one follows. -/
def loop {α : Type} (a : α) (step : α → Reading (α × Bool)) : Reading α := do
  iterate step ((← bound) + 2) a

/-- Reads items up to a closing token that is not stepped over. -/
def itemsUntil {α : Type} (close : TokenKind) (item : Reading α) : Reading (List α) :=
  many do
    if (← isAt close) || (← isOver) then return none
    return some (← item)

/--
Reads items with separators up to a closing token that is not stepped over, and says where the separator before it
stands, if there is one.
-/
def delimited {α : Type} (close separator : TokenKind) (item : Reading α) : Reading (List α × Option Nat) := do
  if (← isAt close) || (← isOver) then return ([], none)
  let first ← item
  let (items, trailing) ← loop ([first], none) fun (items, _) => do
    if (← isAt close) || (← isOver) then return ((items, none), false)
    let pos ← here
    expect separator
    if ← isAt close then return ((items, some pos), false)
    let next ← item
    return ((next :: items, none), true)
  return (items.reverse, trailing)

/-- Reads items with commas between them up to a closing sign, which is not stepped over. -/
def commaList {α : Type} (close : Sign) (item : Reading α) : Reading (List α) := do
  return (← delimited (.sign close) (.sign .comma) item).1

/-! ## Reading a token anew -/

/-- Reads the current token as the beginning of a regular expression. -/
def rereadRegex : Reading ScannedRegex := do
  let r ← get
  let t := r.place.token
  let start : Cursor := ⟨t.source, t.start⟩
  -- Once the reading has failed there is nothing left to read.
  let after := if r.place.fatal.isSome then r.place.cursor else start.skip 1
  let s := scanRegex after
  put (.ofScanned start t.onNewLine r.trivia s.token)
  return s

/-- Reads what follows a value in a template. -/
def rereadTemplate : Reading Unit := do
  let r ← get
  let t := r.place.token
  let start : Cursor := ⟨t.source, t.start⟩
  put (.ofScanned start t.onNewLine r.trivia (scanTemplate false false r.bound r.place.cursor))

/-- Splits a sign that begins with `<` into `<` and the rest. -/
def splitLess : Reading Unit := do
  let r ← get
  let t := r.place.token
  match t.kind with
  | .sign .doubleLess | .sign .lessEqual | .sign .doubleLessEqual =>
    let start : Cursor := ⟨t.source, t.start⟩
    let after := if r.place.fatal.isSome then r.place.cursor else start.skip 1
    put (.ofScanned start t.onNewLine r.trivia (.plain (.sign .less) after))
  | _ => return

/-- Joins `>` with the signs that follow it directly. -/
def joinGreater : Reading TokenKind := do
  let r ← get
  let t := r.place.token
  if t.kind = .sign .greater then
    let rest := r.place.cursor.rest
    let found := (Sign.combinedSpellings.filter fun p => p.1.isPrefixOf ('>' :: rest)).foldl
      (fun (best : List Char × Sign) p => if p.1.length > best.1.length then p else best) (['>'], .greater)
    let start : Cursor := ⟨t.source, t.start⟩
    put (.ofScanned start t.onNewLine r.trivia
      (.plain (.sign found.2) (r.place.cursor.skip (found.1.length - 1))))
  kind

/-- Steps to what stands between elements of markup. -/
def advanceInMarkup : Reading Unit := do
  leave
  let r ← get
  put (.ofScanned r.place.cursor false r.trivia (scanMarkupChild r.place.cursor))

/-- Asks for a token and steps to what stands between elements of markup. -/
def expectInMarkup (k : TokenKind) : Reading Unit := do
  demand k
  advanceInMarkup

/-- Asks for a token and steps to the value of an attribute of markup. -/
def expectBeforeAttribute (k : TokenKind) : Reading Unit := do
  demand k
  leave
  let r ← get
  put (lexToken r.bound true r.trivia r.place.cursor)

/-- Lets the name of an element or an attribute go on over hyphens. -/
def extendMarkupName : Reading Unit := do
  let r ← get
  let t := r.place.token
  match r.place.cursor.rest with
  | '-' :: _ =>
    let after := r.place.cursor.skipWhile fun c => isWordPart c || c == '-'
    let start : Cursor := ⟨t.source, t.start⟩
    put (.ofScanned start t.onNewLine r.trivia
      ⟨.identifier, after, [], t.escaped, (t.source.take (after.offset - t.start)).map Char.toNat, false⟩)
  | _ => return

end Reading

end Bundler.Script
