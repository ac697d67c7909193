import Bundler.Log.Event

/-!
# Log filters

Which events of the log are shown. A filter is a list of directives, each a level that may be limited to a target or to
events with certain fields; of the directives that concern an event the most specific one decides. An event that no
directive concerns is not shown.
-/

namespace Bundler

/-- A level for the events that the directive concerns; `0` shows nothing. -/
structure Directive where
  /-- Concerns only events whose target begins so. -/
  target : Option String
  /-- Concerns only events within a span, of which there are none. -/
  withinSpan : Bool
  /-- Concerns only events with these fields. -/
  fields : List String
  verbosity : Nat
  deriving DecidableEq, Inhabited, Repr

abbrev LogFilter := List Directive

namespace LogFilter

/-! ## Reading a filter -/

/-- The verbosity of a level given by name, in any case, or by number. -/
def verbosity? (text : String) : Option Nat :=
  let digits := if text.startsWith "+" then text.toList.drop 1 else text.toList
  if !digits.isEmpty && digits.all Char.isDigit then
    let n := digits.foldl (fun n c => n * 10 + (c.toNat - '0'.toNat)) 0
    if n ≤ 5 then some n else none
  else if text.isEmpty then some 1
  else
    match text.toLower with
    | "off" => some 0
    | "error" => some 1
    | "warn" => some 2
    | "info" => some 3
    | "debug" => some 4
    | "trace" => some 5
    | _ => none

/-- Where the reading of a directive stands. -/
inductive State where
  | start
  | levelOrTarget
  | span (first : Nat)
  | field (first : Nat)
  | fields
  | afterSpan
  | level (first : Nat)

/-- A directive that is being read. -/
structure Draft where
  target : Option String
  withinSpan : Bool
  fields : List String

/-- The characters from one place to another. -/
def slice (text : List Char) (first last : Nat) : String :=
  String.ofList ((text.take last).drop first)

/-- The field that a condition on fields names; one that asks for a value only ever concerns spans. -/
def addField (draft : Draft) (condition : String) : Option Draft :=
  if condition.isEmpty then none
  else if condition.toList.contains '=' then some { draft with withinSpan := true }
  else some { draft with fields := draft.fields ++ [condition] }

/-- Reads one character at its place in the text. -/
def step (text : List Char) (place : Nat) (c : Char) : State × Draft → Option (State × Draft)
  | (.start, draft) =>
    if c == '[' then some (.span (place + 1), draft)
    else if c == '-' || c == ':' || c == '_' || c.isAlphanum || c.toNat ≥ 0x80 then some (.levelOrTarget, draft)
    else none
  | (.levelOrTarget, draft) =>
    if c == '=' then some (.level (place + 1), { draft with target := some (slice text 0 place) })
    else if c == '[' then some (.span (place + 1), { draft with target := some (slice text 0 place) })
    else some (.levelOrTarget, draft)
  | (.span first, draft) =>
    if c == ']' then some (.afterSpan, { draft with withinSpan := true })
    else if c == '\x7b' then
      some (.field (place + 1), { draft with withinSpan := draft.withinSpan || first < place })
    else some (.span first, draft)
  | (.field first, draft) =>
    if c == '\x7d' then (addField draft (slice text first place)).map fun draft => (.fields, draft)
    else some (.field first, draft)
  | (.fields, draft) => if c == ']' then some (.afterSpan, draft) else none
  | (.afterSpan, draft) => if c == '=' then some (.level (place + 1), draft) else none
  | (.level first, draft) => some (.level first, draft)

def isBlank (c : Char) : Bool :=
  c.isWhitespace || c == '\x0b' || c == '\x0c' || c == Char.ofNat 0x85 || c == Char.ofNat 0xA0

/-- Reads the characters in order, beginning at a place. -/
def steps (text : List Char) : Nat → List Char → State × Draft → Option (State × Draft)
  | _, [], reached => some reached
  | place, c :: rest, reached =>
    match step text place c reached with
    | none => none
    | some reached => steps text (place + 1) rest reached

/-- Reads a directive: `level`, `target`, `target=level`, or one of them with a span and fields in brackets. Blanks
around a directive count for the places of its parts. -/
def directive? (text : String) : Option Directive :=
  let chars := text.toList
  let trimmed := ((chars.dropWhile isBlank).reverse.dropWhile isBlank).reverse
  match steps chars 0 trimmed (.start, ⟨none, false, []⟩) with
  | none => none
  | some (.levelOrTarget, draft) =>
    match verbosity? text with
    | some verbosity => some ⟨none, draft.withinSpan, draft.fields, verbosity⟩
    | none => some ⟨some text, draft.withinSpan, draft.fields, 5⟩
  | some (.level first, draft) =>
    let level := slice chars first chars.length
    if level.isEmpty then some ⟨draft.target, draft.withinSpan, draft.fields, 5⟩
    else (verbosity? level).map fun verbosity => ⟨draft.target, draft.withinSpan, draft.fields, verbosity⟩
  | some (.afterSpan, draft) => some ⟨draft.target, draft.withinSpan, draft.fields, 5⟩
  | some _ => none

/-- Cuts a text at its commas. -/
def splitCommas : List Char → List (List Char)
  | [] => [[]]
  | c :: rest =>
    match splitCommas rest with
    | [] => [[c]]
    | piece :: pieces => if c == ',' then [] :: piece :: pieces else (c :: piece) :: pieces

/-- Shows errors only. -/
def errorsOnly : LogFilter :=
  [⟨none, false, [], 1⟩]

/-- Reads directives with commas between them; no directives show errors only. -/
def parse? (text : String) : Option LogFilter :=
  if text.isEmpty then some errorsOnly
  else (splitCommas text.toList).mapM fun piece => directive? (String.ofList piece)

/-! ## Applying a filter -/

/-- The target of every event. -/
def target : String := "knit::utils::logging"

/-- The fields of every event. -/
def eventFields : List String := ["message"]

/-- The filter that is used when none is given. -/
def standard (verbose : Bool) : LogFilter :=
  [⟨some "knit", false, [], if verbose then 4 else 3⟩]

/-- The filter given by the environment if it is readable, or else the standard one. -/
def choose (given : Option String) (verbose : Bool) : LogFilter :=
  (given.bind parse?).getD (standard verbose)

/-- The directive is about events. -/
def concerns (d : Directive) : Bool :=
  !d.withinSpan && (d.target.getD "").isPrefixOf target && d.fields.all eventFields.contains

/-- A directive with a longer target, or with more fields, is more specific; of two equal ones the later decides. -/
def isAtLeastAsSpecific (d e : Directive) : Bool :=
  let length (t : Option String) : Nat := match t with
    | none => 0
    | some text => text.utf8ByteSize + 1
  length d.target > length e.target ||
    (length d.target == length e.target && d.fields.length ≥ e.fields.length)

/-- The directive that decides. -/
def decisive? (f : LogFilter) : Option Directive :=
  (f.filter concerns).foldl (fun best d =>
    match best with
    | none => some d
    | some e => if isAtLeastAsSpecific d e then some d else some e) none

/-- The event is shown. -/
def admits (f : LogFilter) (e : Event) : Bool :=
  match decisive? f with
  | none => false
  | some d => e.level.verbosity ≤ d.verbosity

end LogFilter

end Bundler
