import Bundler.CommandLine.Command
import Bundler.CommandLine.Similarity

/-!
# Reading a command line

Words are read from left to right. A word that begins with a dash is a flag, or an option whose value is attached or
follows; any other word is a command or the entry. A value that is being waited for is settled when the next argument
comes, or at the end. Behind `--` every word is a value. The verbose flag is known before and after the command.
-/

namespace Bundler.CommandLine

/-- A word of the command line: bytes that need not be text. -/
abbrev Word := List UInt8

def Word.display (w : Word) : String :=
  Utf8.decodeLossy w

/-! ## The shapes of words -/

def dash : UInt8 := 0x2D

def equalSign : UInt8 := 0x3D

/-- What a word looks like. -/
inductive Shape where
  /-- Two dashes and nothing else. -/
  | dashes
  /-- Two dashes and a name, possibly with a value behind `=`. -/
  | long (name : Word) (value : Option Word)
  /-- One dash and letters. -/
  | short (letters : Word)
  | plain
  deriving DecidableEq

def shapeOf : Word → Shape
  | a :: b :: rest =>
    if a = dash && b = dash then
      if rest.isEmpty then .dashes
      else
        let name := rest.takeWhile (· != equalSign)
        match rest.dropWhile (· != equalSign) with
        | [] => .long name none
        | _ :: value => .long name (some value)
    else if a = dash then .short (b :: rest)
    else .plain
  | _ => .plain

/-! ## Arguments read so far -/

/-- The arguments of one command as far as they are read. -/
structure Progress where
  scope : Scope
  /-- The arguments that are settled, in their order. -/
  used : List Argument
  entry : Option Word
  output : Option Word
  /-- An argument whose value is yet to come, or came and is not settled. -/
  pending : Option (Argument × Option Word)
  /-- Behind `--`. -/
  onlyValues : Bool
  /-- How many values without a name there were. -/
  values : Nat

namespace Progress

def start (scope : Scope) : Progress :=
  ⟨scope, [], none, none, none, false, 0⟩

/-- Settles an argument with its value. -/
def settle (p : Progress) (argument : Argument) (value : Word) : Except Answer Progress :=
  if p.used.contains argument then .error (.repeated argument p.scope)
  else if value.isEmpty then .error (.noValue argument)
  else
    let p := { p with used := p.used ++ [argument] }
    match argument with
    | .entry => .ok { p with entry := some value }
    | .output => .ok { p with output := some value }
    | _ => .ok p

/-- Settles the pending argument. -/
def settlePending (p : Progress) : Except Answer Progress :=
  match p.pending with
  | none => .ok p
  | some (argument, none) => .error (.noValue argument)
  | some (argument, some value) => { p with pending := none }.settle argument value

/-- Settles the pending argument if that is possible. -/
def settlePendingIfPossible (p : Progress) : Progress :=
  match p.settlePending with
  | .ok p => p
  | .error _ => { p with pending := none }

/-- Takes a flag. -/
def takeFlag (p : Progress) (argument : Argument) : Except Answer Progress := do
  let p ← p.settlePending
  match argument with
  | .help => .error (.help p.scope)
  | .version => .error .version
  | _ =>
    if p.used.contains argument then .error (.repeated argument p.scope)
    else .ok { p with used := p.used ++ [argument] }

/-- Takes an option and the value attached to it, or waits for the value. -/
def takeOption (p : Progress) (argument : Argument) (attached : Option Word) : Except Answer Progress := do
  let p ← p.settlePending
  match attached with
  | none => .ok { p with pending := some (argument, none) }
  | some value => p.settle argument value

/-- The command among the remaining words that knows a similar name, the one named first. -/
def similarElsewhere (name : String) (remaining : List String) : Option Similar :=
  let found := Scope.commands.filterMap fun s =>
    match (similarWords name s.longs).getLast?, remaining.findIdx? (· == s.name) with
    | some long, some place => some (place, (⟨long, some s.name⟩ : Similar))
    | _, _ => none
  (found.foldl (fun best candidate =>
    match best with
    | none => some candidate
    | some b => if candidate.1 < b.1 then some candidate else some b) none).map Prod.snd

/-- The answer to a name behind two dashes that is not known. -/
def unknownLong (p : Progress) (name : String) (remaining : List Word) : Answer :=
  let p := p.settlePendingIfPossible
  let here := (similarWords name p.scope.longs).getLast?
  let similar := match here with
    | some long => some ⟨long, none⟩
    | none => if p.scope = .program then similarElsewhere name (remaining.map Word.display) else none
  let used := match here.bind p.scope.ofLong? with
    | some argument => if p.used.contains argument then p.used else p.used ++ [argument]
    | none => p.used
  .unknown ("--" ++ name) similar (similar.isNone && !p.onlyValues && p.scope.hasEntry) used p.scope

/-- Takes a word with two dashes. -/
def takeLong (p : Progress) (name : Word) (value : Option Word) (remaining : List Word) : Except Answer Progress :=
  match Utf8.decode? name with
  | none => .error (p.unknownLong name.display remaining)
  | some text =>
    match p.scope.ofLong? text with
    | none => .error (p.unknownLong text remaining)
    | some argument =>
      if argument.takesValue then p.takeOption argument value
      else
        match value with
        | none => p.takeFlag argument
        | some value =>
          .error (.needlessValue value.display argument
            (if p.used.contains argument then p.used else p.used ++ [argument]) p.scope)

/-- The answer to a letter behind one dash that is not known. -/
def unknownShort (p : Progress) (text : String) : Answer :=
  .unknown text none (!p.onlyValues && p.scope.hasEntry) [] p.scope

/-- Takes the letters behind one dash, which are read as far as they are text; `rest` is what follows the text. -/
def takeShort (p : Progress) (rest : Word) : List Char → Except Answer Progress
  | [] => if rest.isEmpty then .ok p else .error (p.unknownShort ("-" ++ rest.display))
  | letter :: letters =>
    match p.scope.ofShort? letter with
    | none => .error (p.unknownShort ("-" ++ letter.toString))
    | some argument =>
      if argument.takesValue then
        let attached := Utf8.encode (String.ofList letters) ++ rest
        let attached := match attached with
          | b :: value => if b = equalSign then some value else some attached
          | [] => none
        p.takeOption argument attached
      else
        match p.takeFlag argument with
        | .error answer => .error answer
        | .ok p => p.takeShort rest letters

/-- The longest beginning of a word that is text, and what follows it. -/
def textBeginning (w : Word) : List Char × Word :=
  let chars := ((Utf8.scan w).takeWhile Option.isSome).filterMap id
  (chars, w.drop (Utf8.encode (String.ofList chars)).length)

/-- Takes a word that is no flag. -/
def takeValue (p : Progress) (w : Word) : Except Answer Progress :=
  if p.scope.hasEntry && p.values = 0 then do
    let p ← p.settlePending
    .ok { p with pending := some (.entry, some w), values := 1 }
  else
    let looksLikeFlag := match shapeOf w with
      | .plain => false
      | _ => true
    .error (.unknown w.display none (!p.onlyValues && p.scope.hasEntry && looksLikeFlag) [] p.scope)

/-- The answer to a word that should have been a command. -/
def unknownCommand (onlyValues : Bool) (w : Word) : Answer :=
  let text := w.display
  if onlyValues && ((Utf8.decode? w).bind Scope.command?).isSome then .needlessDashes text
  else .unknownCommand text (similarWords text (Scope.commands.map Scope.name)) .program

/-! ## The words of a command -/

/-- Reads the words behind a command. -/
def words (p : Progress) : List Word → Except Answer Progress
  | [] => p.settlePending
  | w :: remaining =>
    if p.onlyValues then
      match p.takeValue w with
      | .error answer => .error answer
      | .ok p => p.words remaining
    else
      let taken : Except Answer Progress := match shapeOf w with
        | .dashes => .ok { p with onlyValues := true }
        | .long name value => p.takeLong name value remaining
        | .short letters =>
          let (text, rest) := textBeginning letters
          p.takeShort rest text
        | .plain =>
          match p.pending with
          | some (argument, none) => .ok { p with pending := some (argument, some w) }
          | _ => p.takeValue w
      match taken with
      | .error answer => .error answer
      | .ok p => p.words remaining

/-- The command that was read. -/
def command (p : Progress) : Command :=
  let path (w : Option Word) : Option Path := w.map Path.mk
  if p.scope = .bundle then .bundle (path p.entry) (path p.output) (p.used.contains .singleQuote)
  else .graph (path p.entry)

end Progress

open Progress

/-- The scope that help is asked for: each word names a command of the one before. -/
def helpScope : Scope → List Word → Answer
  | scope, [] => .help scope
  | scope, w :: rest =>
    match scope, (Utf8.decode? w).bind Scope.command? with
    | .program, some command => helpScope command rest
    | _, _ => .unknownCommand w.display [] scope

/-- Reads the words behind the name of the program. -/
def programWords (p : Progress) : List Word → Except Answer Invocation
  | [] =>
    if p.used.isEmpty then .error .helpForNothing else .error .noCommand
  | w :: remaining =>
    if p.onlyValues then .error (unknownCommand true w)
    else
      match (Utf8.decode? w).bind Scope.command? with
      | some .help => .error (helpScope .program remaining)
      | some scope =>
        match (Progress.start scope).words remaining with
        | .error answer => .error answer
        | .ok inner => .ok ⟨inner.command, p.used.contains .verbose || inner.used.contains .verbose⟩
      | none =>
        let taken : Except Answer Progress := match shapeOf w with
          | .dashes => .ok { p with onlyValues := true }
          | .long name value => p.takeLong name value remaining
          | .short letters =>
            let (text, rest) := textBeginning letters
            p.takeShort rest text
          | .plain => .error (unknownCommand false w)
        match taken with
        | .error answer => .error answer
        | .ok p => programWords p remaining

/-- The name by which the program was called: the last name of its path. -/
def programName (arguments : List Word) : String :=
  match arguments with
  | [] => Scope.program.name
  | w :: _ =>
    match (Path.mk w).components.getLast? with
    | some (.name name) => (Utf8.decode? name.bytes).getD Scope.program.name
    | _ => Scope.program.name

/-- Reads a whole command line, the name of the program first. -/
def parse (arguments : List Word) : Except Answer Invocation :=
  programWords (Progress.start .program) (arguments.drop 1)

end Bundler.CommandLine
