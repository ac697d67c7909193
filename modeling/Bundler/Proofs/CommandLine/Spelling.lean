import Bundler.CommandLine.Run
import Bundler.Proofs.Text.Utf8
import Mathlib.Data.List.Perm.Basic

/-!
# Spelling a command line

An invocation is spelled by pieces: one for each argument that it has, in words that name the argument or are its value.
The pieces stand behind the name of the command in any order, and the verbose flag may also stand before it; `Spells`
says so.

What is read of pieces is collected in `Progress.ofPieces`. A piece that is no repetition adds itself, whatever words
follow it (`Progress.Reads.words_append`), so pieces in any order are all read (`Progress.Reads.words_pieces`).

* `parse_eq_of_spells` — a command line is read as the invocation that it spells
-/

namespace Bundler.CommandLine

/-! ## Pieces -/

/-- A word that can stand as a value: there is something in it, and it does not begin with a dash. -/
structure IsValue (w : Word) : Prop where
  ne_nil : w ≠ []
  head : w.head? ≠ some dash

instance (w : Word) : Decidable (IsValue w) :=
  decidable_of_iff (w ≠ [] ∧ w.head? ≠ some dash) ⟨fun h => ⟨h.1, h.2⟩, fun h => ⟨h.ne_nil, h.head⟩⟩

/-- How an output is spelled. -/
inductive OutputStyle where
  /-- As `-o X`. -/
  | letter
  /-- As `--output X`. -/
  | name
  /-- As `--output=X`. -/
  | joined
  deriving DecidableEq

/-- How the verbose flag is spelled. -/
inductive FlagStyle where
  /-- As `-v`. -/
  | letter
  /-- As `--verbose`. -/
  | name
  deriving DecidableEq

/-- An argument as it is spelled. -/
inductive Piece where
  | entry (value : Word)
  | output (style : OutputStyle) (value : Word)
  | singleQuote
  | verbose (style : FlagStyle)
  deriving DecidableEq

namespace Piece

/-- The words that spell an argument. -/
def words : Piece → List Word
  | entry value => [value]
  | output .letter value => [Utf8.encode "-o", value]
  | output .name value => [Utf8.encode "--output", value]
  | output .joined value => [Utf8.encode "--output=" ++ value]
  | singleQuote => [Utf8.encode "--single-quote"]
  | verbose .letter => [Utf8.encode "-v"]
  | verbose .name => [Utf8.encode "--verbose"]

def argument : Piece → Argument
  | entry _ => .entry
  | output _ _ => .output
  | singleQuote => .singleQuote
  | verbose _ => .verbose

def entry? : Piece → Option Word
  | entry value => some value
  | _ => none

def output? : Piece → Option Word
  | output _ value => some value
  | _ => none

theorem entry?_eq_none {piece : Piece} (h : piece.argument ≠ .entry) : piece.entry? = none := by
  cases piece with
  | entry value => exact absurd rfl h
  | _ => rfl

theorem output?_eq_none {piece : Piece} (h : piece.argument ≠ .output) : piece.output? = none := by
  cases piece with
  | output style value => exact absurd rfl h
  | _ => rfl

end Piece

/-- The scope of a command's arguments. -/
def Command.scope : Command → Scope
  | bundle _ _ _ => .bundle
  | graph _ => .graph

/-- The pieces that spell an invocation: one for each argument that it has. -/
def Invocation.pieces (outputStyle : OutputStyle) (flagStyle : FlagStyle) (invocation : Invocation) : List Piece :=
  ( invocation.command.entry?.toList.map fun path => .entry path.bytes) ++
    (invocation.command.output?.toList.map fun path => .output outputStyle path.bytes) ++
    (if invocation.command.singleQuote then [.singleQuote] else []) ++
    (if invocation.verbose then [.verbose flagStyle] else [])

/-- The value of a piece, if it has one, can stand as a value. -/
def Piece.IsSpellable : Piece → Prop
  | entry value | output _ value => IsValue value
  | singleQuote | verbose _ => True

instance : (piece : Piece) → Decidable piece.IsSpellable
  | .entry value | .output _ value => inferInstanceAs (Decidable (IsValue value))
  | .singleQuote | .verbose _ => .isTrue trivial

/-- A command line spells an invocation: behind the name of the program stand the name of the command and the pieces in
any order, of which only the verbose flag may stand before the name of the command. -/
inductive Spells (invocation : Invocation) : List Word → Prop
  | intro (program : Word) (before behind : List Piece) (outputStyle : OutputStyle) (flagStyle : FlagStyle)
      (hpieces : (before ++ behind).Perm (invocation.pieces outputStyle flagStyle))
      (hbefore : ∀ piece ∈ before, piece.argument = .verbose) (hspellable : ∀ piece ∈ behind, piece.IsSpellable) :
      Spells invocation (program ::
        (before.flatMap Piece.words ++ Utf8.encode invocation.command.scope.name :: behind.flatMap Piece.words))

/-! ## Words and what they name -/

section

variable {scope : Scope} {argument : Argument}

/-- No two arguments of a command share a name. -/
theorem Scope.ofLong?_of_mem {long : String} (hmem : argument ∈ scope.arguments) (hlong : argument.long? = some long) :
    scope.ofLong? long = some argument := by
  have hfound : ∀ a ∈ scope.arguments, a.long? ≠ none → scope.arguments.find? (·.long? == a.long?) = some a := by
    cases scope <;> decide
  simpa [ofLong?, hlong] using hfound argument hmem

/-- No two arguments of a command share a letter. -/
theorem Scope.ofShort?_of_mem {letter : Char} (hmem : argument ∈ scope.arguments)
    (hshort : argument.short? = some letter) : scope.ofShort? letter = some argument := by
  have hfound : ∀ a ∈ scope.arguments, a.short? ≠ none → scope.arguments.find? (·.short? == a.short?) = some a := by
    cases scope <;> decide
  simpa [ofShort?, hshort] using hfound argument hmem

end

theorem IsValue.shapeOf_eq {w : Word} (h : IsValue w) : shapeOf w = .plain := by
  obtain ⟨hne, hhead⟩ := h
  match w with
  | [] => rfl
  | [_] => rfl
  | a :: b :: rest =>
    have ha : a ≠ dash := by simpa using hhead
    simp [shapeOf, ha]

namespace Progress

theorem textBeginning_encode (s : String) : textBeginning (Utf8.encode s) = (s.toList, []) := by
  have hchars : ((s.toList.map some).takeWhile Option.isSome).filterMap id = s.toList := by
    rw [List.takeWhile_eq_self_iff.2 (by simp), List.filterMap_map]
    simp
  simp only [textBeginning, Utf8.scan_encode, hchars, String.ofList_toList, List.drop_length]

section

variable {p q : Progress} {w : Word} {rest : List Word} {argument : Argument}

theorem takeLong_eq_takeFlag {long : String} (hmem : argument ∈ p.scope.arguments)
    (hlong : argument.long? = some long) (hflag : argument.takesValue = false) (rest : List Word) :
    p.takeLong (Utf8.encode long) none rest = p.takeFlag argument := by
  simp [takeLong, Utf8.decode?_encode, Scope.ofLong?_of_mem hmem hlong, hflag]

theorem takeLong_eq_takeOption {long : String} (hmem : argument ∈ p.scope.arguments)
    (hlong : argument.long? = some long) (hoption : argument.takesValue = true) (value : Option Word)
    (rest : List Word) : p.takeLong (Utf8.encode long) value rest = p.takeOption argument value := by
  simp [takeLong, Utf8.decode?_encode, Scope.ofLong?_of_mem hmem hlong, hoption]

theorem takeShort_eq_takeFlag {letter : Char} (hmem : argument ∈ p.scope.arguments)
    (hshort : argument.short? = some letter) (hflag : argument.takesValue = false) :
    p.takeShort [] [letter] = p.takeFlag argument := by
  rw [takeShort, Scope.ofShort?_of_mem hmem hshort]
  cases htake : p.takeFlag argument <;> simp [hflag, htake, takeShort]

theorem takeShort_eq_takeOption {letter : Char} (hmem : argument ∈ p.scope.arguments)
    (hshort : argument.short? = some letter) (hoption : argument.takesValue = true) :
    p.takeShort [] [letter] = p.takeOption argument none := by
  rw [takeShort, Scope.ofShort?_of_mem hmem hshort]
  simp [hoption, Utf8.encode]

/-! ## One word -/

theorem words_of_long {name : Word} {value : Option Word} (hopen : p.onlyValues = false)
    (hshape : shapeOf w = .long name value) (htake : p.takeLong name value rest = .ok q) :
    p.words (w :: rest) = q.words rest := by
  rw [words]
  simp [hopen, hshape, htake]

theorem words_of_letter (letter : Char) (hopen : p.onlyValues = false)
    (hshape : shapeOf w = .short (Utf8.encode letter.toString)) (htake : p.takeShort [] [letter] = .ok q) :
    p.words (w :: rest) = q.words rest := by
  rw [words]
  simp [hopen, hshape, textBeginning_encode, htake]

theorem words_of_awaited (hopen : p.onlyValues = false) (hpending : p.pending = some (argument, none))
    (hvalue : IsValue w) : p.words (w :: rest) = { p with pending := some (argument, some w) }.words rest := by
  rw [words]
  simp [hopen, hvalue.shapeOf_eq, hpending]

theorem words_of_value (hopen : p.onlyValues = false) (hpending : ∀ argument, p.pending ≠ some (argument, none))
    (hvalue : IsValue w) (htake : p.takeValue w = .ok q) : p.words (w :: rest) = q.words rest := by
  rw [words]
  match hwaits : p.pending with
  | none | some (_, some _) => simp [hopen, hvalue.shapeOf_eq, htake]
  | some (argument, none) => exact absurd hwaits (hpending argument)

end

/-! ## Settling -/

section

variable {p q : Progress} {argument : Argument} {value : Word}

/-- Settling changes neither the scope nor how further words are read. -/
theorem unchanged_of_settle (h : p.settle argument value = .ok q) :
    q.scope = p.scope ∧ q.onlyValues = p.onlyValues ∧ q.values = p.values := by
  unfold settle at h
  split_ifs at h
  cases argument <;> cases h <;> exact ⟨rfl, rfl, rfl⟩

theorem unchanged_of_settlePending (h : p.settlePending = .ok q) :
    q.scope = p.scope ∧ q.onlyValues = p.onlyValues ∧ q.values = p.values := by
  unfold settlePending at h
  split at h
  · cases h
    exact ⟨rfl, rfl, rfl⟩
  · cases h
  · exact unchanged_of_settle (p := { p with pending := none }) h

/-- What is settled was not waiting for its value. -/
theorem pending_ne_of_settlePending (h : p.settlePending = .ok q) (argument : Argument) :
    p.pending ≠ some (argument, none) := by
  intro hpending
  simp [settlePending, hpending] at h

theorem settle_entry (hnew : .entry ∉ p.used) (hvalue : IsValue value) :
    p.settle .entry value = .ok { p with used := p.used ++ [.entry], entry := some value } := by
  simp [settle, hnew, hvalue.ne_nil]

theorem settle_output (hnew : .output ∉ p.used) (hvalue : IsValue value) :
    p.settle .output value = .ok { p with used := p.used ++ [.output], output := some value } := by
  simp [settle, hnew, hvalue.ne_nil]

theorem takeFlag_of_settlePending (h : p.settlePending = .ok q) (hnew : argument ∉ q.used)
    (hhelp : argument ≠ .help) (hversion : argument ≠ .version) :
    p.takeFlag argument = .ok { q with used := q.used ++ [argument] } := by
  rw [takeFlag, h]
  cases argument <;> simp_all [bind, Except.bind]

theorem takeOption_none (h : p.settlePending = .ok q) :
    p.takeOption argument none = .ok { q with pending := some (argument, none) } := by
  rw [takeOption, h]
  rfl

theorem takeOption_some (h : p.settlePending = .ok q) :
    p.takeOption argument (some value) = q.settle argument value := by
  rw [takeOption, h]
  rfl

theorem takeValue_of_settlePending (h : p.settlePending = .ok q) (hentry : .entry ∈ q.scope.arguments)
    (hnone : q.values = 0) :
    p.takeValue value = .ok { q with pending := some (.entry, some value), values := 1 } := by
  obtain ⟨hscope, -, hvalues⟩ := unchanged_of_settlePending h
  have hhas : p.scope.hasEntry = true := by simpa [Scope.hasEntry, ← hscope] using hentry
  rw [takeValue, hhas, ← hvalues, hnone, h]
  rfl

end

/-! ## What pieces add up to -/

/-- What is settled when pieces have been read. -/
def ofPieces (scope : Scope) (pieces : List Piece) : Progress where
  scope := scope
  used := pieces.map Piece.argument
  entry := (pieces.filterMap Piece.entry?).head?
  output := (pieces.filterMap Piece.output?).head?
  pending := none
  onlyValues := false
  values := (pieces.filterMap Piece.entry?).length

/-- Pieces have been read; the value of the last may be pending. -/
def Reads (p : Progress) (scope : Scope) (pieces : List Piece) : Prop :=
  p.settlePending = .ok (ofPieces scope pieces)

theorem reads_ofPieces (scope : Scope) (pieces : List Piece) : (ofPieces scope pieces).Reads scope pieces := rfl

section

variable {p : Progress} {scope : Scope} {pieces : List Piece} {piece : Piece} {value : Word}

theorem filterMap_entry?_eq_nil (hnew : .entry ∉ pieces.map Piece.argument) : pieces.filterMap Piece.entry? = [] :=
  List.filterMap_eq_nil_iff.2 fun _ hmem => Piece.entry?_eq_none fun heq => hnew (heq ▸ List.mem_map_of_mem hmem)

theorem filterMap_output?_eq_nil (hnew : .output ∉ pieces.map Piece.argument) :
    pieces.filterMap Piece.output? = [] :=
  List.filterMap_eq_nil_iff.2 fun _ hmem => Piece.output?_eq_none fun heq => hnew (heq ▸ List.mem_map_of_mem hmem)

theorem ofPieces_flag (hentry : piece.entry? = none) (houtput : piece.output? = none) :
    ofPieces scope (pieces ++ [piece]) =
      { ofPieces scope pieces with used := (ofPieces scope pieces).used ++ [piece.argument] } := by
  simp [ofPieces, hentry, houtput]

theorem ofPieces_entry (hnew : .entry ∉ pieces.map Piece.argument) :
    ofPieces scope (pieces ++ [.entry value]) =
      { ofPieces scope pieces with
        used := (ofPieces scope pieces).used ++ [.entry], entry := some value, values := 1 } := by
  simp [ofPieces, filterMap_entry?_eq_nil hnew, Piece.entry?, Piece.output?, Piece.argument]

theorem ofPieces_output (hnew : .output ∉ pieces.map Piece.argument) (style : OutputStyle) :
    ofPieces scope (pieces ++ [.output style value]) =
      { ofPieces scope pieces with used := (ofPieces scope pieces).used ++ [.output], output := some value } := by
  simp [ofPieces, filterMap_output?_eq_nil hnew, Piece.entry?, Piece.output?, Piece.argument]

namespace Reads

theorem takeFlag (h : p.Reads scope pieces) (piece : Piece) (hnew : piece.argument ∉ pieces.map Piece.argument)
    (hentry : piece.entry? = none) (houtput : piece.output? = none) :
    p.takeFlag piece.argument = .ok (ofPieces scope (pieces ++ [piece])) := by
  rw [takeFlag_of_settlePending h hnew (by cases piece <;> nofun) (by cases piece <;> nofun),
    ofPieces_flag hentry houtput]

theorem words_entry (h : p.Reads scope pieces) (hnew : .entry ∉ pieces.map Piece.argument)
    (hknown : .entry ∈ scope.arguments) (hvalue : IsValue value) (rest : List Word) :
    ∃ q : Progress, p.words (value :: rest) = q.words rest ∧ q.Reads scope (pieces ++ [.entry value]) := by
  have hnone : (ofPieces scope pieces).values = 0 := by simp [ofPieces, filterMap_entry?_eq_nil hnew]
  refine ⟨{ ofPieces scope pieces with pending := some (.entry, some value), values := 1 }, ?_, ?_⟩
  · exact words_of_value (unchanged_of_settlePending h).2.1.symm (pending_ne_of_settlePending h) hvalue
      (takeValue_of_settlePending h hknown hnone)
  · rw [Reads, ofPieces_entry hnew]
    exact settle_entry hnew hvalue

/-- A value that is the next word is settled when another word comes, and one that is attached is settled at once. -/
theorem words_output (h : p.Reads scope pieces) (hnew : .output ∉ pieces.map Piece.argument)
    (hknown : .output ∈ scope.arguments) (hvalue : IsValue value) (style : OutputStyle) (rest : List Word) :
    ∃ q : Progress, p.words ((Piece.output style value).words ++ rest) = q.words rest ∧
      q.Reads scope (pieces ++ [.output style value]) := by
  obtain ⟨hscope, hopen, -⟩ := unchanged_of_settlePending h
  have hmem : .output ∈ p.scope.arguments := hscope ▸ hknown
  have hsettle : (ofPieces scope pieces).settle .output value =
      .ok (ofPieces scope (pieces ++ [.output style value])) := by
    rw [settle_output hnew hvalue, ofPieces_output hnew]
  have hawaited : words { ofPieces scope pieces with pending := some (.output, none) } (value :: rest) =
      words { ofPieces scope pieces with pending := some (.output, some value) } rest :=
    words_of_awaited rfl rfl hvalue
  cases style with
  | letter =>
    have htake := (takeShort_eq_takeOption hmem rfl rfl).trans (takeOption_none h)
    exact ⟨_, (words_of_letter 'o' hopen.symm rfl htake).trans hawaited, hsettle⟩
  | name =>
    have htake := (takeLong_eq_takeOption hmem rfl rfl none (value :: rest)).trans (takeOption_none h)
    exact ⟨_, (words_of_long hopen.symm rfl htake).trans hawaited, hsettle⟩
  | joined =>
    have htake := (takeLong_eq_takeOption hmem rfl rfl (some value) rest).trans ((takeOption_some h).trans hsettle)
    exact ⟨_, words_of_long hopen.symm rfl htake, reads_ofPieces ..⟩

/-- One more piece is read, unless it repeats an argument or the command does not know it. -/
theorem words_append (h : p.Reads scope pieces) (hnew : piece.argument ∉ pieces.map Piece.argument)
    (hknown : piece.argument ∈ scope.arguments) (hspellable : piece.IsSpellable) (rest : List Word) :
    ∃ q : Progress, p.words (piece.words ++ rest) = q.words rest ∧ q.Reads scope (pieces ++ [piece]) := by
  obtain ⟨hscope, hopen, -⟩ := unchanged_of_settlePending h
  have hmem : piece.argument ∈ p.scope.arguments := hscope ▸ hknown
  cases piece with
  | entry value => exact h.words_entry hnew hknown hspellable rest
  | output style value => exact h.words_output hnew hknown hspellable style rest
  | singleQuote =>
    have htake := (takeLong_eq_takeFlag hmem rfl rfl rest).trans (h.takeFlag _ hnew rfl rfl)
    exact ⟨_, words_of_long hopen.symm rfl htake, reads_ofPieces ..⟩
  | verbose style =>
    cases style with
    | letter =>
      have htake := (takeShort_eq_takeFlag hmem rfl rfl).trans (h.takeFlag _ hnew rfl rfl)
      exact ⟨_, words_of_letter 'v' hopen.symm rfl htake, reads_ofPieces ..⟩
    | name =>
      have htake := (takeLong_eq_takeFlag hmem rfl rfl rest).trans (h.takeFlag _ hnew rfl rfl)
      exact ⟨_, words_of_long hopen.symm rfl htake, reads_ofPieces ..⟩

/-- Pieces that repeat no argument are all read, in any order. -/
theorem words_pieces {behind : List Piece} (h : p.Reads scope pieces)
    (hnodup : ((pieces ++ behind).map Piece.argument).Nodup)
    (hknown : ∀ piece ∈ behind, piece.argument ∈ scope.arguments)
    (hspellable : ∀ piece ∈ behind, piece.IsSpellable) :
    p.words (behind.flatMap Piece.words) = .ok (ofPieces scope (pieces ++ behind)) := by
  -- every piece in turn joins those that have been read
  induction behind generalizing p pieces with
  | nil => simpa [words, Reads] using h
  | cons piece behind ih =>
    have hnew : piece.argument ∉ pieces.map Piece.argument := by
      simp only [List.map_append, List.map_cons, List.nodup_append] at hnodup
      exact fun hmem => hnodup.2.2 _ hmem _ List.mem_cons_self rfl
    obtain ⟨q, hwords, hq⟩ := h.words_append hnew (hknown piece List.mem_cons_self)
      (hspellable piece List.mem_cons_self) (behind.flatMap Piece.words)
    rw [List.flatMap_cons, hwords, List.append_cons]
    rw [List.append_cons] at hnodup
    exact ih hq hnodup (fun piece hmem => hknown piece (List.mem_cons_of_mem _ hmem))
      fun piece hmem => hspellable piece (List.mem_cons_of_mem _ hmem)

end Reads

end

end Progress

/-! ## The name of the command -/

section

open Progress

variable {p q : Progress} {w : Word} {rest : List Word}

theorem programWords_of_letter (letter : Char) (hopen : p.onlyValues = false)
    (hcommand : (Utf8.decode? w).bind Scope.command? = none) (hshape : shapeOf w = .short (Utf8.encode letter.toString))
    (htake : p.takeShort [] [letter] = .ok q) : programWords p (w :: rest) = programWords q rest := by
  rw [programWords]
  simp [hopen, hcommand, hshape, textBeginning_encode, htake]

theorem programWords_of_long {name : Word} {value : Option Word} (hopen : p.onlyValues = false)
    (hcommand : (Utf8.decode? w).bind Scope.command? = none) (hshape : shapeOf w = .long name value)
    (htake : p.takeLong name value rest = .ok q) : programWords p (w :: rest) = programWords q rest := by
  rw [programWords]
  simp [hopen, hcommand, hshape, htake]

/-- Behind the name of a command, its arguments are read. -/
theorem programWords_command (hopen : p.onlyValues = false) (command : Command) :
    programWords p (Utf8.encode command.scope.name :: rest) =
      ((start command.scope).words rest).map fun inner =>
        ⟨inner.command, p.used.contains .verbose || inner.used.contains .verbose⟩ := by
  have hscope : command.scope = .bundle ∨ command.scope = .graph := by cases command <;> simp [Command.scope]
  have hcommand : (Utf8.decode? (Utf8.encode command.scope.name)).bind Scope.command? = some command.scope := by
    rw [Utf8.decode?_encode]
    rcases hscope with hscope | hscope <;> rw [hscope] <;> decide
  rw [programWords]
  rcases hscope with hscope | hscope <;> rw [hscope] at hcommand ⊢ <;> simp only [hopen, hcommand] <;>
    cases (start _).words rest <;> rfl

/-- The verbose flag may stand before the name of the command. -/
theorem programWords_verbose (style : FlagStyle) :
    programWords (start .program) ((Piece.verbose style).words ++ rest) =
      programWords (ofPieces .program [.verbose style]) rest := by
  have hreads : (start .program).Reads .program [] := reads_ofPieces .program []
  have htake : (start .program).takeFlag .verbose = .ok (ofPieces .program [.verbose style]) :=
    hreads.takeFlag (.verbose style) (by simp) rfl rfl
  have hmem : Argument.verbose ∈ (start .program).scope.arguments := by decide
  cases style with
  | letter =>
    refine programWords_of_letter 'v' rfl ?_ rfl ((takeShort_eq_takeFlag hmem rfl rfl).trans htake)
    rw [Utf8.decode?_encode]
    decide
  | name =>
    refine programWords_of_long rfl ?_ rfl ((takeLong_eq_takeFlag hmem rfl rfl rest).trans htake)
    rw [Utf8.decode?_encode]
    decide

end

/-! ## What the pieces of an invocation say -/

section

variable (invocation : Invocation) (outputStyle : OutputStyle) (flagStyle : FlagStyle)

theorem map_argument_toList_sublist {argument : Argument} (piece : Path → Piece)
    (hpiece : ∀ path, (piece path).argument = argument) (path? : Option Path) :
    ((path?.toList.map piece).map Piece.argument).Sublist [argument] := by
  cases path? <;> simp [hpiece]

theorem map_argument_ite_sublist (piece : Piece) (given : Bool) :
    ((if given then [piece] else []).map Piece.argument).Sublist [piece.argument] := by
  cases given <;> simp

/-- The pieces stand in the order in which the command lists its arguments. -/
theorem Invocation.map_argument_pieces_sublist :
    ((invocation.pieces outputStyle flagStyle).map Piece.argument).Sublist invocation.command.scope.arguments := by
  have hverbose := map_argument_ite_sublist (.verbose flagStyle) invocation.verbose
  have htail := hverbose.trans (List.sublist_append_left [.verbose] [Argument.help])
  rw [pieces, List.map_append, List.map_append, List.map_append]
  match invocation.command with
  | .bundle entry output singleQuote =>
    have hentry := map_argument_toList_sublist (fun path => .entry path.bytes) (fun _ => rfl) entry
    have houtput :=
      map_argument_toList_sublist (fun path => .output outputStyle path.bytes) (fun _ => rfl) output
    have hquote := map_argument_ite_sublist .singleQuote singleQuote
    exact ((hentry.append houtput).append hquote).append htail
  | .graph entry =>
    have hentry := map_argument_toList_sublist (fun path => .entry path.bytes) (fun _ => rfl) entry
    exact ((hentry.append (List.nil_sublist [])).append (List.nil_sublist [])).append htail

theorem Invocation.filterMap_pieces :
    (invocation.pieces outputStyle flagStyle).filterMap Piece.entry? =
        ( invocation.command.entry?.map Path.bytes).toList ∧
      (invocation.pieces outputStyle flagStyle).filterMap Piece.output? =
        (invocation.command.output?.map Path.bytes).toList := by
  unfold pieces
  cases invocation.command.entry? <;> cases invocation.command.output? <;> cases invocation.command.singleQuote <;>
    cases invocation.verbose <;> exact ⟨rfl, rfl⟩

theorem Invocation.contains_map_argument_pieces :
    ((invocation.pieces outputStyle flagStyle).map Piece.argument).contains .singleQuote =
        invocation.command.singleQuote ∧
      ((invocation.pieces outputStyle flagStyle).map Piece.argument).contains .verbose = invocation.verbose := by
  simp [pieces, Piece.argument]

end

section

open Progress

variable {before behind pieces : List Piece} {rest : List Word}

/-- Only one verbose flag can stand before the name of the command, for it is no repetition. -/
theorem programWords_before (hbefore : ∀ piece ∈ before, piece.argument = .verbose)
    (hnodup : (before.map Piece.argument).Nodup) :
    programWords (start .program) (before.flatMap Piece.words ++ rest) =
      programWords (ofPieces .program before) rest := by
  match before with
  | [] => rfl
  | [piece] =>
    obtain ⟨style, rfl⟩ : ∃ style, piece = .verbose style := by
      cases piece with
      | verbose style => exact ⟨style, rfl⟩
      | _ => cases hbefore _ List.mem_cons_self
    rw [List.flatMap_singleton, programWords_verbose]
  | first :: second :: _ =>
    have hfirst := hbefore first (by simp)
    have hsecond := hbefore second (by simp)
    simp [hfirst, hsecond] at hnodup

/-- The one value of a kind that there is among pieces in any order. -/
theorem head?_filterMap_of_perm {α : Type} {value? : Piece → Option α} {value : Option α}
    (hperm : (before ++ behind).Perm pieces) (hbefore : ∀ piece ∈ before, value? piece = none)
    (hpieces : pieces.filterMap value? = value.toList) : (behind.filterMap value?).head? = value := by
  have hbehind : (before ++ behind).filterMap value? = behind.filterMap value? := by
    rw [List.filterMap_append, List.filterMap_eq_nil_iff.2 hbefore, List.nil_append]
  have hsame : (behind.filterMap value?).Perm value.toList := by
    rw [← hbehind, ← hpieces]
    exact hperm.filterMap value?
  cases value with
  | none => rw [hsame.eq_nil]; rfl
  | some value => rw [hsame.eq_singleton]; rfl

variable {invocation : Invocation} {outputStyle : OutputStyle} {flagStyle : FlagStyle}
  (hpieces : (before ++ behind).Perm (invocation.pieces outputStyle flagStyle))
  (hbefore : ∀ piece ∈ before, piece.argument = .verbose)

include hpieces

theorem nodup_map_argument : ((before ++ behind).map Piece.argument).Nodup := by
  have hscope : invocation.command.scope.arguments.Nodup := by cases invocation.command.scope <;> decide
  exact (hpieces.map Piece.argument).nodup_iff.2 ((invocation.map_argument_pieces_sublist _ _).nodup hscope)

theorem mem_arguments_of_mem {piece : Piece} (hmem : piece ∈ behind) :
    piece.argument ∈ invocation.command.scope.arguments :=
  (invocation.map_argument_pieces_sublist _ _).subset
    (List.mem_map_of_mem (hpieces.subset (List.mem_append_right before hmem)))

theorem contains_verbose :
    ((before.map Piece.argument).contains .verbose || (behind.map Piece.argument).contains .verbose) =
      invocation.verbose := by
  rw [← List.contains_append, ← List.map_append, (hpieces.map Piece.argument).contains_eq]
  exact (invocation.contains_map_argument_pieces _ _).2

include hbefore

/-- What the pieces behind the name of the command add up to is the command. -/
theorem command_ofPieces : (ofPieces invocation.command.scope behind).command = invocation.command := by
  have hvalues := invocation.filterMap_pieces outputStyle flagStyle
  -- the verbose flag, which may stand before, has no value and is no quote
  have hnone (piece : Piece) (hmem : piece ∈ before) : piece.entry? = none ∧ piece.output? = none := by
    have hverbose := hbefore piece hmem
    exact ⟨Piece.entry?_eq_none (by simp [hverbose]), Piece.output?_eq_none (by simp [hverbose])⟩
  have hentry : (behind.filterMap Piece.entry?).head? = invocation.command.entry?.map Path.bytes :=
    head?_filterMap_of_perm hpieces (fun piece hmem => (hnone piece hmem).1) hvalues.1
  have houtput : (behind.filterMap Piece.output?).head? = invocation.command.output?.map Path.bytes :=
    head?_filterMap_of_perm hpieces (fun piece hmem => (hnone piece hmem).2) hvalues.2
  have hquote : (behind.map Piece.argument).contains .singleQuote = invocation.command.singleQuote := by
    have hnot : (before.map Piece.argument).contains .singleQuote = false := by
      simp +contextual [hbefore]
    have hall := (hpieces.map Piece.argument).contains_eq.trans (invocation.contains_map_argument_pieces _ _).1
    simpa only [List.map_append, List.contains_append, hnot, Bool.false_or] using hall
  have hpath (path? : Option Path) : path?.map (Path.mk ∘ Path.bytes) = path? := by cases path? <;> rfl
  simp only [Progress.command, ofPieces, hentry, houtput, hquote, Option.map_map, hpath]
  cases invocation.command <;> rfl

end

/-- **A command line is read as the invocation that it spells**, whatever the order of its arguments. -/
theorem parse_eq_of_spells {invocation : Invocation} {arguments : List Word} (h : Spells invocation arguments) :
    parse arguments = .ok invocation := by
  obtain ⟨program, before, behind, outputStyle, flagStyle, hpieces, hbefore, hspellable⟩ := h
  have hnodup := nodup_map_argument hpieces
  rw [List.map_append] at hnodup
  have hread : (Progress.start invocation.command.scope).words (behind.flatMap Piece.words) =
      .ok (Progress.ofPieces invocation.command.scope behind) :=
    (Progress.reads_ofPieces invocation.command.scope []).words_pieces (List.Nodup.of_append_right hnodup)
      (fun _ hmem => mem_arguments_of_mem hpieces hmem) hspellable
  calc programWords (Progress.start .program) _
    _ = programWords (Progress.ofPieces .program before)
          (Utf8.encode invocation.command.scope.name :: behind.flatMap Piece.words) :=
        programWords_before hbefore (List.Nodup.of_append_left hnodup)
    _ = .ok ⟨(Progress.ofPieces invocation.command.scope behind).command,
          (before.map Piece.argument).contains .verbose || (behind.map Piece.argument).contains .verbose⟩ := by
        rw [programWords_command rfl, hread]
        rfl
    _ = .ok invocation := by rw [command_ofPieces hpieces hbefore, contains_verbose hpieces]

/-- `knit --verbose bundle --single-quote -o X bundle`, where the output is `=` and a byte that is no text. -/
def lineWithBundle : List Word :=
  [Utf8.encode "knit", Utf8.encode "--verbose", Utf8.encode "bundle", Utf8.encode "--single-quote", Utf8.encode "-o",
    [equalSign, 0xFF], Utf8.encode "bundle"]

theorem parse_eq_of_spells_lineWithBundle :
    Spells ⟨.bundle (some (.ofString "bundle")) (some ⟨[equalSign, 0xFF]⟩) true, true⟩ lineWithBundle ∧
      parse lineWithBundle = .ok ⟨.bundle (some (.ofString "bundle")) (some ⟨[equalSign, 0xFF]⟩) true, true⟩ := by
  have hspells : Spells ⟨.bundle (some (.ofString "bundle")) (some ⟨[equalSign, 0xFF]⟩) true, true⟩ lineWithBundle :=
    .intro (Utf8.encode "knit") [.verbose .name]
      [.singleQuote, .output .letter [equalSign, 0xFF], .entry (Utf8.encode "bundle")] .letter .name
      (by decide) (by decide) (by decide)
  exact ⟨hspells, parse_eq_of_spells hspells⟩

end Bundler.CommandLine
