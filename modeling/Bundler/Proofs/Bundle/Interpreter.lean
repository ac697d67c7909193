import Bundler.Proofs.Bundle.Header
import Mathlib

/-!
# Interpreter lines

A module may begin with a line that names its interpreter, and the line is kept in its code. In a bundle the code stands
behind a header, where `#!` begins no token. So a bundle whose first code begins with such a line is no script, in
whatever dialect it is read. Comments before it (`Script.IsGap`) are no code.

* `Script.ofSource_of_invalid` — a source whose first token cannot be read is refused
* `lexToken_interpreter` — whatever code stands before, the line cannot be read where a token begins
* `render_refused_of_interpreter` — a bundle whose first code names an interpreter is refused
* `bundle_is_no_script` — modules that are all accepted, and their bundle, which is not
-/

namespace Bundler

/-! ## Sources that are refused at their first token -/

namespace Script

section

variable {g : Grammar} {r : Reader}

namespace Reading

theorem run_bind {α β : Type} (first : Reading α) (next : α → Reading β) (r : Reader) :
    (first >>= next).run r = (next (first.run r).1).run (first.run r).2 :=
  rfl

/-- A loop whose first step says that it is the last. -/
theorem run_loop_of_stop {α : Type} {a : α} {step : α → Reading (α × Bool)} (h : (step a).run r = ((a, false), r)) :
    (loop a step).run r = (a, r) := by
  show (iterate step (r.bound + 2) a).run r = (a, r)
  rw [iterate, run_bind, h]
  rfl

theorem run_isOver_of_invalid (h : r.place.token.kind = .invalid) : isOver.run r = (true, r) := by
  show (_, r) = _
  simp [h]

end Reading

/-- Where no token could be read, there is no statement. -/
theorem readBody_of_invalid (close : TokenKind) (h : r.place.token.kind = .invalid) :
    (readBody g close).run r = (([], []), r) := by
  unfold readBody
  rw [Reading.run_bind, Reading.run_loop_of_stop]
  · rfl
  · rw [Reading.run_bind, Reading.run_isOver_of_invalid h]
    rfl

theorem readProgram_of_invalid (h : r.place.token.kind = .invalid) :
    (readProgram g).run r = (⟨none, [], [], r.trivia.comments, r.bound⟩, r) := by
  have hinterpreter : r.place.token.kind ≠ .interpreter := by rw [h]; decide
  unfold readProgram
  rw [Reading.run_bind]
  show ((if r.place.token.kind = .interpreter then _ else _ : Reading _).run r) = _
  rw [if_neg hinterpreter, pure_bind, Reading.run_bind, readBody_of_invalid _ h]
  rfl

/-- A fault of a token is told, or it is put down to another dialect. -/
theorem allFaults_ne_nil (program : Program) (h : r.place.tokenFaults ≠ []) : r.allFaults program ≠ [] := by
  unfold Reader.allFaults
  dsimp only
  split
  · exact List.cons_ne_nil _ _
  · simp [h]

end

/-- A source is refused if its first token cannot be read. -/
theorem ofSource_of_invalid (dialect : Dialect) {source : String}
    (hkind : (lexFirst source.toList.length ⟨source.toList, 0⟩).token.kind = .invalid)
    (hfaults : (lexFirst source.toList.length ⟨source.toList, 0⟩).faults ≠ []) :
    ∃ faults, Program.ofSource dialect source = .error faults := by
  have hreader : (Reader.ofSource dialect source.toList).place.token.kind = .invalid := hkind
  have htold : (Reader.ofSource dialect source.toList).place.tokenFaults ≠ [] := by
    simpa [Reader.ofSource] using hfaults
  unfold Program.ofSource
  simp only [readProgram_of_invalid hreader]
  split
  · next hnone => exact absurd hnone (allFaults_ne_nil _ htold)
  · exact ⟨_, rfl⟩

/-! ## Gaps -/

/-- Blanks, line ends and whole comments, and nothing else. -/
inductive IsGap : List Char → Prop where
  | nil : IsGap []
  | blank {c : Char} {rest : List Char} (hc : isLineEnd c = true ∨ isGapCharacter c = true) (h : IsGap rest) :
    IsGap (c :: rest)
  | line {comment rest : List Char} {stop : Char} (hcomment : ∀ c ∈ comment, isLineEnd c = false)
    (hstop : isLineEnd stop = true) (h : IsGap rest) : IsGap ('/' :: '/' :: (comment ++ stop :: rest))
  | block {comment rest : List Char} (hcomment : ¬['*', '/'] <:+: comment) (h : IsGap rest) :
    IsGap ('/' :: '*' :: (comment ++ '*' :: '/' :: rest))

section

variable {trivia : Trivia} {onNewLine : Bool} {n : Nat} {c : Char} {gap rest : List Char}

theorem exists_skipGap_blank (hc : isLineEnd c = true ∨ isGapCharacter c = true) :
    ∃ trivia' onNewLine', skipGap trivia onNewLine n .blank (c :: rest) =
      skipGap trivia' onNewLine' (n + 1) .blank rest := by
  have hslash : c ≠ '/' := by
    rintro rfl
    revert hc
    decide
  rw [skipGap]
  · split
    · exact ⟨_, _, rfl⟩
    · split
      · exact ⟨_, _, rfl⟩
      · next hend => exact ⟨_, _, if_pos (hc.resolve_left hend)⟩
  · rintro _ rfl
    exact absurd rfl hslash
  · rintro _ rfl
    exact absurd rfl hslash

/-- In a comment between marks everything is passed over up to the mark at its end. -/
theorem exists_skipGap_block {start : Nat} {source comment : List Char} {broken : Bool}
    (hcomment : ¬['*', '/'] <:+: comment) :
    ∃ trivia' onNewLine' n', skipGap trivia onNewLine n (.block start source broken) (comment ++ '*' :: '/' :: rest) =
      skipGap trivia' onNewLine' n' .blank rest := by
  induction comment generalizing n broken with
  | nil => exact ⟨_, _, _, by rw [List.nil_append, skipGap]⟩
  | cons c comment ih =>
    have hopen : ∀ rest', c = '*' → comment ++ '*' :: '/' :: rest = '/' :: rest' → False := by
      rintro rest' rfl hslash
      cases comment with
      | nil => exact absurd (List.cons.inj hslash).1 (by decide)
      | cons d comment =>
        obtain rfl : d = '/' := (List.cons.inj hslash).1
        exact hcomment (List.prefix_append ['*', '/'] comment).isInfix
    have hinner : ¬['*', '/'] <:+: comment := fun h => hcomment (List.infix_cons h)
    obtain ⟨trivia', onNewLine', n', ih⟩ := ih hinner
    refine ⟨trivia', onNewLine', n', ?_⟩
    rw [List.cons_append, skipGap, ih]
    exact hopen

/-- Behind a gap the reading of the gap goes on. -/
theorem IsGap.exists_skipGap_append (h : IsGap gap) (rest : List Char) (trivia : Trivia) (onNewLine : Bool) (n : Nat) :
    ∃ trivia' onNewLine' n', skipGap trivia onNewLine n .blank (gap ++ rest) =
      skipGap trivia' onNewLine' n' .blank rest := by
  induction h generalizing trivia onNewLine n with
  | nil => exact ⟨trivia, onNewLine, n, rfl⟩
  | blank hc _ ih =>
    obtain ⟨_, _, hblank⟩ := exists_skipGap_blank hc
    rw [List.cons_append, hblank]
    exact ih _ _ _
  | line hcomment hstop _ ih =>
    rw [List.cons_append, List.cons_append, List.append_assoc, List.cons_append, skipGap, skipGap_line hcomment hstop]
    exact ih _ _ _
  | block hcomment _ ih =>
    obtain ⟨_, _, _, hblock⟩ := exists_skipGap_block hcomment
    rw [List.cons_append, List.cons_append, List.append_assoc, List.cons_append, List.cons_append, skipGap, hblock]
    exact ih _ _ _

theorem IsGap.append {gap' : List Char} (h : IsGap gap) (h' : IsGap gap') : IsGap (gap ++ gap') := by
  induction h with
  | nil => exact h'
  | blank hc _ ih => exact .blank hc ih
  | line hcomment hstop _ ih =>
    rw [List.cons_append, List.cons_append, List.append_assoc, List.cons_append]
    exact .line hcomment hstop ih
  | block hcomment _ ih =>
    rw [List.cons_append, List.cons_append, List.append_assoc, List.cons_append, List.cons_append]
    exact .block hcomment ih

end

/-! ## The mark of an interpreter -/

section

variable {gap rest : List Char} {n : Nat}

/-- The mark is no gap. -/
theorem skipGap_mark {trivia : Trivia} {onNewLine : Bool} :
    skipGap trivia onNewLine n .blank ('#' :: '!' :: rest) = ⟨⟨'#' :: '!' :: rest, n⟩, onNewLine, trivia, false⟩ := by
  simp [skipGap, isLineEnd, isGapCharacter]

/-- A gap does not begin with the mark. -/
theorem IsGap.head?_ne (h : IsGap gap) : gap.head? ≠ some '#' := by
  cases h with
  | nil => simp
  | blank hc _ =>
    rintro hmark
    obtain rfl := Option.some.inj hmark
    revert hc
    decide
  | line => exact fun hmark => absurd (Option.some.inj hmark) (by decide)
  | block => exact fun hmark => absurd (Option.some.inj hmark) (by decide)

/-- Within a source the mark is the beginning of a private name, and there is no name. -/
theorem scanToken_mark (bound : Nat) :
    scanToken bound false ⟨'#' :: '!' :: rest, n⟩ = .fail (.invalidCharacter '!') ⟨rest, n + 2⟩ := by
  have hnumber : isWordStart '#' = false := by decide
  have hname : isWordStart '!' = false := by decide
  simp [scanToken, scanPrivateName, hnumber, hname, Cursor.skip]

/-- Behind a gap the mark is no token. -/
theorem lexToken_mark (h : IsGap gap) (rest : List Char) (bound : Nat) (trivia : Trivia) (n : Nat) :
    (lexToken bound false trivia ⟨gap ++ '#' :: '!' :: rest, n⟩).token.kind = .invalid ∧
      (lexToken bound false trivia ⟨gap ++ '#' :: '!' :: rest, n⟩).faults = [.invalidCharacter '!'] := by
  obtain ⟨trivia', onNewLine', n', hgap⟩ :=
    h.exists_skipGap_append ('#' :: '!' :: rest) { trivia with pure := false, noSideEffects := false } false n
  rw [skipGap_mark] at hgap
  simp only [lexToken, hgap, Bool.false_eq_true, if_false, scanToken_mark]
  exact ⟨rfl, rfl⟩

theorem lexFirst_mark (h : IsGap gap) (hgap : gap ≠ []) (bound : Nat) :
    lexFirst bound ⟨gap ++ '#' :: '!' :: rest, 0⟩ = lexToken bound false .empty ⟨gap ++ '#' :: '!' :: rest, 0⟩ := by
  unfold lexFirst
  split
  · next hsource =>
    obtain ⟨c, gap, rfl⟩ := List.exists_cons_of_ne_nil hgap
    obtain rfl : c = '#' := (List.cons.inj hsource).1
    exact absurd rfl h.head?_ne
  · rfl

/-- A source is refused if a gap stands before the line that names an interpreter. -/
theorem ofSource_of_gap (dialect : Dialect) {source : String} (h : IsGap gap) (hgap : gap ≠ [])
    (hsource : source.toList = gap ++ '#' :: '!' :: rest) :
    ∃ faults, Program.ofSource dialect source = .error faults := by
  obtain ⟨hkind, hfaults⟩ := lexToken_mark h rest source.toList.length .empty 0
  rw [← lexFirst_mark h hgap, ← hsource] at hkind hfaults
  exact ofSource_of_invalid dialect hkind (by rw [hfaults]; exact List.cons_ne_nil _ _)

end

end Script

open Script

/-! ## Behind headers -/

/-- Modules that leave nothing but their headers and comments. -/
def LeavesComments (modules : List (ModulePath × ModuleRecord)) : Prop :=
  ∀ entry ∈ modules, IsOneLine entry.1.portable ∧ IsGap (entry.2.code.toList ++ ['\n'])

/-- A module begins with its header, which is a gap if the path has no line end. -/
theorem exists_header {path : ModulePath} (h : IsOneLine path.portable) (record : ModuleRecord) :
    ∃ header, IsGap header ∧ header ≠ [] ∧
      (record.section path).toList = header ++ (record.code.toList ++ ['\n', '\n']) := by
  have hpath : ∀ c ∈ ' ' :: path.portable.toList, isLineEnd c = false :=
    List.forall_mem_cons.mpr ⟨by decide, h⟩
  refine ⟨'/' :: '/' :: (' ' :: path.portable.toList ++ ['\n']), .line hpath (by decide) .nil, List.cons_ne_nil _ _, ?_⟩
  simp [ModuleRecord.section]

/-- Headers and comments are a gap. -/
theorem isGap_sections {modules : List (ModulePath × ModuleRecord)} (h : LeavesComments modules) :
    IsGap (sections modules) := by
  induction modules with
  | nil => exact .nil
  | cons entry modules ih =>
    obtain ⟨path, record⟩ := entry
    obtain ⟨⟨hpath, hcode⟩, hmodules⟩ := List.forall_mem_cons.mp h
    obtain ⟨header, hheader, -, hsection⟩ := exists_header hpath record
    have hend : record.code.toList ++ ['\n', '\n'] = record.code.toList ++ ['\n'] ++ ['\n'] := by simp
    rw [sections_cons, hsection, hend]
    exact (hheader.append (hcode.append (.blank (by decide) .nil))).append (ih hmodules)

section

variable {modules : ModuleMap} {before after : List (ModulePath × ModuleRecord)} {path : ModulePath}
  {record : ModuleRecord}

/-- A bundle has the mark of a module behind the header of the module. -/
theorem exists_toList_render (horder : modules.emissionOrder = before ++ (path, record) :: after)
    (hpath : IsOneLine path.portable) (hcode : ['#', '!'] <+: record.code.toList) :
    ∃ header rest, IsGap header ∧ header ≠ [] ∧
      modules.render.toList = sections before ++ (header ++ '#' :: '!' :: rest) := by
  obtain ⟨header, hheader, hne, hsection⟩ := exists_header hpath record
  obtain ⟨code, hcode⟩ := hcode
  refine ⟨header, code ++ ['\n', '\n'] ++ sections after, hheader, hne, ?_⟩
  rw [toList_render, horder, sections_append, sections_cons, hsection, ← hcode]
  simp

/-- **Whatever stands before a module that names its interpreter**, a reader that comes to the header of the module
between two tokens finds that the next one cannot be read. -/
theorem lexToken_interpreter (horder : modules.emissionOrder = before ++ (path, record) :: after)
    (hpath : IsOneLine path.portable) (hcode : ['#', '!'] <+: record.code.toList) :
    ∃ source, modules.render.toList = sections before ++ source ∧ ∀ bound trivia n,
      (lexToken bound false trivia ⟨source, n⟩).token.kind = .invalid ∧
        (lexToken bound false trivia ⟨source, n⟩).faults = [.invalidCharacter '!'] := by
  obtain ⟨header, rest, hheader, -, hrender⟩ := exists_toList_render horder hpath hcode
  exact ⟨_, hrender, lexToken_mark hheader rest⟩

end

/--
**A bundle whose first code names an interpreter is no script.**

If the modules listed first in a bundle leave nothing but comments and the code of the next one begins with `#!`, the
bundle is refused in every dialect, though the code alone may be a script: the line that names an interpreter has to be
the first.
-/
theorem render_refused_of_interpreter (modules : ModuleMap) (dialect : Dialect) :
    ∀ before path record after, modules.emissionOrder = before ++ (path, record) :: after → LeavesComments before →
      IsOneLine path.portable → ['#', '!'] <+: record.code.toList →
        ∃ faults, Program.ofSource dialect modules.render = .error faults := by
  intro before path record after horder hbefore hpath hcode
  obtain ⟨header, rest, hheader, hne, hrender⟩ := exists_toList_render horder hpath hcode
  rw [← List.append_assoc] at hrender
  exact ofSource_of_gap dialect ((isGap_sections hbefore).append hheader) (by simp [hne]) hrender

/-! A small world: the entry names its interpreter and imports a module that leaves no code. -/

namespace Interpreted

def main : ModulePath := .ofPath (.ofString "/main.js")

def setup : ModulePath := .ofPath (.ofString "/setup.js")

def store : RecordedStore :=
  ⟨[(main, .ok "#!/usr/bin/env node\nimport './setup.js';\nrun();"), (setup, .ok "export \x7b\x7d;")], none⟩

def found : ModuleMap :=
  ⟨[(setup, ⟨"", []⟩), (main, ⟨"#!/usr/bin/env node\nrun();", [setup]⟩)]⟩

theorem extend?_main : ∃ actions,
    ModuleMap.empty.extend? store.sources.read (Script.processor false) main = some (found, actions, .ok ()) := by
  have hmain : load store.sources.read (Script.processor false) main =
      .ok ⟨"#!/usr/bin/env node\nrun();", [setup]⟩ := by
    decide +kernel
  have hsetup : load store.sources.read (Script.processor false) setup = .ok ⟨"", []⟩ := by decide +kernel
  refine Descent.exists_actions ?_
  rw [ModuleMap.extend?_eq_descend? _ _ rfl, ModuleMap.descend?_of_load_ok hmain,
    ModuleMap.descendAll?_entered (by decide) hsetup, List.append_nil, ModuleMap.descendAll?_nil]
  rfl

/-- The module is read, and none of its statements is left untouched or is a default export. -/
def IsPlain (path : ModulePath) : Prop :=
  ∃ text, store.sources.read path = .ok text ∧
    (Program.ofSource (.ofPath path) text).map (fun program =>
      program.statements.all fun s => (untouched? s).isNone && !isDefaultExport s) = .ok true

end Interpreted

theorem render_refused_of_interpreter_found :
    ∃ final actions,
      ModuleMap.empty.extend? Interpreted.store.sources.read (Script.processor false) Interpreted.main =
        some (final, actions, .ok ()) ∧
      ∃ faults, Program.ofSource .plain final.render = .error faults := by
  obtain ⟨actions, hextend⟩ := Interpreted.extend?_main
  refine ⟨Interpreted.found, actions, hextend, ?_⟩
  have hsetup : LeavesComments [(Interpreted.setup, ⟨"", []⟩)] :=
    List.forall_mem_singleton.mpr ⟨by decide +kernel, .blank (by decide) .nil⟩
  exact render_refused_of_interpreter Interpreted.found .plain _ _ _ [] rfl hsetup (by decide +kernel)
    (by decide +kernel)

/-- Two modules of the same dialect are found, all of their statements are processed, and the bundle is no script. -/
theorem bundle_is_no_script :
    ∃ final actions,
      ModuleMap.empty.extend? Interpreted.store.sources.read (Script.processor false) Interpreted.main =
        some (final, actions, .ok ()) ∧
      (∀ path ∈ final.paths, Dialect.ofPath path = .plain ∧ Interpreted.IsPlain path) ∧
      (Program.ofSource .plain final.render).map (fun _ => ()) = .error [.invalidCharacter '!'] := by
  obtain ⟨actions, hextend⟩ := Interpreted.extend?_main
  refine ⟨Interpreted.found, actions, hextend, ?_, by decide +kernel⟩
  rintro path hpath
  have hpath : path = Interpreted.main ∨ path = Interpreted.setup := by
    simpa [Interpreted.found, ModuleMap.paths, ModuleMap.discoveryOrder] using hpath
  rcases hpath with rfl | rfl
  · exact ⟨by decide +kernel, _, rfl, by decide +kernel⟩
  · exact ⟨by decide +kernel, _, rfl, by decide +kernel⟩

/-- Code in front of the module changes nothing. -/
example : (Program.ofSource .plain (ModuleMap.render ⟨[(Interpreted.setup, ⟨"let x = 1;", []⟩),
    (Interpreted.main, ⟨"#!/usr/bin/env node\nrun();", [Interpreted.setup]⟩)]⟩)).map (fun _ => ()) =
      .error [.invalidCharacter '!'] := by
  decide +kernel

/-! Two other ways to a bundle that is no script: a path that is over before its header is, and an abstract class, which
in plain script may stand behind `export default` only. -/

example :
    ((Script.processor false (.ofPath (.ofString "/a\n\x7d.js")) "f();").2.map (·.code) = .ok "f();") ∧
      (Program.ofSource .plain (ModuleMap.render ⟨[(.ofPath (.ofString "/a\n\x7d.js"), ⟨"f();", []⟩)]⟩)).map
        (fun _ => ()) = .error [.unexpectedToken] := by
  decide +kernel

example :
    ((Script.processor false Interpreted.main "export default abstract class A \x7b\x7d").2.map (·.code) =
        .ok "abstract class A \x7b\x7d") ∧
      (Program.ofSource .plain (ModuleMap.render ⟨[(Interpreted.main, ⟨"abstract class A \x7b\x7d", []⟩)]⟩)).map
        (fun _ => ()) = .error [.missingSemicolon] := by
  decide +kernel

end Bundler
