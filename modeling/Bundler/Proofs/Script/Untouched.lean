import Bundler.Proofs.Script.Imports
import Bundler.Proofs.Script.NormalForm

/-!
# What is reported of what is left

Flattening leaves some imports and exports in place. A module that hands on names of another module is reported for it, one
event for each such statement. But `export =` and `export as namespace` are left in place as well, and nobody is told.

* `reported_iff_left` — a statement that leaves an import or export is reported unless it is one of these two, and the
  events stand for all that is left, in order, exactly if a module has neither
* `export_assignment_is_not_reported` — a module that is nothing but such a statement
-/

namespace Bundler.Script

/-- An export that is left in place and that no event tells of. -/
def isUnreported : Statement → Bool
  | .exportAssign _ _ | .exportNamespace _ _ => true
  | _ => false

/-- The event tells of the statement. -/
def Reports (path : ModulePath) (s : Statement) (event : Event) : Prop :=
  ∃ form, untouched? s = some form ∧ event = .untouched form path

/-- The events that a body gives rise to. -/
def reportsOf (path : ModulePath) (body : List Statement) : List Event :=
  (body.filterMap untouched?).map (.untouched · path)

variable {path : ModulePath} {s left : Statement} {body : List Statement}

/-! ## One statement -/

/-- Imports and exports are stripped, reported, or left without a word. -/
theorem isModuleSyntax_eq (s : Statement) :
    isModuleSyntax s = (isStripped s || (untouched? s).isSome || isUnreported s) := by
  cases s <;> rfl

theorem isStripped_of_stays (h : ((untouched? s).isSome || isUnreported s) = true) : isStripped s = false := by
  cases s with
  | importFrom | exportDefault | exportDeclaration | exportList => cases h
  | _ => rfl

theorem untouched?_of_isUnreported (h : isUnreported s = true) : untouched? s = none := by
  cases s with
  | exportAll | exportFrom => cases h
  | _ => rfl

/-- A statement leaves an import or export only if it is one that stays: itself. -/
theorem left_iff :
    (flatten s).statement? = some left ∧ isModuleSyntax left = true ↔
      s = left ∧ ((untouched? s).isSome || isUnreported s) = true := by
  cases hs : isStripped s with
  | true =>
    -- What takes its place is no import or export, and it is none of those that stay.
    refine iff_of_false (fun ⟨hleft, hsyntax⟩ => ?_) (fun ⟨_, hstays⟩ => ?_)
    · exact absurd ((isModuleSyntax_left hs hleft).symm.trans hsyntax) (by simp)
    · exact absurd ((isStripped_of_stays hstays).symm.trans hs) (by simp)
  | false =>
    rw [flatten_of_not_isStripped hs]
    constructor
    · rintro ⟨hleft, hsyntax⟩
      obtain rfl := Option.some.inj hleft
      exact ⟨rfl, by rwa [isModuleSyntax_eq, hs] at hsyntax⟩
    · rintro ⟨rfl, hstays⟩
      exact ⟨rfl, by rw [isModuleSyntax_eq, hs]; exact hstays⟩

/-- The report of a statement and what it leaves agree, unless it is an export that nobody is told of. -/
theorem reported_iff (s : Statement) :
    ((untouched? s).isSome = true ↔ ∃ left, (flatten s).statement? = some left ∧ isModuleSyntax left = true) ↔
      isUnreported s = false := by
  simp only [left_iff, exists_eq_left']
  cases hs : isUnreported s with
  | true => simp [untouched?_of_isUnreported hs]
  | false => simp

/-! ## Bodies -/

/-- The imports and exports that are left are the statements that stay, in their order. -/
theorem filter_isModuleSyntax_flattenBody (body : List Statement) :
    (flattenBody body).statements.filter isModuleSyntax =
      body.filter fun s => (untouched? s).isSome || isUnreported s := by
  rw [flattenBody, List.filterMap_map, List.filter_filterMap, ← List.filterMap_eq_filter]
  refine List.filterMap_congr fun s _ => Option.ext fun left => ?_
  rw [Option.filter_eq_some_iff, Option.guard_eq_some_iff]
  exact left_iff

/-- Of these, the ones that are not left without a word are the ones that are reported. -/
theorem filter_reported_flattenBody (body : List Statement) :
    (flattenBody body).statements.filter (fun s => !isUnreported s && isModuleSyntax s) =
      body.filter fun s => (untouched? s).isSome := by
  rw [← List.filter_filter, filter_isModuleSyntax_flattenBody, List.filter_filter]
  refine List.filter_congr fun s _ => ?_
  cases hs : isUnreported s with
  | true => simp [untouched?_of_isUnreported hs]
  | false => simp

/-- The events of a body tell of its statements that are reported, one of each, in their order. -/
theorem reports_reportsOf (path : ModulePath) (body : List Statement) :
    List.Forall₂ (Reports path) (body.filter fun s => (untouched? s).isSome) (reportsOf path body) := by
  induction body with
  | nil => exact .nil
  | cons s body ih =>
    rw [reportsOf, List.filterMap_cons, List.filter_cons]
    cases hs : untouched? s with
    | none => exact ih
    | some form => exact .cons ⟨form, hs, rfl⟩ ih

/-- What one of the events tells of is reported. -/
theorem isSome_of_forall₂_reports {events : List Event} (h : List.Forall₂ (Reports path) body events) :
    ∀ s ∈ body, (untouched? s).isSome = true := by
  induction h with
  | nil => simp
  | cons hs _ ih =>
    obtain ⟨form, hform, -⟩ := hs
    exact List.forall_mem_cons.mpr ⟨by rw [hform]; rfl, ih⟩

/-- The events tell of all imports and exports that are left exactly if all of these are reported. -/
theorem forall₂_reportsOf_iff (path : ModulePath) (body : List Statement) :
    List.Forall₂ (Reports path) ((flattenBody body).statements.filter isModuleSyntax) (reportsOf path body) ↔
      ∀ s ∈ body, isUnreported s = false := by
  rw [filter_isModuleSyntax_flattenBody]
  constructor
  · intro hreports s hs
    by_contra hunreported
    rw [Bool.not_eq_false] at hunreported
    have hreported := isSome_of_forall₂_reports hreports s
      (List.mem_filter.mpr ⟨hs, by rw [hunreported, Bool.or_true]⟩)
    rw [untouched?_of_isUnreported hunreported] at hreported
    cases hreported
  · intro hreported
    rw [List.filter_congr fun s hs => by rw [hreported s hs, Bool.or_false]]
    exact reports_reportsOf path body

/-! ## Modules -/

/-- The events of a processed module are the reports of its statements. -/
theorem processor_events_eq {singleQuote : Bool} {source : String} {events : List Event}
    {processed : ProcessedModule} {program : Program} (hprogram : Program.ofSource (.ofPath path) source = .ok program)
    (h : processor singleQuote path source = (events, .ok processed)) :
    events = reportsOf path program.statements := by
  unfold processor at h
  simp only [hprogram] at h
  exact (Prod.mk.inj h).1.symm

/--
**What is left is reported exactly if it hands on names of another module.**

Of every text that is accepted, a statement is reported exactly if it leaves an import or export in its place, unless it is
an `export =` or an `export as namespace`, which are left and never reported. The events stand for the imports and
exports of the flat module that are none of these two, one for each, in order. So they stand for all that are left in
the flat module exactly if the module has neither of the two.
-/
theorem reported_iff_left (singleQuote : Bool) (path : ModulePath) (source : String) :
    ∀ events processed, processor singleQuote path source = (events, .ok processed) →
      ∃ program, Program.ofSource (.ofPath path) source = .ok program ∧
        processed.code = program.flat.text (Dialect.ofPath path).hasMarkup (if singleQuote then '\'' else '"') ∧
        (∀ s ∈ program.statements,
          (((untouched? s).isSome = true ↔ ∃ left, (flatten s).statement? = some left ∧ isModuleSyntax left = true) ↔
            isUnreported s = false)) ∧
        List.Forall₂ (Reports path)
          (program.flat.statements.filter fun s => !isUnreported s && isModuleSyntax s) events ∧
        (List.Forall₂ (Reports path) (program.flat.statements.filter isModuleSyntax) events ↔
          ∀ s ∈ program.statements, isUnreported s = false) := by
  intro events processed h
  obtain ⟨program, hprogram, hcode, -⟩ := processor_eq_ok h
  refine ⟨program, hprogram, hcode, fun s _ => reported_iff s, ?_, ?_⟩
  · rw [processor_events_eq hprogram h]
    exact filter_reported_flattenBody program.statements ▸ reports_reportsOf path program.statements
  · rw [processor_events_eq hprogram h]
    exact forall₂_reportsOf_iff path program.statements

/-! A module in which two of three exports hand on names of another module, and a module with an `export =`. -/

namespace HandsOn

def name : ModulePath := .ofPath (.ofString "/m.js")

def source : String := "export*from'a';export const c=1;export\x7bb\x7dfrom'b'"

def assignmentName : ModulePath := .ofPath (.ofString "/a.ts")

def assignment : String := "export = f;"

end HandsOn

/-- Two statements hand on names of another module, and each of them has its event. -/
theorem reported_iff_left_both :
    ∃ program, Program.ofSource (.ofPath HandsOn.name) HandsOn.source = .ok program ∧
      (∀ s ∈ program.statements, isUnreported s = false) ∧
      List.Forall₂ (Reports HandsOn.name) (program.flat.statements.filter isModuleSyntax)
        [.untouched .exportAll HandsOn.name, .untouched .exportFrom HandsOn.name] := by
  have hrun : processor false HandsOn.name HandsOn.source =
      ([.untouched .exportAll HandsOn.name, .untouched .exportFrom HandsOn.name],
        .ok ⟨"export * from \"a\";\nconst c = 1;\nexport \x7b b \x7d from \"b\";", []⟩) := by
    decide +kernel
  obtain ⟨program, hprogram, -, -, -, hiff⟩ := reported_iff_left _ _ _ _ _ hrun
  have hall : (Program.ofSource (.ofPath HandsOn.name) HandsOn.source).map
      (fun p => p.statements.all fun s => !isUnreported s) = .ok true := by
    decide +kernel
  rw [hprogram] at hall
  have hreported : ∀ s ∈ program.statements, isUnreported s = false := by
    simpa [Except.map] using hall
  exact ⟨program, hprogram, hreported, hiff.mpr hreported⟩

/-- The export stays as it is, and there is no event that could stand for it. -/
theorem export_assignment_is_not_reported :
    ∃ program s, Program.ofSource (.ofPath HandsOn.assignmentName) HandsOn.assignment = .ok program ∧
      program.statements = [s] ∧ untouched? s = none ∧
      (flatten s).statement? = some s ∧ isModuleSyntax s = true ∧
      processor false HandsOn.assignmentName HandsOn.assignment = ([], .ok ⟨HandsOn.assignment, []⟩) ∧
      ¬List.Forall₂ (Reports HandsOn.assignmentName) (program.flat.statements.filter isModuleSyntax) [] := by
  have hread : (Program.ofSource (.ofPath HandsOn.assignmentName) HandsOn.assignment).map
      (fun p => p.statements.map isUnreported) = .ok [true] := by
    decide +kernel
  cases hprogram : Program.ofSource (.ofPath HandsOn.assignmentName) HandsOn.assignment with
  | error faults =>
    rw [hprogram] at hread
    cases hread
  | ok program =>
    rw [hprogram] at hread
    obtain ⟨s, hstatements, hs⟩ := List.map_eq_singleton_iff.mp (Except.ok.inj hread)
    have hstripped : isStripped s = false := isStripped_of_stays (by rw [hs, Bool.or_true])
    have hsyntax : isModuleSyntax s = true := by rw [isModuleSyntax_eq, hs, Bool.or_true]
    have hkept : (flatten s).statement? = some s := by
      rw [flatten_of_not_isStripped hstripped]
      rfl
    refine ⟨program, s, rfl, hstatements, untouched?_of_isUnreported hs, hkept, hsyntax, by decide +kernel, ?_⟩
    have hleft : program.flat.statements.filter isModuleSyntax = [s] := by
      simp [Program.flat, hstatements, hkept, hsyntax]
    rw [hleft]
    exact fun hreports => by cases hreports

end Bundler.Script
