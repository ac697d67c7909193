import Bundler.Graph.Walk

/-!
# What a turn of the walk does

What opening a module gives depends on its path alone: `load` is its record, or why there is none, and
`openingActions` is what is done meanwhile. With these a turn of the walk is one of five things, and each has its
equation here. Nothing after this module unfolds `turn`, `visit` or `step`.
-/

namespace Bundler

/-- The record of a module, or why there is none: it cannot be read, or it cannot be processed. -/
def load (read : ModulePath → Except Failure String) (process : Processor) (path : ModulePath) :
    Except Failure ModuleRecord :=
  match read path with
  | .error failure => .error failure
  | .ok text =>
    match (process path text).2 with
    | .error failure => .error failure
    | .ok processed => .ok ⟨processed.code, processed.specifiers.map path.resolve⟩

/-- What a module imports; nothing if it cannot be read or processed. -/
def importsOf (read : ModulePath → Except Failure String) (process : Processor) (path : ModulePath) :
    List ModulePath :=
  match load read process path with
  | .error _ => []
  | .ok record => record.dependencies

/-- What is done to open a module: it is read, processed and reported, as far as this succeeds. -/
def openingActions (read : ModulePath → Except Failure String) (process : Processor) (path : ModulePath) :
    List Action :=
  .logged (.reading path) :: .read path ::
    match read path with
    | .error _ => []
    | .ok text =>
      (process path text).1.map .logged ++
        match (process path text).2 with
        | .error _ => []
        | .ok processed => [.logged (.rewrote path processed.specifiers.length)]

variable {read : ModulePath → Except Failure String} {process : Processor} {path : ModulePath}

/-- A module has a record if its text is read and processed; code and imports are those of the processed text. -/
theorem load_eq_ok_iff {record : ModuleRecord} :
    load read process path = .ok record ↔
      ∃ text processed, read path = .ok text ∧ (process path text).2 = .ok processed ∧
        record.code = processed.code ∧ record.dependencies = processed.specifiers.map path.resolve := by
  obtain ⟨code, dependencies⟩ := record
  unfold load
  cases hread : read path with
  | error failure => simp
  | ok text =>
    cases hprocess : (process path text).2 with
    | error failure => simp [hprocess]
    | ok processed =>
      simp only [hprocess, Except.ok.injEq, ModuleRecord.mk.injEq]
      constructor
      · rintro ⟨rfl, rfl⟩
        exact ⟨text, processed, rfl, hprocess, rfl, rfl⟩
      · rintro ⟨_, _, rfl, hprocess', hcode, hdependencies⟩
        rw [hprocess] at hprocess'
        obtain rfl := Except.ok.inj hprocess'
        exact ⟨hcode.symm, hdependencies.symm⟩

theorem importsOf_of_load_ok {record : ModuleRecord} (h : load read process path = .ok record) :
    importsOf read process path = record.dependencies := by
  rw [importsOf, h]

theorem importsOf_of_load_error {failure : Failure} (h : load read process path = .error failure) :
    importsOf read process path = [] := by
  rw [importsOf, h]

/-- Only what can be read imports anything. -/
theorem mem_candidates_of_imports {sources : Sources} (h : importsOf sources.read process path ≠ []) :
    path ∈ sources.candidates := by
  cases hload : load sources.read process path with
  | error failure => exact absurd (importsOf_of_load_error hload) h
  | ok record =>
    obtain ⟨text, -, hread, -⟩ := load_eq_ok_iff.mp hload
    exact sources.mem_candidates hread

namespace Walk

variable {modules : ModuleMap} {rest : List ModulePath} {outer : List (List ModulePath)} {trace : List Action}

theorem visit_of_load_error {failure : Failure} (h : load read process path = .error failure) (w : Walk) :
    w.visit process path (read path) = (w.note (openingActions read process path), .error failure) := by
  unfold load at h
  unfold visit openingActions
  cases hread : read path with
  | error other =>
    rw [hread] at h
    obtain rfl := Except.error.inj h
    rfl
  | ok text =>
    simp only [hread] at h
    cases hprocess : (process path text).2 with
    | error other =>
      simp only [hprocess] at h
      obtain rfl := Except.error.inj h
      simp [hprocess, note]
    | ok processed => simp [hprocess] at h

theorem visit_of_load_ok {record : ModuleRecord} (h : load read process path = .ok record) (w : Walk) :
    w.visit process path (read path) =
      (⟨w.modules.insert path record, record.dependencies :: w.frames,
        (openingActions read process path).reverse ++ w.trace⟩, .ok ()) := by
  obtain ⟨text, processed, hread, hprocess, hcode, hdependencies⟩ := load_eq_ok_iff.mp h
  obtain ⟨code, dependencies⟩ := record
  obtain rfl : code = processed.code := hcode
  obtain rfl : dependencies = processed.specifiers.map path.resolve := hdependencies
  simp [visit, openingActions, hread, hprocess, enter, note]

/-! ## The five turns -/

theorem step_finished :
    step read process ⟨modules, [], trace⟩ = (⟨modules, [], trace⟩, some (.ok ())) := rfl

/-- The innermost module is left when nothing of it waits. -/
theorem step_left : step read process ⟨modules, [] :: outer, trace⟩ = (⟨modules, outer, trace⟩, none) := rfl

/-- What is in the map when it is reached is passed over. -/
theorem step_passed (h : modules.contains path = true) :
    step read process ⟨modules, (path :: rest) :: outer, trace⟩ =
      (⟨modules, rest :: outer, .logged (.alreadyVisited path) :: trace⟩, none) := by
  simp [step, turn, h, note]

theorem step_failed {failure : Failure} (hnew : modules.contains path = false)
    (hload : load read process path = .error failure) :
    step read process ⟨modules, (path :: rest) :: outer, trace⟩ =
      (⟨modules, rest :: outer, (openingActions read process path).reverse ++ trace⟩, some (.error failure)) := by
  simp [step, turn, hnew, visit_of_load_error hload, note]

theorem step_entered {record : ModuleRecord} (hnew : modules.contains path = false)
    (hload : load read process path = .ok record) :
    step read process ⟨modules, (path :: rest) :: outer, trace⟩ =
      (⟨modules.insert path record, record.dependencies :: rest :: outer,
        (openingActions read process path).reverse ++ trace⟩, none) := by
  simp [step, turn, hnew, visit_of_load_ok hload]

theorem run?_of_step {w w' : Walk} (h : w.step read process = (w', none)) :
    w.run? read process = w'.run? read process := by
  rw [run?, h]

theorem run?_of_end {w w' : Walk} {result : Except Failure Unit} (h : w.step read process = (w', some result)) :
    w.run? read process = some (w', result) := by
  rw [run?, h]

/-- Induction on a walk that ends, over the turns it takes. -/
theorem run?_induction {motive : Walk → Walk × Except Failure Unit → Prop}
    (finished : ∀ modules trace, motive ⟨modules, [], trace⟩ (⟨modules, [], trace⟩, .ok ()))
    (left : ∀ modules outer trace ended,
      motive ⟨modules, outer, trace⟩ ended → motive ⟨modules, [] :: outer, trace⟩ ended)
    (passed : ∀ modules path rest outer trace ended, modules.contains path = true →
      motive ⟨modules, rest :: outer, .logged (.alreadyVisited path) :: trace⟩ ended →
      motive ⟨modules, (path :: rest) :: outer, trace⟩ ended)
    (failed : ∀ modules path rest outer trace failure, modules.contains path = false →
      load read process path = .error failure →
      motive ⟨modules, (path :: rest) :: outer, trace⟩
        (⟨modules, rest :: outer, (openingActions read process path).reverse ++ trace⟩, .error failure))
    (entered : ∀ modules path rest outer trace ended record, modules.contains path = false →
      load read process path = .ok record →
      motive ⟨modules.insert path record, record.dependencies :: rest :: outer,
        (openingActions read process path).reverse ++ trace⟩ ended →
      motive ⟨modules, (path :: rest) :: outer, trace⟩ ended)
    {w : Walk} {ended : Walk × Except Failure Unit} (h : w.run? read process = some ended) :
    motive w ended := by
  refine run?.partial_correctness read process motive ?_ w ended h
  intro run ih w ended h
  obtain ⟨modules, frames, trace⟩ := w
  rcases frames with _ | ⟨_ | ⟨path, rest⟩, outer⟩
  · rw [step_finished] at h
    rw [← Option.some.inj h]
    exact finished modules trace
  · rw [step_left] at h
    exact left _ _ _ _ (ih _ _ h)
  · by_cases hseen : modules.contains path = true
    · rw [step_passed hseen] at h
      exact passed _ _ _ _ _ _ hseen (ih _ _ h)
    · rw [Bool.not_eq_true] at hseen
      cases hload : load read process path with
      | error failure =>
        rw [step_failed hseen hload] at h
        rw [← Option.some.inj h]
        exact failed _ _ _ _ _ _ hseen hload
      | ok record =>
        rw [step_entered hseen hload] at h
        exact entered _ _ _ _ _ _ _ hseen hload (ih _ _ h)

end Walk

/-! ## The entry -/

namespace ModuleMap

variable {entry : ModulePath} {modules : ModuleMap}

/-- A walk from an entry that is in the map does nothing. -/
theorem extend?_of_contains (h : modules.contains entry = true) :
    modules.extend? read process entry = some (modules, [], .ok ()) := by
  rw [extend?, Walk.from?, if_pos h]
  rfl

theorem extend?_of_load_error {failure : Failure} (hnew : modules.contains entry = false)
    (hload : load read process entry = .error failure) :
    modules.extend? read process entry = some (modules, openingActions read process entry, .error failure) := by
  rw [extend?, Walk.from?, if_neg (by simp [hnew]), Walk.visit_of_load_error hload]
  simp [Walk.answer, Walk.note, Walk.start]

/-- The entry is opened before the loop begins. -/
theorem extend?_of_load_ok {record : ModuleRecord} (hnew : modules.contains entry = false)
    (hload : load read process entry = .ok record) :
    modules.extend? read process entry =
      (Walk.run? read process ⟨modules.insert entry record, [record.dependencies],
        (openingActions read process entry).reverse⟩).map Walk.answer := by
  rw [extend?, Walk.from?, if_neg (by simp [hnew]), Walk.visit_of_load_ok hload]
  simp [Walk.start]

end ModuleMap

end Bundler
