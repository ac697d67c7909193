import Bundler.Module.Map
import Bundler.Store.FileSystem

/-!
# The walk over modules

From an entry, the walk reads a module, adds its record to the map, and goes on to what the module imports, in source
order and before anything the importing modules still wait for. A path that is in the map when it is reached is
passed over, which bounds diamonds and cycles alike. The first module that cannot be read or processed ends the walk.

The walk keeps one frame for every module it is inside of: the imports of that module it has not come to yet.

## Termination

Nothing keeps a walk from going on forever where every module imports one more. `Walk.run?` is the loop on any store and
has no answer then. On `Sources` only finitely many paths can be read: a module is opened only if its path can be read
and is not in the map, so the number of such paths falls with every module opened, and between two openings the imports
that wait in the frames become fewer. There the same loop always has an answer, and `Walk.from` takes it.
-/

namespace Bundler

/-! ## Processors -/

/-- A module as a processor leaves it; the specifiers are not yet resolved. -/
structure ProcessedModule where
  code : String
  specifiers : List String
  deriving DecidableEq, Inhabited, Repr

/-- Turns the text of the module at a path into its code and the specifiers of what it imports, and may note events. -/
abbrev Processor :=
  ModulePath → String → List Event × Except Failure ProcessedModule

/-! ## Counting what was not seen -/

section

variable {α : Type} [DecidableEq α]

/-- How many candidates were not seen. -/
def unseen (candidates seen : List α) : Nat :=
  candidates.countP (· ∉ seen)

theorem unseen_mono (candidates : List α) {seen seen' : List α} (hsub : ∀ x ∈ seen, x ∈ seen') :
    unseen candidates seen' ≤ unseen candidates seen := by
  refine List.countP_mono_left fun x _ hx => ?_
  simp only [decide_eq_true_eq] at hx ⊢
  exact fun hc => hx (hsub x hc)

theorem unseen_lt {candidates seen seen' : List α} {x : α} (hsub : ∀ y ∈ seen, y ∈ seen')
    (hmem : x ∈ candidates) (hnew : x ∉ seen) (hseen : x ∈ seen') :
    unseen candidates seen' < unseen candidates seen := by
  obtain ⟨front, others, rfl⟩ := List.append_of_mem hmem
  have hfront := unseen_mono front hsub
  have hothers := unseen_mono others hsub
  unfold unseen at *
  rw [List.countP_append, List.countP_append, List.countP_cons_of_neg (by simp [hseen]),
    List.countP_cons_of_pos (by simp [hnew])]
  omega

end

/-! ## One turn of a walk -/

/-- A walk under way. -/
structure Walk where
  modules : ModuleMap
  /-- For each module the walk is inside of, the imports still to come, the innermost module first. -/
  frames : List (List ModulePath)
  /-- What was done so far, the latest first. -/
  trace : List Action

/-- How a walk goes on. -/
inductive Walk.Turn where
  /-- Nothing is left to do. -/
  | finished
  /-- Something was passed over. -/
  | passed (walk : Walk)
  /-- A module has to be opened that is not in the map. -/
  | wanted (path : ModulePath) (walk : Walk)

namespace Walk

/-- A walk that has not opened any module. -/
def start (modules : ModuleMap) : Walk :=
  ⟨modules, [], []⟩

def note (w : Walk) (actions : List Action) : Walk :=
  { w with trace := actions.reverse ++ w.trace }

/-- Takes the next import of the innermost module, or leaves that module when it has none left. -/
def turn (w : Walk) : Turn :=
  match w.frames with
  | [] => .finished
  | [] :: outer => .passed { w with frames := outer }
  | (path :: waiting) :: outer =>
    if w.modules.contains path then
      .passed ({ w with frames := waiting :: outer }.note [.logged (.alreadyVisited path)])
    else .wanted path { w with frames := waiting :: outer }

/-- Adds a processed module to the map and goes inside. -/
def enter (w : Walk) (path : ModulePath) (processed : ProcessedModule) : Walk :=
  let dependencies := processed.specifiers.map path.resolve
  let noted := w.note [.logged (.rewrote path dependencies.length)]
  { noted with
    modules := w.modules.insert path ⟨processed.code, dependencies⟩
    frames := dependencies :: w.frames }

/-- Opens a module, given the answer of the store. -/
def visit (process : Processor) (path : ModulePath) (answer : Except Failure String) (w : Walk) :
    Walk × Except Failure Unit :=
  let reading := w.note [.logged (.reading path), .read path]
  match answer with
  | .error failure => (reading, .error failure)
  | .ok text =>
    let (events, result) := process path text
    let processing := reading.note (events.map .logged)
    match result with
    | .error failure => (processing, .error failure)
    | .ok processed => (processing.enter path processed, .ok ())

/-- One turn of the loop with the opening it asks for, and how the walk ended if it did. -/
def step (read : ModulePath → Except Failure String) (process : Processor) (w : Walk) :
    Walk × Option (Except Failure Unit) :=
  match w.turn with
  | .finished => (w, some (.ok ()))
  | .passed w' => (w', none)
  | .wanted path w' =>
    match w'.visit process path (read path) with
    | (w'', .error failure) => (w'', some (.error failure))
    | (w'', .ok ()) => (w'', none)

/-! ## Running to the end -/

/-- Goes on until nothing is left to do or a module fails; `none` if neither ever happens. -/
def run? (read : ModulePath → Except Failure String) (process : Processor) (w : Walk) :
    Option (Walk × Except Failure Unit) :=
  match w.step read process with
  | (w', some result) => some (w', result)
  | (w', none) => w' |>.run? read process
partial_fixpoint

/-- How many candidates are not in the map. -/
def unvisited (sources : Sources) (modules : ModuleMap) : Nat :=
  unseen sources.candidates modules.paths

/-- How many imports wait, with one more for every frame. -/
def waiting : List (List ModulePath) → Nat
  | [] => 0
  | frame :: outer => frame.length + 1 + waiting outer

theorem visit_modules_of_ok {process : Processor} {path : ModulePath} {answer : Except Failure String}
    {w w' : Walk} (h : w.visit process path answer = (w', .ok ())) :
    (∃ text, answer = .ok text) ∧ ∃ record, w'.modules = w.modules.insert path record := by
  cases answer with
  | error failure => simp [visit] at h
  | ok text =>
    refine ⟨⟨text, rfl⟩, ?_⟩
    unfold visit at h
    cases hp : (process path text).2 with
    | error failure => simp [hp] at h
    | ok processed =>
      rw [← (Prod.mk.inj h).1]
      exact ⟨⟨processed.code, processed.specifiers.map path.resolve⟩, by simp [hp, enter, note]⟩

theorem unvisited_insert_lt {sources : Sources} {modules : ModuleMap} {path : ModulePath}
    (record : ModuleRecord) (hmem : path ∈ sources.candidates) (hnew : modules.contains path = false) :
    unvisited sources (modules.insert path record) < unvisited sources modules := by
  rw [unvisited, unvisited, ModuleMap.paths_insert record hnew]
  exact unseen_lt (fun x hx => List.mem_append_left _ hx) hmem (ModuleMap.contains_eq_false_iff.mp hnew)
    (by simp)

theorem waiting_lt_of_passed {w w' : Walk} (h : w.turn = .passed w') :
    w'.modules = w.modules ∧ waiting w'.frames < waiting w.frames := by
  unfold turn at h
  split at h
  · simp at h
  · rename_i outer hframes
    obtain rfl := Turn.passed.inj h
    simp [waiting, hframes]
  · rename_i path rest outer hframes
    split at h
    · obtain rfl := Turn.passed.inj h
      simp [waiting, hframes, note]
    · simp at h

theorem turn_wanted {w w' : Walk} {path : ModulePath} (h : w.turn = .wanted path w') :
    w'.modules = w.modules ∧ w.modules.contains path = false := by
  unfold turn at h
  split at h
  · simp at h
  · simp at h
  · split at h
    · simp at h
    · rename_i hc
      obtain ⟨rfl, rfl⟩ := Turn.wanted.inj h
      exact ⟨rfl, by simpa using hc⟩

/-- A turn that does not end the walk leaves fewer openable modules, or as many and fewer waiting imports. -/
theorem step_decreases {sources : Sources} {process : Processor} {w w' : Walk}
    (h : w.step sources.read process = (w', none)) :
    Prod.Lex (· < ·) (· < ·) (unvisited sources w'.modules, waiting w'.frames)
      (unvisited sources w.modules, waiting w.frames) := by
  unfold step at h
  split at h
  · simp at h
  · next w₁ hturn =>
    obtain ⟨hmodules, hlt⟩ := waiting_lt_of_passed hturn
    rw [← (Prod.mk.inj h).1, hmodules]
    exact Prod.Lex.right _ hlt
  · next path w₁ hturn =>
    obtain ⟨hmodules, hnew⟩ := turn_wanted hturn
    split at h
    · simp at h
    · next w₂ hvisit =>
      obtain ⟨⟨text, hread⟩, record, hinsert⟩ := visit_modules_of_ok hvisit
      rw [← (Prod.mk.inj h).1, hinsert, hmodules]
      exact Prod.Lex.left _ _ (unvisited_insert_lt record (sources.mem_candidates hread) hnew)

/-- Where only finitely many paths can be read, every walk ends. -/
theorem run?_isSome (sources : Sources) (process : Processor) (w : Walk) :
    (run? sources.read process w).isSome := by
  rw [run?]
  split
  · rfl
  · next w' hstep => exact run?_isSome sources process w'
termination_by (unvisited sources w.modules, waiting w.frames)
decreasing_by exact step_decreases ‹_›

/-- Walks from an entry to everything that can be reached from it by imports; an entry that is in the map already
asks for nothing. There is no answer if the walk never ends. -/
def from? (read : ModulePath → Except Failure String) (process : Processor) (entry : ModulePath)
    (modules : ModuleMap) : Option (Walk × Except Failure Unit) :=
  if modules.contains entry then some (start modules, .ok ())
  else
    match (start modules).visit process entry (read entry) with
    | (walk, .error failure) => some (walk, .error failure)
    | (walk, .ok ()) => walk.run? read process

theorem from?_isSome (sources : Sources) (process : Processor) (entry : ModulePath) (modules : ModuleMap) :
    (from? sources.read process entry modules).isSome := by
  unfold from?
  split
  · rfl
  · split
    · rfl
    · exact run?_isSome sources process _

end Walk

/-- Walks from an entry where only finitely many paths can be read. -/
def Walk.from (sources : Sources) (process : Processor) (entry : ModulePath) (modules : ModuleMap) :
    Walk × Except Failure Unit :=
  (from? sources.read process entry modules).get (from?_isSome sources process entry modules)

/-- What a walk leaves: the map, what was done, in order, and how it ended. -/
def Walk.answer (ended : Walk × Except Failure Unit) : ModuleMap × List Action × Except Failure Unit :=
  (ended.1.modules, ended.1.trace.reverse, ended.2)

/-- Adds to the map every module that can be reached from the entry, and also tells what was done, in order; `none` if
there is no end to them. -/
def ModuleMap.extend? (read : ModulePath → Except Failure String) (process : Processor) (entry : ModulePath)
    (modules : ModuleMap) : Option (ModuleMap × List Action × Except Failure Unit) :=
  (Walk.from? read process entry modules).map Walk.answer

/-- Adds to the map every module that can be reached from the entry. Also tells what was done, in order. -/
def ModuleMap.extend (sources : Sources) (process : Processor) (entry : ModulePath) (modules : ModuleMap) :
    ModuleMap × List Action × Except Failure Unit :=
  Walk.answer (Walk.from sources process entry modules)

/-- On finitely many readable paths the answer is always there. -/
theorem ModuleMap.extend?_eq_some (sources : Sources) (process : Processor) (entry : ModulePath)
    (modules : ModuleMap) :
    modules.extend? sources.read process entry = some (modules.extend sources process entry) := by
  rw [extend?, extend, Walk.from, ← Option.map_some, Option.some_get]

end Bundler
