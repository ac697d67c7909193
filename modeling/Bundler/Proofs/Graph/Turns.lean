import Bundler.Proofs.Graph.Opening
import Mathlib

/-!
# How many turns a walk takes

The loop of a walk takes a turn for every import it comes to and one more to leave each module. `Walk.EndsIn` and
`ModuleMap.ExtendsIn` count these turns.

The bound is a potential: what a module will cost, an import each and one for leaving it, is owed by the modules that can
still be read and by the frames of those the walk is inside of. Opening a module moves its cost from the first to the
second, so every turn pays exactly one, on diamonds and cycles as on anything else (`endsIn_le_of_run?`).

* `extend_ends_within` — a walk ends after at most as many turns as all modules cost that could be read when it began
-/

namespace Bundler

/-! ## Counting turns -/

/-- The loop ends after this many turns. The look that finds nothing left to do is no turn; a turn that fails is one. -/
inductive Walk.EndsIn (read : ModulePath → Except Failure String) (process : Processor) :
    Walk → Nat → Walk × Except Failure Unit → Prop
  | finished {w : Walk} (h : w.turn = .finished) : EndsIn read process w 0 (w, .ok ())
  | failed {w w' : Walk} {failure : Failure} (h : w.step read process = (w', some (.error failure))) :
      EndsIn read process w 1 (w', .error failure)
  | next {w w' : Walk} {n : Nat} {ended : Walk × Except Failure Unit} (h : w.step read process = (w', none))
      (hrest : EndsIn read process w' n ended) : EndsIn read process w (n + 1) ended

/-- The modules are extended from an entry with this answer, and the loop takes this many turns. The entry is opened
before the loop begins. -/
inductive ModuleMap.ExtendsIn (read : ModulePath → Except Failure String) (process : Processor) (entry : ModulePath)
    (modules : ModuleMap) : Nat → ModuleMap × List Action × Except Failure Unit → Prop
  | present (h : modules.contains entry = true) :
      ExtendsIn read process entry modules 0 (Walk.answer (.start modules, .ok ()))
  | failed {w : Walk} {failure : Failure} (hnew : modules.contains entry = false)
      (h : (Walk.start modules).visit process entry (read entry) = (w, .error failure)) :
      ExtendsIn read process entry modules 0 (Walk.answer (w, .error failure))
  | entered {w : Walk} {n : Nat} {ended : Walk × Except Failure Unit} (hnew : modules.contains entry = false)
      (h : (Walk.start modules).visit process entry (read entry) = (w, .ok ()))
      (hloop : w.EndsIn read process n ended) : ExtendsIn read process entry modules n (Walk.answer ended)

variable {read : ModulePath → Except Failure String} {process : Processor} {entry path : ModulePath}
  {modules : ModuleMap} {n : Nat}

/-- A counted loop is the loop. -/
theorem Walk.EndsIn.run? {w : Walk} {ended : Walk × Except Failure Unit} (h : w.EndsIn read process n ended) :
    w.run? read process = some ended := by
  induction h with
  | finished h =>
    rw [Walk.run?, Walk.step, h]
  | failed h =>
    rw [Walk.run?, h]
  | next h _ ih =>
    rw [Walk.run?, h]
    exact ih

/-- A counted walk is the walk. -/
theorem ModuleMap.ExtendsIn.extend? {d : ModuleMap × List Action × Except Failure Unit}
    (h : modules.ExtendsIn read process entry n d) : modules.extend? read process entry = some d := by
  unfold ModuleMap.extend? Walk.from?
  cases h with
  | present hseen => rw [if_pos hseen, Option.map_some]
  | failed hnew hvisit =>
    rw [if_neg (by simp [hnew]), hvisit, Option.map_some]
  | entered hnew hvisit hloop =>
    rw [if_neg (by simp [hnew]), hvisit]
    show Option.map Walk.answer (Walk.run? _ _ _) = _
    rw [hloop.run?, Option.map_some]

/-! ## What is owed -/

/-- The paths that can be read and are not in the map. -/
def unread (sources : Sources) (modules : ModuleMap) : Finset ModulePath :=
  {path ∈ sources.candidates.toFinset | (sources.read path).isOk = true ∧ modules.contains path = false}

/-- What the modules cost that can still be read: for each its imports and one more. -/
def owed (sources : Sources) (process : Processor) (modules : ModuleMap) : Nat :=
  ∑ path ∈ unread sources modules, ((importsOf sources.read process path).length + 1)

variable {sources : Sources}

theorem mem_unread :
    path ∈ unread sources modules ↔ (∃ text, sources.read path = .ok text) ∧ modules.contains path = false := by
  have hok : (sources.read path).isOk = true ↔ ∃ text, sources.read path = .ok text := by
    cases sources.read path <;> simp [Except.isOk, Except.toBool]
  rw [unread, Finset.mem_filter, List.mem_toFinset, hok]
  constructor
  · exact And.right
  · rintro ⟨⟨text, hread⟩, hnew⟩
    exact ⟨sources.mem_candidates hread, ⟨text, hread⟩, hnew⟩

theorem unread_insert (record : ModuleRecord) (hnew : modules.contains path = false) :
    unread sources (modules.insert path record) = (unread sources modules).erase path := by
  ext other
  rw [Finset.mem_erase, mem_unread, mem_unread, ModuleMap.contains_eq_false_iff, ModuleMap.contains_eq_false_iff,
    ModuleMap.paths_insert record hnew, List.mem_append, List.mem_singleton]
  tauto

/-- Opening a module pays what it costs. -/
theorem owed_insert {record : ModuleRecord} (hnew : modules.contains path = false)
    (hload : load sources.read process path = .ok record) :
    owed sources process (modules.insert path record) + (record.dependencies.length + 1) =
      owed sources process modules := by
  obtain ⟨text, -, hread, -⟩ := load_eq_ok_iff.mp hload
  have hmem : path ∈ unread sources modules := mem_unread.mpr ⟨⟨text, hread⟩, hnew⟩
  rw [owed, owed, unread_insert record hnew, ← importsOf_of_load_ok hload]
  exact Finset.sum_erase_add _ _ hmem

/-! ## The bound -/

/-- A loop takes no more turns than its frames and the modules still to be read owe. -/
theorem endsIn_le_of_run? {w : Walk} {ended : Walk × Except Failure Unit}
    (h : w.run? sources.read process = some ended) :
    ∃ n, w.EndsIn sources.read process n ended ∧ n ≤ Walk.waiting w.frames + owed sources process w.modules := by
  refine Walk.run?_induction (motive := fun w ended => ∃ n, w.EndsIn sources.read process n ended ∧
    n ≤ Walk.waiting w.frames + owed sources process w.modules) ?finished ?left ?passed ?failed ?entered h
  case finished => exact fun modules trace => ⟨0, .finished rfl, Nat.zero_le _⟩
  case left =>
    rintro modules outer trace ended ⟨n, hends, hle⟩
    refine ⟨n + 1, .next Walk.step_left hends, ?_⟩
    simp only [Walk.waiting, List.length_nil] at hle ⊢
    omega
  case passed =>
    rintro modules path rest outer trace ended hseen ⟨n, hends, hle⟩
    refine ⟨n + 1, .next (Walk.step_passed hseen) hends, ?_⟩
    simp only [Walk.waiting, List.length_cons] at hle ⊢
    omega
  case failed =>
    intro modules path rest outer trace failure hnew hload
    refine ⟨1, .failed (Walk.step_failed hnew hload), ?_⟩
    simp only [Walk.waiting, List.length_cons]
    omega
  case entered =>
    rintro modules path rest outer trace ended record hnew hload ⟨n, hends, hle⟩
    refine ⟨n + 1, .next (Walk.step_entered hnew hload) hends, ?_⟩
    have hpaid := owed_insert hnew hload
    simp only [Walk.waiting, List.length_cons] at hle ⊢
    omega

/--
**Every walk ends, and soon.**

Where only finitely many paths can be read, a walk ends from every entry and every map, with success or with a failure.
Its loop takes at most one turn for every import of every module that can be read and is not in the map, and one more for
every such module.
-/
theorem extend_ends_within (sources : Sources) (process : Processor) (entry : ModulePath) (modules : ModuleMap) :
    ∃ n, modules.ExtendsIn sources.read process entry n (modules.extend sources process entry) ∧
      n ≤ ∑ path ∈ unread sources modules, ((importsOf sources.read process path).length + 1) := by
  have hextend := modules.extend?_eq_some sources process entry
  -- any counted answer is the answer
  suffices h : ∃ n d, modules.ExtendsIn sources.read process entry n d ∧ n ≤ owed sources process modules by
    obtain ⟨n, d, hcounted, hle⟩ := h
    obtain rfl := Option.some.inj (hcounted.extend?.symm.trans hextend)
    exact ⟨n, hcounted, hle⟩
  by_cases hseen : modules.contains entry = true
  · exact ⟨0, _, .present hseen, Nat.zero_le _⟩
  · rw [Bool.not_eq_true] at hseen
    cases hload : load sources.read process entry with
    | error failure => exact ⟨0, _, .failed hseen (Walk.visit_of_load_error hload _), Nat.zero_le _⟩
    | ok record =>
      have hvisit := Walk.visit_of_load_ok hload (Walk.start modules)
      obtain ⟨ended, hrun⟩ := Option.isSome_iff_exists.mp (Walk.run?_isSome sources process _)
      obtain ⟨n, hends, hle⟩ := endsIn_le_of_run? hrun
      refine ⟨n, _, .entered hseen hvisit hends, hle.trans ?_⟩
      have hpaid := owed_insert hseen hload
      simp only [Walk.waiting, Walk.start]
      omega

end Bundler
