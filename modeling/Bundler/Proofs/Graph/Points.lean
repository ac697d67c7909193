import Bundler.Proofs.Graph.Opening

/-!
# The points of a walk

What is true of a walk all the time is true at every point it passes, not only where it ends; and a walk that never ends
has points too. `ModuleMap.Passes` says which they are: the walk as it is once the entry is opened, and as it is after
every turn of the loop. Beside each point stands how the walk ended, if it did.

* `Walk.Turns` — the five turns as a relation, which `step` follows
* `ModuleMap.passes_of_extend?` — the answer of a walk is the last of its points
-/

namespace Bundler

/-! ## Turns -/

/-- One turn of the loop: the walk before, the walk after, and how it ended if it did. -/
inductive Walk.Turns (read : ModulePath → Except Failure String) (process : Processor) :
    Walk → Walk → Option (Except Failure Unit) → Prop
  | finished {modules : ModuleMap} {trace : List Action} :
      Turns read process ⟨modules, [], trace⟩ ⟨modules, [], trace⟩ (some (.ok ()))
  | left {modules : ModuleMap} {outer : List (List ModulePath)} {trace : List Action} :
      Turns read process ⟨modules, [] :: outer, trace⟩ ⟨modules, outer, trace⟩ none
  | passed {modules : ModuleMap} {path : ModulePath} {rest : List ModulePath} {outer : List (List ModulePath)}
      {trace : List Action} (hseen : modules.contains path = true) :
      Turns read process ⟨modules, (path :: rest) :: outer, trace⟩
        ⟨modules, rest :: outer, .logged (.alreadyVisited path) :: trace⟩ none
  | failed {modules : ModuleMap} {path : ModulePath} {rest : List ModulePath} {outer : List (List ModulePath)}
      {trace : List Action} {failure : Failure} (hnew : modules.contains path = false)
      (hload : load read process path = .error failure) :
      Turns read process ⟨modules, (path :: rest) :: outer, trace⟩
        ⟨modules, rest :: outer, (openingActions read process path).reverse ++ trace⟩ (some (.error failure))
  | entered {modules : ModuleMap} {path : ModulePath} {rest : List ModulePath} {outer : List (List ModulePath)}
      {trace : List Action} {record : ModuleRecord} (hnew : modules.contains path = false)
      (hload : load read process path = .ok record) :
      Turns read process ⟨modules, (path :: rest) :: outer, trace⟩
        ⟨modules.insert path record, record.dependencies :: rest :: outer,
          (openingActions read process path).reverse ++ trace⟩ none

variable {read : ModulePath → Except Failure String} {process : Processor} {entry : ModulePath} {modules : ModuleMap}

theorem Walk.turns_step (w : Walk) : w.Turns read process (w.step read process).1 (w.step read process).2 := by
  obtain ⟨modules, frames, trace⟩ := w
  rcases frames with _ | ⟨_ | ⟨path, rest⟩, outer⟩
  · rw [step_finished]
    exact .finished
  · rw [step_left]
    exact .left
  · cases hseen : modules.contains path with
    | true =>
      rw [step_passed hseen]
      exact .passed hseen
    | false =>
      cases hload : load read process path with
      | error failure =>
        rw [step_failed hseen hload]
        exact .failed hseen hload
      | ok record =>
        rw [step_entered hseen hload]
        exact .entered hseen hload

/-! ## Points -/

/-- The points of a walk from an entry. -/
inductive ModuleMap.Passes (read : ModulePath → Except Failure String) (process : Processor) (entry : ModulePath)
    (modules : ModuleMap) : Walk → Option (Except Failure Unit) → Prop
  /-- Nothing is done for an entry that is in the map. -/
  | present (hseen : modules.contains entry = true) : Passes read process entry modules (.start modules) (some (.ok ()))
  | refused {w : Walk} {failure : Failure} (hnew : modules.contains entry = false)
      (hvisit : (Walk.start modules).visit process entry (read entry) = (w, .error failure)) :
      Passes read process entry modules w (some (.error failure))
  | opened {w : Walk} (hnew : modules.contains entry = false)
      (hvisit : (Walk.start modules).visit process entry (read entry) = (w, .ok ())) :
      Passes read process entry modules w none
  | turned {w w' : Walk} {status : Option (Except Failure Unit)} (hpasses : Passes read process entry modules w none)
      (hstep : w.step read process = (w', status)) : Passes read process entry modules w' status

namespace ModuleMap

/-- What is true once the entry is opened and stays true with every turn is true at every point. -/
theorem Passes.induction {motive : Walk → Option (Except Failure Unit) → Prop}
    (present : modules.contains entry = true → motive ⟨modules, [], []⟩ (some (.ok ())))
    (refused : ∀ failure, modules.contains entry = false → load read process entry = .error failure →
      motive ⟨modules, [], (openingActions read process entry).reverse⟩ (some (.error failure)))
    (opened : ∀ record, modules.contains entry = false → load read process entry = .ok record →
      motive ⟨modules.insert entry record, [record.dependencies], (openingActions read process entry).reverse⟩ none)
    (turned : ∀ w w' status, w.Turns read process w' status → motive w none → motive w' status)
    {w : Walk} {status : Option (Except Failure Unit)} (h : modules.Passes read process entry w status) :
    motive w status := by
  induction h with
  | present hseen => exact present hseen
  | @refused w failure hnew hvisit =>
    cases hload : load read process entry with
    | error other =>
      rw [Walk.visit_of_load_error hload] at hvisit
      obtain ⟨rfl, hfailure⟩ := Prod.mk.inj hvisit
      obtain rfl := Except.error.inj hfailure
      simpa [Walk.note, Walk.start] using refused other hnew hload
    | ok record => simp [Walk.visit_of_load_ok hload] at hvisit
  | @opened w hnew hvisit =>
    cases hload : load read process entry with
    | error failure => simp [Walk.visit_of_load_error hload] at hvisit
    | ok record =>
      rw [Walk.visit_of_load_ok hload] at hvisit
      obtain ⟨rfl, -⟩ := Prod.mk.inj hvisit
      simpa [Walk.start] using opened record hnew hload
  | @turned w w' status _ hstep ih =>
    have hturns : w.Turns read process (w.step read process).1 (w.step read process).2 := w.turns_step
    rw [hstep] at hturns
    exact turned w w' status hturns ih

/-- The loop passes where it ends. -/
theorem Passes.of_run? {w : Walk} {ended : Walk × Except Failure Unit} (h : modules.Passes read process entry w none)
    (hrun : w.run? read process = some ended) : modules.Passes read process entry ended.1 (some ended.2) :=
  Walk.run?_induction
    (motive := fun w ended => modules.Passes read process entry w none →
      modules.Passes read process entry ended.1 (some ended.2))
    (fun _ _ h => h.turned Walk.step_finished) (fun _ _ _ _ ih h => ih (h.turned Walk.step_left))
    (fun _ _ _ _ _ _ hseen ih h => ih (h.turned (Walk.step_passed hseen)))
    (fun _ _ _ _ _ _ hnew hload h => h.turned (Walk.step_failed hnew hload))
    (fun _ _ _ _ _ _ _ hnew hload ih h => ih (h.turned (Walk.step_entered hnew hload))) hrun h

/-- **The answer of a walk is the last of its points.** -/
theorem passes_of_extend? {d : ModuleMap × List Action × Except Failure Unit}
    (h : modules.extend? read process entry = some d) :
    ∃ w result, modules.Passes read process entry w (some result) ∧ d = Walk.answer (w, result) := by
  obtain ⟨⟨w, result⟩, hfrom, rfl⟩ := Option.map_eq_some_iff.mp h
  refine ⟨w, result, ?_, rfl⟩
  unfold Walk.from? at hfrom
  split at hfrom
  · next hseen =>
    obtain ⟨rfl, rfl⟩ := Prod.mk.inj (Option.some.inj hfrom)
    exact .present hseen
  · next hnew =>
    rw [Bool.not_eq_true] at hnew
    split at hfrom
    · next walk failure hvisit =>
      obtain ⟨rfl, rfl⟩ := Prod.mk.inj (Option.some.inj hfrom)
      exact .refused hnew hvisit
    · next walk hvisit => exact (Passes.opened hnew hvisit).of_run? hfrom

end ModuleMap

end Bundler
