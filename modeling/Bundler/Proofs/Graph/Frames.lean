import Bundler.Proofs.Graph.Examination

/-!
# The frames of a walk

What waits in a frame are imports of some module, but the frame does not say of which. `Walk.Nested` tells how frames and
modules go together: the outermost frame is that of the entry, and every frame further in belongs to the import that was
taken last of the frame around it. So the modules that the walk is inside of are an import chain from the entry.

* `frames_nested` — at the head of every turn the frames are nested like this, no module has two of them, and no import is
  forgotten: what does not wait in the frame of its module is in the map
-/

namespace Bundler

/-- Frames and the modules that they belong to, the innermost first. In the frame of a module waits the rest of the imports
that its record lists, and the module inside is the last one that was taken of them. -/
inductive Walk.Nested (records : List (ModulePath × ModuleRecord)) (entry : ModulePath) :
    List ModulePath → List (List ModulePath) → Prop
  | outside : Nested records entry [] []
  | entry {record : ModuleRecord} {taken waiting : List ModulePath} (hrecord : (entry, record) ∈ records)
      (htaken : record.dependencies = taken ++ waiting) : Nested records entry [entry] [waiting]
  | inside {owner path : ModulePath} {owners : List ModulePath} {outer : List (List ModulePath)}
      {around record : ModuleRecord} {before rest taken waiting : List ModulePath}
      (houter : Nested records entry (owner :: owners) (rest :: outer)) (haround : (owner, around) ∈ records)
      (hlast : around.dependencies = before ++ path :: rest) (hrecord : (path, record) ∈ records)
      (htaken : record.dependencies = taken ++ waiting) :
      Nested records entry (path :: owner :: owners) (waiting :: rest :: outer)

variable {read : ModulePath → Except Failure String} {process : Processor} {path entry owner : ModulePath}
  {modules : ModuleMap} {rest frame : List ModulePath} {outer frames : List (List ModulePath)} {owners : List ModulePath}
  {record : ModuleRecord} {records records' : List (ModulePath × ModuleRecord)}

namespace Walk.Nested

/-- With more records. -/
theorem mono (h : Nested records entry owners frames) (hsub : records ⊆ records') :
    Nested records' entry owners frames := by
  induction h with
  | outside => exact .outside
  | entry hrecord htaken => exact .entry (hsub hrecord) htaken
  | inside _ haround hlast hrecord htaken ih => exact ih.inside (hsub haround) hlast (hsub hrecord) htaken

/-- What waits in the innermost frame is the end of what its module imports. -/
theorem exists_taken (h : Nested records entry (owner :: owners) (frame :: outer)) :
    ∃ record taken, (owner, record) ∈ records ∧ record.dependencies = taken ++ frame := by
  cases h with
  | entry hrecord htaken => exact ⟨_, _, hrecord, htaken⟩
  | inside _ _ _ hrecord htaken => exact ⟨_, _, hrecord, htaken⟩

/-- The innermost module is left. -/
theorem left (h : Nested records entry (owner :: owners) (frame :: outer)) : Nested records entry owners outer := by
  cases h with
  | entry _ _ => exact .outside
  | inside houter _ _ _ _ => exact houter

/-- The next import of the innermost module is taken. -/
theorem taken (h : Nested records entry (owner :: owners) ((path :: rest) :: outer)) :
    Nested records entry (owner :: owners) (rest :: outer) := by
  cases h with
  | @entry record before _ hrecord htaken =>
    rw [List.append_cons] at htaken
    exact .entry hrecord htaken
  | @inside _ _ _ _ _ record _ _ before _ houter haround hlast hrecord htaken =>
    rw [List.append_cons] at htaken
    exact houter.inside haround hlast hrecord htaken

/-- The import that was taken is opened. -/
theorem entered (h : Nested records entry (owner :: owners) ((path :: rest) :: outer)) (record : ModuleRecord) :
    Nested (records ++ [(path, record)]) entry (path :: owner :: owners) (record.dependencies :: rest :: outer) := by
  have hsub : records ⊆ records ++ [(path, record)] := List.subset_append_left _ _
  obtain ⟨around, before, haround, hlast⟩ := h.exists_taken
  exact (h.taken.mono hsub).inside (hsub haround) hlast (by simp) (List.nil_append _).symm

end Walk.Nested

namespace Walk.Watch.Accounts

variable {t : Walk.Watch}

/-- What was examined was new if it was neither known before nor found until then. -/
theorem isNew_iff_of_mem {x : Examination} (h : t.Accounts read process entry modules records) (hx : x ∈ t.examined) :
    ∃ before, foundBy before ⊆ foundBy t.examined ∧
      (x.isNew = true ↔ x.imported ∉ modules.paths ++ entry :: foundBy before) := by
  obtain ⟨before, after, hexamined⟩ := List.append_of_mem hx
  refine ⟨before, ?_, h.sound before x ⟨after, by rw [hexamined, List.append_assoc]; rfl⟩⟩
  rw [hexamined, foundBy, foundBy, List.filter_append, List.map_append]
  exact List.subset_append_left _ _

/-- What was examined is in the map. -/
theorem imported_mem {x : Examination} (h : t.Accounts read process entry modules records) (hx : x ∈ t.examined) :
    x.imported ∈ t.walk.modules.paths := by
  obtain ⟨before, hsub, hnew⟩ := h.isNew_iff_of_mem hx
  rw [h.paths_eq]
  by_cases hseen : x.imported ∈ modules.paths ++ entry :: foundBy before
  · rcases List.mem_append.mp hseen with hold | hfound
    · exact List.mem_append_left _ hold
    · exact List.mem_append_right _ (List.cons_subset_cons entry hsub hfound)
  · have hfound : x.imported ∈ foundBy t.examined := List.mem_map_of_mem (List.mem_filter.mpr ⟨hx, hnew.mpr hseen⟩)
    exact List.mem_append_right _ (List.mem_cons_of_mem _ hfound)

/-- What a new module imports was examined or waits in its frame. -/
theorem mem_paths_or_waits {dependency : ModulePath} (h : t.Accounts read process entry modules records)
    (hmem : (path, record) ∈ records) (hdependency : dependency ∈ record.dependencies) :
    dependency ∈ t.walk.modules.paths ∨
      ∃ frame, (path, frame) ∈ t.owners.zip t.walk.frames ∧ dependency ∈ frame := by
  rw [← h.shares path record hmem, List.mem_append] at hdependency
  refine hdependency.imp (fun hexamined => ?_) fun hwaits => ?_
  · obtain ⟨x, hx, rfl⟩ := List.mem_map.mp hexamined
    exact h.imported_mem (List.mem_filter.mp hx).1
  · unfold Walk.waitingOf at hwaits
    cases hframe : (t.owners.zip t.walk.frames).lookup path with
    | none => simp [hframe] at hwaits
    | some frame =>
      rw [hframe] at hwaits
      exact ⟨frame, mem_of_lookup hframe, hwaits⟩

/-- The new modules are not known before. -/
theorem notMem_paths (h : t.Accounts read process entry modules records) (hnew : modules.contains entry = false) :
    ∀ path ∈ records.map Prod.fst, path ∉ modules.paths := by
  rw [h.found]
  refine List.forall_mem_cons.mpr ⟨ModuleMap.contains_eq_false_iff.mp hnew, fun path hpath => ?_⟩
  obtain ⟨x, hx, rfl⟩ := List.mem_map.mp hpath
  obtain ⟨hmem, hfound⟩ := List.mem_filter.mp hx
  obtain ⟨before, -, hnew'⟩ := h.isNew_iff_of_mem hmem
  exact fun hold => hnew'.mp hfound (List.mem_append_left _ hold)

/-- No more modules have a frame than are new. -/
theorem length_frames_le (h : t.Accounts read process entry modules records) :
    t.walk.frames.length ≤ records.length := by
  rw [← h.frames, ← List.length_map Prod.fst]
  exact (List.subperm_of_subset h.nodup h.owned).length_le

end Walk.Watch.Accounts

namespace ModuleMap

variable {t : Walk.Watch} {status : Option (Except Failure Unit)} {w : Walk}

/-- Every walk that goes on has begun with a new entry. -/
theorem Passes.contains_eq_false (h : modules.Passes read process entry w none) : modules.contains entry = false := by
  generalize hstatus : (none : Option (Except Failure Unit)) = status at h
  induction h with
  | present _ => cases hstatus
  | refused _ _ => cases hstatus
  | opened hnew _ => exact hnew
  | turned _ _ ih => exact ih rfl

/-- There are accounts at every point, and the frames are nested. -/
theorem Watched.nested (h : modules.Watched read process entry t status)
    (hstatus : ∀ failure, status ≠ some (.error failure)) :
    ∃ records, t.Accounts read process entry modules records ∧
      Walk.Nested records entry t.owners t.walk.frames := by
  refine Watched.induction (motive := fun t => ∃ records, t.Accounts read process entry modules records ∧
    Walk.Nested records entry t.owners t.walk.frames) ?opened ?left ?passed ?entered h hstatus
  case opened =>
    intro record hnew hload
    exact ⟨[(entry, record)], .opened hnew hload, .entry List.mem_cons_self (List.nil_append _).symm⟩
  case left =>
    rintro modules' outer trace owner owners examined ⟨records, haccounts, hnested⟩
    exact ⟨records, haccounts.left, hnested.left⟩
  case passed =>
    rintro modules' path rest outer trace owner owners examined hseen ⟨records, haccounts, hnested⟩
    exact ⟨records, haccounts.passed hseen, hnested.taken⟩
  case entered =>
    rintro modules' path rest outer trace owner owners examined record hnew hload ⟨records, haccounts, hnested⟩
    exact ⟨records ++ [(path, record)], haccounts.entered hnew hload, hnested.entered record⟩

end ModuleMap

/--
**The frames of a walk are nested.**

Let a walk from an entry have gone on to the head of any turn, that of the first one included; it need not end. Its map is
the map it began with and some new modules with their records, each once and none of them known before. The frames belong to
different new modules. What waits in the frame of a module is the end of the imports that its record lists; the outermost
module is the entry, and each other one is the import that was taken last of the frame around it.

An import of a new module is in the map or waits in the frame of that module. So a new module without a frame has all that
it imports in the map, and there are never more frames than new modules.
-/
theorem frames_nested (read : ModulePath → Except Failure String) (process : Processor) (entry : ModulePath)
    (modules : ModuleMap) {w : Walk} (h : modules.Passes read process entry w none) :
    ∃ (records : List (ModulePath × ModuleRecord)) (owners : List ModulePath),
      w.modules.discoveryOrder = modules.discoveryOrder ++ records ∧ (records.map Prod.fst).Nodup ∧
      (∀ path ∈ records.map Prod.fst, path ∉ modules.paths) ∧ owners.Nodup ∧
      Walk.Nested records entry owners w.frames ∧
      (∀ path record, (path, record) ∈ records → ∀ dependency ∈ record.dependencies,
        dependency ∈ w.modules.paths ∨ ∃ frame, (path, frame) ∈ owners.zip w.frames ∧ dependency ∈ frame) ∧
      (∀ path record, (path, record) ∈ records → path ∉ owners →
        ∀ dependency ∈ record.dependencies, dependency ∈ w.modules.paths) ∧
      w.frames.length ≤ records.length := by
  have hok : ∀ failure, (none : Option (Except Failure Unit)) ≠ some (.error failure) := by simp
  have hnew := h.contains_eq_false
  obtain ⟨t, hwatched, rfl⟩ := ModuleMap.exists_watched hnew h hok
  obtain ⟨records, haccounts, hnested⟩ := hwatched.nested hok
  have hwaits (path : ModulePath) (record : ModuleRecord) (hmem : (path, record) ∈ records) (dependency : ModulePath)
      (hdependency : dependency ∈ record.dependencies) := haccounts.mem_paths_or_waits hmem hdependency
  refine ⟨records, t.owners, haccounts.listed, haccounts.distinct, haccounts.notMem_paths hnew, haccounts.nodup, hnested,
    hwaits, fun path record hmem hfree dependency hdependency => ?_, haccounts.length_frames_le⟩
  refine (hwaits path record hmem dependency hdependency).resolve_right ?_
  rintro ⟨frame, hframe, -⟩
  exact hfree (List.of_mem_zip hframe).1

/-- Two modules that import each other: inside of the second one, what waits of both is the third. -/
theorem frames_nested_ring :
    ∃ w, Ring.before.Passes Ring.store.read Ring.processor Ring.main w none ∧
      w.frames = [[Ring.known], [Ring.known]] ∧
      ∃ (records : List (ModulePath × ModuleRecord)) (owners : List ModulePath),
        records.map Prod.fst = [Ring.main, Ring.lib] ∧ owners.Nodup ∧ Walk.Nested records Ring.main owners w.frames ∧
        w.frames.length ≤ records.length := by
  have hmain : load Ring.store.read Ring.processor Ring.main = .ok ⟨"./lib.js", [Ring.lib, Ring.known]⟩ := by cbv
  have hlib : load Ring.store.read Ring.processor Ring.lib = .ok ⟨"./main.js", [Ring.main, Ring.known]⟩ := by cbv
  have hpasses := (((ModuleMap.Passes.opened (by decide) (Walk.visit_of_load_ok hmain (.start Ring.before))).turned
    (Walk.step_entered (by cbv) hlib)).turned (Walk.step_passed (by cbv)))
  refine ⟨_, hpasses, rfl, ?_⟩
  obtain ⟨records, owners, hlisted, -, -, hnodup, hnested, -, -, hdepth⟩ := frames_nested _ _ _ _ hpasses
  refine ⟨records, owners, ?_, hnodup, hnested, hdepth⟩
  have hpaths := congrArg (List.map Prod.fst) hlisted
  rw [List.map_append] at hpaths
  have hknown : [Ring.known] ++ records.map Prod.fst = [Ring.known] ++ [Ring.main, Ring.lib] :=
    hpaths.symm.trans (by cbv)
  exact List.append_cancel_left hknown

end Bundler
