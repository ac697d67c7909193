import Bundler.Bundle.Run
import Bundler.Proofs.Graph.Mirror
import Bundler.Proofs.Graph.Points
import Bundler.Proofs.Path.Resolution

/-!
# Walks that never leave the root

A module that starts at the root resolves whatever it imports to places that start at the root, with one exception: the
root itself is in no directory and resolves from the current one. As long as the root cannot be read, as where it is a
directory, a walk from an absolute entry keeps to such places (`Walk.FromRoot`). It reads each module under the very path
that becomes its key (`Walk.ReadsKeys`).

* `absolute_throughout` — what all points of such a walk have in common, and that no answer ever depends on the current
  directory
-/

namespace Bundler

variable {read : ModulePath → Except Failure String} {process : Processor} {path : ModulePath} {modules : ModuleMap}
  {rest : List ModulePath} {outer : List (List ModulePath)} {trace : List Action} {w w' : Walk}
  {status : Option (Except Failure Unit)}

/-- The root, which is in no directory. -/
def ModulePath.root : ModulePath :=
  ⟨.root, []⟩

theorem ModulePath.isAbsolute_resolve (habsolute : path.isAbsolute = true) (hroot : path ≠ root) (specifier : String) :
    (path.resolve specifier).isAbsolute = true := by
  obtain ⟨anchor, names⟩ := path
  obtain rfl : anchor = .root := by simpa [isAbsolute] using habsolute
  have hne : names ≠ [] := fun hnil => hroot (hnil ▸ rfl)
  rw [resolve_root hne]
  rfl

/-- The root imports from the current directory. -/
example : (ModulePath.root.resolve "./main.js").isAbsolute = false := by decide

/-- What a module imports starts at the root if the module does. -/
theorem isAbsolute_of_load_ok (hroot : ∀ text, read .root ≠ .ok text) (habsolute : path.isAbsolute = true)
    {record : ModuleRecord} (hload : load read process path = .ok record) :
    ∀ dependency ∈ record.dependencies, dependency.isAbsolute = true := by
  obtain ⟨text, processed, hread, -, -, hdependencies⟩ := load_eq_ok_iff.mp hload
  rw [hdependencies]
  intro dependency hmem
  obtain ⟨specifier, -, rfl⟩ := List.mem_map.mp hmem
  exact ModulePath.isAbsolute_resolve habsolute (fun heq => hroot text (heq ▸ hread)) specifier

/-! ## Where a walk is -/

/-- All that a walk has found, will look at and has read starts at the root. -/
structure Walk.FromRoot (w : Walk) : Prop where
  keys : ∀ path ∈ w.modules.paths, path.isAbsolute = true
  recorded : ∀ path record, (path, record) ∈ w.modules.discoveryOrder →
    ∀ dependency ∈ record.dependencies, dependency.isAbsolute = true
  waiting : ∀ frame ∈ w.frames, ∀ path ∈ frame, path.isAbsolute = true
  reads : ∀ path ∈ Action.reads w.trace, path.isAbsolute = true

/-- What is read so far is the keys in their order, and after them what has failed. -/
structure Walk.ReadsKeys (read : ModulePath → Except Failure String) (process : Processor) (w : Walk)
    (status : Option (Except Failure Unit)) : Prop where
  succeeded : (∀ failure, status ≠ some (.error failure)) → Action.reads w.trace.reverse = w.modules.paths
  failed : ∀ failure, status = some (.error failure) →
    ∃ path, Action.reads w.trace.reverse = w.modules.paths ++ [path] ∧ load read process path = .error failure

theorem Action.reads_reverse (actions : List Action) : reads actions.reverse = (reads actions).reverse :=
  List.filterMap_reverse

namespace Walk

theorem FromRoot.empty : FromRoot ⟨.empty, [], []⟩ where
  keys := fun _ hmem => absurd hmem List.not_mem_nil
  recorded := fun _ _ hmem => absurd hmem List.not_mem_nil
  waiting := fun _ hmem => absurd hmem List.not_mem_nil
  reads := fun _ hmem => absurd hmem List.not_mem_nil

namespace FromRoot

/-- What comes next starts at the root, and so does what comes later. -/
theorem innermost (h : FromRoot ⟨modules, (path :: rest) :: outer, trace⟩) :
    path.isAbsolute = true ∧ FromRoot ⟨modules, rest :: outer, trace⟩ := by
  obtain ⟨hframe, houter⟩ := List.forall_mem_cons.mp h.waiting
  obtain ⟨hpath, hrest⟩ := List.forall_mem_cons.mp hframe
  exact ⟨hpath, h.keys, h.recorded, List.forall_mem_cons.mpr ⟨hrest, houter⟩, h.reads⟩

/-- After something is opened. -/
theorem opening (h : FromRoot ⟨modules, outer, trace⟩) (hpath : path.isAbsolute = true) :
    FromRoot ⟨modules, outer, (openingActions read process path).reverse ++ trace⟩ where
  keys := h.keys
  recorded := h.recorded
  waiting := h.waiting
  reads := by
    rw [Action.reads_append, Action.reads_reverse, reads_openingActions]
    exact List.forall_mem_cons.mpr ⟨hpath, h.reads⟩

theorem entered (hroot : ∀ text, read .root ≠ .ok text) (h : FromRoot ⟨modules, outer, trace⟩)
    (hpath : path.isAbsolute = true) (hnew : modules.contains path = false) {record : ModuleRecord}
    (hload : load read process path = .ok record) :
    FromRoot ⟨modules.insert path record, record.dependencies :: outer,
      (openingActions read process path).reverse ++ trace⟩ where
  keys := by
    rw [ModuleMap.paths_insert record hnew]
    simpa [or_imp, forall_and] using ⟨h.keys, hpath⟩
  recorded := by
    rw [ModuleMap.discoveryOrder_insert record hnew]
    intro other entry hmem
    rcases List.mem_append.mp hmem with hold | hadded
    · exact h.recorded other entry hold
    · obtain ⟨rfl, rfl⟩ := Prod.mk.inj (List.mem_singleton.mp hadded)
      exact isAbsolute_of_load_ok hroot hpath hload
  waiting := List.forall_mem_cons.mpr ⟨isAbsolute_of_load_ok hroot hpath hload, h.waiting⟩
  reads := (h.opening hpath).reads

/-- A turn leads nowhere else. -/
theorem turned (hroot : ∀ text, read .root ≠ .ok text) (h : w.FromRoot) (hturns : w.Turns read process w' status) :
    w'.FromRoot := by
  cases hturns with
  | finished => exact h
  | left => exact ⟨h.keys, h.recorded, (List.forall_mem_cons.mp h.waiting).2, h.reads⟩
  | passed _ =>
    obtain ⟨-, hrest⟩ := h.innermost
    exact ⟨hrest.keys, hrest.recorded, hrest.waiting, hrest.reads⟩
  | failed _ _ =>
    obtain ⟨hpath, hrest⟩ := h.innermost
    exact hrest.opening hpath
  | entered hnew hload =>
    obtain ⟨hpath, hrest⟩ := h.innermost
    exact hrest.entered hroot hpath hnew hload

end FromRoot

namespace ReadsKeys

theorem stopped {failure : Failure} {frames : List (List ModulePath)}
    (h : Action.reads trace.reverse = modules.paths) (hload : load read process path = .error failure) :
    ReadsKeys read process ⟨modules, frames, (openingActions read process path).reverse ++ trace⟩
      (some (.error failure)) where
  succeeded := fun hok => absurd rfl (hok failure)
  failed := by
    intro other hother
    obtain rfl := Except.error.inj (Option.some.inj hother)
    refine ⟨path, ?_, hload⟩
    rw [List.reverse_append, List.reverse_reverse, Action.reads_append, h, reads_openingActions]

theorem entered {record : ModuleRecord} {frames : List (List ModulePath)}
    (h : Action.reads trace.reverse = modules.paths) (hnew : modules.contains path = false) :
    ReadsKeys read process ⟨modules.insert path record, frames, (openingActions read process path).reverse ++ trace⟩
      none where
  succeeded := fun _ => by
    rw [List.reverse_append, List.reverse_reverse, Action.reads_append, h, reads_openingActions,
      ModuleMap.paths_insert record hnew]
  failed := by simp

theorem turned (h : w.ReadsKeys read process none) (hturns : w.Turns read process w' status) :
    w'.ReadsKeys read process status := by
  have hreads := h.succeeded (by simp)
  cases hturns with
  | finished => exact ⟨fun _ => hreads, by simp⟩
  | left => exact ⟨fun _ => hreads, by simp⟩
  | passed _ =>
    refine ⟨fun _ => ?_, by simp⟩
    rw [List.reverse_cons, Action.reads_append]
    exact (List.append_nil _).trans hreads
  | failed _ hload => exact .stopped hreads hload
  | entered hnew _ => exact .entered hreads hnew

end ReadsKeys

end Walk

/-! ## All points -/

variable {entry : ModulePath}

theorem ModuleMap.Passes.fromRoot (hroot : ∀ text, read .root ≠ .ok text) (hentry : entry.isAbsolute = true)
    (h : ModuleMap.empty.Passes read process entry w status) : w.FromRoot := by
  refine ModuleMap.Passes.induction (motive := fun w _ => w.FromRoot) ?present ?refused ?opened ?turned h
  case present => exact fun _ => .empty
  case refused => exact fun failure _ _ => by simpa using Walk.FromRoot.empty.opening hentry
  case opened => exact fun record hnew hload => by simpa using Walk.FromRoot.empty.entered hroot hentry hnew hload
  case turned => exact fun w w' status hturns ih => ih.turned hroot hturns

theorem ModuleMap.Passes.readsKeys (h : ModuleMap.empty.Passes read process entry w status) :
    w.ReadsKeys read process status := by
  have hempty : Action.reads [].reverse = ModuleMap.empty.paths := rfl
  refine ModuleMap.Passes.induction (motive := fun w status => w.ReadsKeys read process status) ?present ?refused
    ?opened ?turned h
  case present => exact fun _ => ⟨fun _ => rfl, by simp⟩
  case refused => exact fun failure _ hload => by simpa using Walk.ReadsKeys.stopped hempty hload
  case opened => exact fun record hnew _ => by simpa using Walk.ReadsKeys.entered hempty hnew
  case turned => exact fun w w' status hturns ih => ih.turned hturns

/-- What is read elsewhere than below the root has no influence. -/
theorem extend?_congr_absolute {read' : ModulePath → Except Failure String} (hroot : ∀ text, read .root ≠ .ok text)
    (hentry : entry.isAbsolute = true) (hagree : ∀ path, path.isAbsolute = true → read' path = read path)
    {d : ModuleMap × List Action × Except Failure Unit}
    (h : ModuleMap.empty.extend? read process entry = some d) :
    ModuleMap.empty.extend? read' process entry = some d := by
  obtain ⟨w, result, hpasses, rfl⟩ := ModuleMap.passes_of_extend? h
  refine extend?_congr h fun path hpath => hagree path ?_
  change path ∈ Action.reads w.trace.reverse at hpath
  rw [Action.reads_reverse, List.mem_reverse] at hpath
  exact (hpasses.fromRoot hroot hentry).reads path hpath

/--
**A walk from an absolute entry stays absolute and normal throughout.**

Let the root not be readable as a file. However an absolute entry is spelled, the current directory is not asked for its
place. At every point of a walk from it into an empty map, the last one included, however the walk ended, the spellings
of all keys, of all recorded dependencies and of all that was read start at the root, have no `.` and no `..`, and are
their own normal form; and what was read are the keys, in their order, and after them what has failed. So nothing that a
relative path would lead to has any influence on the walk.
-/
theorem absolute_throughout (read : ModulePath → Except Failure String) (process : Processor) (entry : Path)
    (hroot : ∀ text, read .root ≠ .ok text) (hentry : entry.isAbsolute = true) :
    (∀ currentDirectory, entryPlace currentDirectory entry = .ok (.ofPath entry)) ∧
    (∀ w status, ModuleMap.empty.Passes read process (.ofPath entry) w status →
      (∀ path record, (path, record) ∈ w.modules.discoveryOrder →
        path.SpelledFromRoot ∧ ∀ dependency ∈ record.dependencies, dependency.SpelledFromRoot) ∧
      (∀ path ∈ Action.reads w.trace, path.SpelledFromRoot) ∧
      w.ReadsKeys read process status) ∧
    (∀ d, ModuleMap.empty.extend? read process (.ofPath entry) = some d →
      ∃ w result, ModuleMap.empty.Passes read process (.ofPath entry) w (some result) ∧ d = Walk.answer (w, result)) ∧
    ∀ read' : ModulePath → Except Failure String, (∀ path, path.isAbsolute = true → read' path = read path) →
      ModuleMap.empty.extend? read' process (.ofPath entry) = ModuleMap.empty.extend? read process (.ofPath entry) := by
  have hplace : (ModulePath.ofPath entry).isAbsolute = true := by
    rw [ModulePath.ofPath_of_isAbsolute hentry]
    rfl
  refine ⟨fun currentDirectory => if_pos hentry, fun w status hpasses => ?_,
    fun d => ModuleMap.passes_of_extend?, fun read' hagree => ?_⟩
  · have hfrom := hpasses.fromRoot hroot hplace
    refine ⟨fun path record hmem => ⟨?_, ?_⟩, ?_, hpasses.readsKeys⟩
    · exact ModulePath.spelledFromRoot (hfrom.keys path (List.mem_map_of_mem hmem))
    · exact fun dependency hdependency =>
        ModulePath.spelledFromRoot (hfrom.recorded path record hmem dependency hdependency)
    · exact fun path hpath => ModulePath.spelledFromRoot (hfrom.reads path hpath)
  · have hroot' : ∀ text, read' .root ≠ .ok text := by
      rw [hagree .root rfl]
      exact hroot
    refine Option.ext fun d => ⟨fun h => ?_, fun h => ?_⟩
    · exact extend?_congr_absolute hroot' hplace (fun path hpath => (hagree path hpath).symm) h
    · exact extend?_congr_absolute hroot hplace hagree h

/-! A small world: an entry that imports from above the root, by an absolute path, and its own directory. -/

namespace Climbing

def start : Path := .ofString "/app//x/.././main.js"

def main : ModulePath := .ofPath (.ofString "/app/main.js")

def lib : ModulePath := .ofPath (.ofString "/lib.js")

def other : ModulePath := .ofPath (.ofString "/src/other.js")

def app : ModulePath := .ofPath (.ofString "/app")

def store : RecordedStore :=
  ⟨[(main, .ok "entry"), (lib, .ok "lib"), (other, .ok "other")], none⟩

def processor : Processor := fun _ text =>
  ([], .ok ⟨text, if text = "entry" then ["../../../lib.js", "/src/./other.js", ""] else []⟩)

end Climbing

theorem absolute_throughout_climbing :
    ∃ final actions failure,
      ModuleMap.empty.extend? Climbing.store.read Climbing.processor (.ofPath Climbing.start) =
        some (final, actions, .error failure) ∧
      final.paths = [Climbing.main, Climbing.lib, Climbing.other] ∧
      (∀ path record, (path, record) ∈ final.discoveryOrder →
        path.SpelledFromRoot ∧ ∀ dependency ∈ record.dependencies, dependency.SpelledFromRoot) ∧
      ∃ path, Action.reads actions = final.paths ++ [path] := by
  have hroot : ∀ text, Climbing.store.read .root ≠ .ok text := by
    have hread : Climbing.store.read .root = .error (.moduleRead ModulePath.root.toPath .noSuchEntry) := by decide
    intro text
    rw [hread]
    simp
  have hrun : (ModuleMap.empty.extend? Climbing.store.read Climbing.processor (.ofPath Climbing.start)).map
      (fun d => (d.1.paths, d.2.2)) = some ([Climbing.main, Climbing.lib, Climbing.other],
        .error (.moduleRead Climbing.app.toPath .noSuchEntry)) := by cbv
  obtain ⟨⟨final, actions, result⟩, hextend, hfinal⟩ := Option.map_eq_some_iff.mp hrun
  obtain ⟨hpaths, rfl⟩ := Prod.mk.inj hfinal
  obtain ⟨-, hpoints, hends, -⟩ := absolute_throughout Climbing.store.read Climbing.processor Climbing.start hroot
    (by decide)
  obtain ⟨w, result, hpasses, hanswer⟩ := hends _ hextend
  obtain ⟨rfl, rfl, rfl⟩ := by simpa [Walk.answer] using hanswer
  obtain ⟨hspelled, -, hkeys⟩ := hpoints w _ hpasses
  obtain ⟨path, hreads, -⟩ := hkeys.failed _ rfl
  exact ⟨w.modules, w.trace.reverse, _, hextend, hpaths, hspelled, path, hreads⟩

end Bundler
