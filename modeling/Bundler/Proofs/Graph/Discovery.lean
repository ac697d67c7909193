import Bundler.Proofs.Graph.Descent
import Bundler.Proofs.Graph.Preorder
import Bundler.Store.Recorded
import Mathlib

/-!
# What a walk discovers

A walk takes the modules in depth-first pre-order, adds the record of each, and stops at the first that has none.
`Adds` says that records were added in some order and nothing else was touched, `FollowsPreorder` that a recursion did
this along the pre-order as far as it came. The main results follow:

* `extend?_exact` — a walk that succeeds adds exactly the modules that are reached outside the map it began with
* `extend_fails_at_first` — a walk fails exactly if a module reached has no record; it fails at the first such module
  in pre-order, with the records of all modules before it
-/

namespace Bundler

variable {read : ModulePath → Except Failure String} {process : Processor} {path : ModulePath}
  {roots order first later : List ModulePath} {modules modules' modules'' : ModuleMap}

/-! ## Adding records -/

/-- One map is the other followed by the records of the listed paths, in this order. -/
def Adds (read : ModulePath → Except Failure String) (process : Processor) (modules : ModuleMap)
    (order : List ModulePath) (modules' : ModuleMap) : Prop :=
  ∃ added : List (ModulePath × ModuleRecord),
    modules'.discoveryOrder = modules.discoveryOrder ++ added ∧ added.map Prod.fst = order ∧
      ∀ entry ∈ added, load read process entry.1 = .ok entry.2

namespace Adds

theorem nil : Adds read process modules [] modules :=
  ⟨[], by rw [List.append_nil], rfl, by simp⟩

theorem insert {record : ModuleRecord} (hnew : modules.contains path = false)
    (hload : load read process path = .ok record) :
    Adds read process modules [path] (modules.insert path record) := by
  refine ⟨[(path, record)], ModuleMap.discoveryOrder_insert record hnew, rfl, ?_⟩
  intro entry hentry
  rw [List.mem_singleton] at hentry
  rw [hentry]
  exact hload

theorem trans (h : Adds read process modules first modules') (h' : Adds read process modules' later modules'') :
    Adds read process modules (first ++ later) modules'' := by
  obtain ⟨added, horder, hpaths, hload⟩ := h
  obtain ⟨added', horder', hpaths', hload'⟩ := h'
  refine ⟨added ++ added', by rw [horder', horder, List.append_assoc], ?_, ?_⟩
  · rw [List.map_append, hpaths, hpaths']
  · intro entry hentry
    rcases List.mem_append.mp hentry with hentry | hentry
    · exact hload entry hentry
    · exact hload' entry hentry

theorem paths_eq (h : Adds read process modules order modules') : modules'.paths = modules.paths ++ order := by
  obtain ⟨added, horder, rfl, -⟩ := h
  rw [ModuleMap.paths, horder, List.map_append]
  rfl

/-- Whatever was added has a record. -/
theorem load_ok (h : Adds read process modules order modules') (hmem : path ∈ order) :
    ∃ record, load read process path = .ok record := by
  obtain ⟨added, -, rfl, hload⟩ := h
  obtain ⟨entry, hentry, rfl⟩ := List.mem_map.mp hmem
  exact ⟨entry.2, hload entry hentry⟩

end Adds

/-! ## Following the pre-order -/

/-- A recursion took the paths in pre-order: all of them if it succeeded, and else those before the first one without a
record. -/
inductive FollowsPreorder (read : ModulePath → Except Failure String) (process : Processor) (modules : ModuleMap)
    (roots : List ModulePath) : Descent → Prop
  | ok {order : List ModulePath} {modules' : ModuleMap} {actions : List Action}
      (horder : DepthFirst (importsOf read process) modules.paths roots order)
      (hadds : Adds read process modules order modules') :
      FollowsPreorder read process modules roots (modules', actions, .ok ())
  | error (before : List ModulePath) {path : ModulePath} {modules' : ModuleMap} {actions : List Action}
      {failure : Failure}
      (hbefore : ∀ order, DepthFirst (importsOf read process) modules.paths roots order →
        ∃ after, order = before ++ path :: after)
      (hload : load read process path = .error failure) (hadds : Adds read process modules before modules') :
      FollowsPreorder read process modules roots (modules', actions, .error failure)

namespace FollowsPreorder

variable {d : Descent}

theorem after (h : FollowsPreorder read process modules roots d) (actions : List Action) :
    FollowsPreorder read process modules roots (d.after actions) := by
  cases h with
  | ok horder hadds => exact .ok horder hadds
  | error before hbefore hload hadds => exact .error before hbefore hload hadds

theorem nil : FollowsPreorder read process modules [] (modules, [], .ok ()) :=
  .ok .nil .nil

/-- A path in the map adds nothing to the pre-order. -/
theorem seen (hseen : modules.contains path = true) (h : FollowsPreorder read process modules roots d) :
    FollowsPreorder read process modules (path :: roots) d := by
  have hmem : path ∈ modules.paths := ModuleMap.contains_iff_mem_paths.mp hseen
  cases h with
  | ok horder hadds => exact .ok (.seen hmem horder) hadds
  | error before hbefore hload hadds =>
    refine .error before (fun order horder => ?_) hload hadds
    cases horder with
    | seen _ hrest => exact hbefore order hrest
    | found hnew => exact absurd hmem hnew

theorem failed {failure : Failure} {actions : List Action} (hnew : modules.contains path = false)
    (hload : load read process path = .error failure) :
    FollowsPreorder read process modules [path] (modules, actions, .error failure) := by
  refine .error [] (fun order horder => ?_) hload .nil
  obtain ⟨below, rfl, -⟩ := (DepthFirst.singleton_iff (ModuleMap.contains_eq_false_iff.mp hnew)).mp horder
  exact ⟨below, rfl⟩

/-- Once a module is recorded, the pre-order from it goes on with the pre-order from what it imports. -/
theorem entered {record : ModuleRecord} (hnew : modules.contains path = false)
    (hload : load read process path = .ok record)
    (h : FollowsPreorder read process (modules.insert path record) record.dependencies d) :
    FollowsPreorder read process modules [path] d := by
  have hmem : path ∉ modules.paths := ModuleMap.contains_eq_false_iff.mp hnew
  have hinsert := Adds.insert hnew hload
  have hpaths := hinsert.paths_eq
  have himports := importsOf_of_load_ok hload
  cases h with
  | ok horder hadds =>
    rw [hpaths, ← himports] at horder
    exact .ok ((DepthFirst.singleton_iff hmem).mpr ⟨_, rfl, horder⟩) (hinsert.trans hadds)
  | @error before failing _ _ _ hbefore hfail hadds =>
    refine .error (path :: before) (fun order horder => ?_) hfail (hinsert.trans hadds)
    obtain ⟨below, rfl, hbelow⟩ := (DepthFirst.singleton_iff hmem).mp horder
    rw [himports, ← hpaths] at hbelow
    obtain ⟨after, rfl⟩ := hbefore below hbelow
    exact ⟨after, rfl⟩

theorem stopped {actions : List Action} {failure : Failure}
    (h : FollowsPreorder read process modules [path] (modules', actions, .error failure)) :
    FollowsPreorder read process modules (path :: roots) (modules', actions, .error failure) := by
  cases h with
  | error before hbefore hload hadds =>
    refine .error before (fun order horder => ?_) hload hadds
    obtain ⟨first, later, rfl, hfirst, -⟩ := DepthFirst.cons_iff.mp horder
    obtain ⟨after, rfl⟩ := hbefore first hfirst
    exact ⟨after ++ later, by simp⟩

/-- What the other roots add is the pre-order from them once everything below the first one is seen. -/
theorem wentOn {actions : List Action}
    (h : FollowsPreorder read process modules [path] (modules', actions, .ok ()))
    (hothers : FollowsPreorder read process modules' roots d) :
    FollowsPreorder read process modules (path :: roots) d := by
  cases h with
  | @ok first _ _ hfirst hadds =>
    have hpaths := hadds.paths_eq
    cases hothers with
    | ok hlater hadds' =>
      rw [hpaths] at hlater
      exact .ok (DepthFirst.cons_iff.mpr ⟨first, _, rfl, hfirst, hlater⟩) (hadds.trans hadds')
    | error before hbefore hload hadds' =>
      refine .error (first ++ before) (fun order horder => ?_) hload (hadds.trans hadds')
      obtain ⟨first', later, rfl, hfirst', hlater⟩ := DepthFirst.cons_iff.mp horder
      obtain rfl := hfirst.unique hfirst'
      rw [← hpaths] at hlater
      obtain ⟨after, rfl⟩ := hbefore later hlater
      exact ⟨after, by rw [List.append_assoc]⟩

end FollowsPreorder

/-- **The recursion follows the depth-first pre-order.** -/
theorem descend?_followsPreorder :
    (∀ path (modules : ModuleMap) d, modules.descend? read process path = some d → modules.contains path = false →
      FollowsPreorder read process modules [path] d) ∧
    ∀ paths (modules : ModuleMap) d, modules.descendAll? read process paths = some d →
      FollowsPreorder read process modules paths d := by
  refine ModuleMap.descend?_induction ?failed ?entered ?nil ?seen ?stopped ?wentOn
  case failed => exact fun path modules failure hload hnew => .failed hnew hload
  case entered => exact fun path modules record below hload ih hnew => (ih.entered hnew hload).after _
  case nil => exact fun modules => .nil
  case seen => exact fun path rest modules others hseen ih => (ih.seen hseen).after _
  case stopped => exact fun path rest modules below actions failure hnew ih => (ih hnew).stopped
  case wentOn =>
    exact fun path rest modules below actions others hnew ih ihothers => ((ih hnew).wentOn ihothers).after _

theorem followsPreorder_of_extend? {entry : ModulePath} {d : Descent}
    (h : modules.extend? read process entry = some d) : FollowsPreorder read process modules [entry] d := by
  rcases ModuleMap.descend?_of_extend? h with ⟨hseen, rfl⟩ | ⟨hnew, hdescend⟩
  · exact FollowsPreorder.nil.seen hseen
  · exact descend?_followsPreorder.1 entry modules d hdescend hnew

/-! ## Success -/

/-- The imports of what was added are in the map afterwards. -/
theorem Adds.closed (hadds : Adds read process modules order modules')
    (horder : DepthFirst (importsOf read process) modules.paths roots order) {record : ModuleRecord}
    (hmem : path ∈ order) (hload : load read process path = .ok record) :
    ∀ dependency ∈ record.dependencies, dependency ∈ modules'.paths := by
  intro dependency hdependency
  rw [← importsOf_of_load_ok hload] at hdependency
  rw [hadds.paths_eq, List.mem_append]
  exact horder.closed path hmem dependency hdependency

/--
**A walk that succeeds adds exactly what is reached.**

The map stays as it was and is followed by the modules that import chains outside it lead to from the entry, each once.
What is recorded of a module depends on its path alone. If the entry is in the map already, nothing is done. If the map
was empty, its paths are all that is reached in the end, and no import of a recorded module is missing.
-/
theorem extend?_exact (read : ModulePath → Except Failure String) (process : Processor) (entry : ModulePath)
    (modules : ModuleMap) :
    (modules.contains entry = true → modules.extend? read process entry = some (modules, [], .ok ())) ∧
    ∀ final actions, modules.extend? read process entry = some (final, actions, .ok ()) →
      (∃ added : List (ModulePath × ModuleRecord),
        final.discoveryOrder = modules.discoveryOrder ++ added ∧
        (added.map Prod.fst).Nodup ∧
        (∀ path, path ∈ added.map Prod.fst ↔
          ReachedOutside (importsOf read process) modules.paths entry path) ∧
        ∀ path record, (path, record) ∈ added →
          ∃ text processed, read path = .ok text ∧ (process path text).2 = .ok processed ∧
            record.code = processed.code ∧ record.dependencies = processed.specifiers.map path.resolve) ∧
      (modules = .empty →
        (∀ path, path ∈ final.paths ↔ ReachedOutside (importsOf read process) [] entry path) ∧
        ∀ path record, (path, record) ∈ final.discoveryOrder →
          ∀ dependency ∈ record.dependencies, dependency ∈ final.paths) := by
  refine ⟨fun hseen => ?_, fun final actions h => ?_⟩
  · rw [ModuleMap.extend?, Walk.from?, if_pos hseen]
    rfl
  · cases followsPreorder_of_extend? h with
    | ok horder hadds =>
      refine ⟨?_, ?_⟩
      · obtain ⟨added, hfinal, rfl, hload⟩ := hadds
        refine ⟨added, hfinal, horder.nodup, fun path => horder.mem_iff, ?_⟩
        exact fun path record hmem => load_eq_ok_iff.mp (hload _ hmem)
      · rintro rfl
        refine ⟨fun path => ?_, fun path record hmem => ?_⟩
        · rw [hadds.paths_eq]
          exact horder.mem_iff
        · obtain ⟨added, hfinal, hpaths, hload⟩ := hadds
          rw [hfinal] at hmem
          exact Adds.closed ⟨added, hfinal, hpaths, hload⟩ horder
            (hpaths ▸ List.mem_map_of_mem hmem) (hload _ hmem)

/-! A small world: two modules that import each other, and both of them a third one. -/

namespace Ring

def main : ModulePath := .ofPath (.ofString "/main.js")

def lib : ModulePath := .ofPath (.ofString "/lib.js")

def known : ModulePath := .ofPath (.ofString "/known.js")

/-- The text of a module is the specifier of the other one. -/
def store : RecordedStore :=
  ⟨[(main, .ok "./lib.js"), (lib, .ok "./main.js")], none⟩

def processor : Processor := fun _ text =>
  ([], .ok ⟨text, [text, "./known.js"]⟩)

/-- The third module is there before the walk begins. -/
def before : ModuleMap :=
  ModuleMap.empty.insert known ⟨"", []⟩

end Ring

theorem extend?_exact_ring :
    ∃ final actions, Ring.before.extend? Ring.store.read Ring.processor Ring.main = some (final, actions, .ok ()) ∧
      final.paths = [Ring.known, Ring.main, Ring.lib] ∧
      ∃ added : List (ModulePath × ModuleRecord),
        final.discoveryOrder = Ring.before.discoveryOrder ++ added ∧ (added.map Prod.fst).Nodup ∧
        ∀ path, path ∈ added.map Prod.fst ↔
          ReachedOutside (importsOf Ring.store.read Ring.processor) Ring.before.paths Ring.main path := by
  have hrun : (Ring.before.extend? Ring.store.read Ring.processor Ring.main).map (fun d => (d.1.paths, d.2.2)) =
      some ([Ring.known, Ring.main, Ring.lib], .ok ()) := by cbv
  obtain ⟨⟨final, actions, result⟩, hextend, hfinal⟩ := Option.map_eq_some_iff.mp hrun
  obtain ⟨hpaths, rfl⟩ := Prod.mk.inj hfinal
  obtain ⟨⟨added, horder, hnodup, hreached, -⟩, -⟩ :=
    (extend?_exact Ring.store.read Ring.processor Ring.main Ring.before).2 final actions hextend
  exact ⟨final, actions, hextend, hpaths, added, horder, hnodup, hreached⟩

/-! ## Failure -/

/--
**A walk fails at the first module in pre-order that has no record.**

There is one depth-first pre-order from the entry outside the map. The walk fails exactly if some module that is reached
cannot be read or processed. Then it fails the way the first such module of the pre-order does, and it leaves the map as
it was, followed by the records of exactly the modules before that one.
-/
theorem extend_fails_at_first (sources : Sources) (process : Processor) (entry : ModulePath)
    (modules : ModuleMap) :
    ∃ order,
      (∀ other, DepthFirst (importsOf sources.read process) modules.paths [entry] other ↔ other = order) ∧
      ((∃ failure, (modules.extend sources process entry).2.2 = .error failure) ↔
        ∃ path, ReachedOutside (importsOf sources.read process) modules.paths entry path ∧
          ∃ failure, load sources.read process path = .error failure) ∧
      ∀ failure, (modules.extend sources process entry).2.2 = .error failure →
        ∃ before path after, order = before ++ path :: after ∧
          (∀ earlier ∈ before, ∃ record, load sources.read process earlier = .ok record) ∧
          load sources.read process path = .error failure ∧
          ∃ added : List (ModulePath × ModuleRecord),
            (modules.extend sources process entry).1.discoveryOrder = modules.discoveryOrder ++ added ∧
            added.map Prod.fst = before ∧
            ∀ path record, (path, record) ∈ added → load sources.read process path = .ok record := by
  obtain ⟨order, horder⟩ := exists_depthFirst (fun _ h => mem_candidates_of_imports h)
    modules.paths [entry]
  refine ⟨order, fun other => ⟨fun h => h.unique horder, fun h => h ▸ horder⟩, ?_⟩
  have hfollows := followsPreorder_of_extend? (modules.extend?_eq_some sources process entry)
  generalize modules.extend sources process entry = d at hfollows
  cases hfollows with
  | ok horder' hadds =>
    obtain rfl := horder.unique horder'
    refine ⟨⟨by simp, ?_⟩, by simp⟩
    rintro ⟨path, hreached, failure, hload⟩
    obtain ⟨record, hrecord⟩ := hadds.load_ok (horder.mem_iff.mpr hreached)
    simp [hload] at hrecord
  | @error before path final actions failure hbefore hload hadds =>
    obtain ⟨after, rfl⟩ := hbefore order horder
    refine ⟨⟨fun _ => ?_, fun _ => ⟨failure, rfl⟩⟩, ?_⟩
    · exact ⟨path, horder.mem_iff.mp (by simp), failure, hload⟩
    · intro other hother
      obtain rfl := Except.error.inj hother
      refine ⟨before, path, after, rfl, fun earlier hmem => hadds.load_ok hmem, hload, ?_⟩
      obtain ⟨added, hfinal, hpaths, hloads⟩ := hadds
      exact ⟨added, hfinal, hpaths, fun path record hmem => hloads _ hmem⟩

end Bundler
