import Bundler.Proofs.Graph.Discovery
import Bundler.Proofs.Path.Location
import Mathlib

/-!
# What a walk reads

A module is read when it is opened and at no other time, and it is opened only if its path is not in the map. So the
paths that are read are those of the records that are added, in the order of discovery, and after them the path of the
module that failed, if one did. `ReadsInOrder` says this of a recursion; `reads_once_in_order` says it of a walk and
adds that no place is read twice, however it was spelled.
-/

namespace Bundler

variable {read : ModulePath → Except Failure String} {process : Processor} {path : ModulePath}
  {added later failing : List ModulePath} {modules modules' : ModuleMap}

theorem reads_openingActions (path : ModulePath) : Action.reads (openingActions read process path) = [path] := by
  unfold openingActions
  cases read path with
  | error failure => rfl
  | ok text =>
    refine congrArg (List.cons path) (?_ : Action.reads (_ ++ _) = [])
    rw [Action.reads_append, Action.reads_map_logged]
    cases (process path text).2 <;> rfl

/-! ## Paths that are new -/

/-- Some paths that are not in the map, each once. -/
structure ModuleMap.Fresh (modules : ModuleMap) (paths : List ModulePath) : Prop where
  nodup : paths.Nodup
  notMem : ∀ path ∈ paths, path ∉ modules.paths

namespace ModuleMap.Fresh

theorem nil : modules.Fresh [] :=
  ⟨List.nodup_nil, by simp⟩

theorem singleton (h : modules.contains path = false) : modules.Fresh [path] :=
  ⟨List.nodup_singleton path, by simpa using contains_eq_false_iff.mp h⟩

/-- What is new after some new paths were added is new beside them. -/
theorem append (h : modules.Fresh added) (hpaths : modules'.paths = modules.paths ++ added)
    (h' : modules'.Fresh later) : modules.Fresh (added ++ later) := by
  have hnot : ∀ path ∈ later, path ∉ modules.paths ∧ path ∉ added := by
    intro path hpath
    have hnew := h'.notMem path hpath
    rw [hpaths, List.mem_append, not_or] at hnew
    exact hnew
  refine ⟨List.nodup_append'.mpr ⟨h.nodup, h'.nodup, fun path hadded hlater => (hnot path hlater).2 hadded⟩, ?_⟩
  intro path hpath
  rcases List.mem_append.mp hpath with hadded | hlater
  · exact h.notMem path hadded
  · exact (hnot path hlater).1

end ModuleMap.Fresh

/-! ## Reading in the order of discovery -/

/-- The module at which a recursion ended, if it failed. -/
inductive FailsAt (read : ModulePath → Except Failure String) (process : Processor) :
    Except Failure Unit → List ModulePath → Prop
  | ok : FailsAt read process (.ok ()) []
  | error {path : ModulePath} {failure : Failure} (hload : load read process path = .error failure) :
      FailsAt read process (.error failure) [path]

/-- A recursion read the modules whose records it added, as it added them, and then the one that failed. -/
structure ReadsInOrder (read : ModulePath → Except Failure String) (process : Processor) (modules : ModuleMap)
    (d : Descent) (added failing : List ModulePath) : Prop where
  adds : Adds read process modules added d.1
  reads : Action.reads d.2.1 = added ++ failing
  fresh : modules.Fresh (added ++ failing)
  ends : FailsAt read process d.2.2 failing

namespace ReadsInOrder

variable {d : Descent}

/-- What is done before without reading changes nothing. -/
theorem after (h : ReadsInOrder read process modules d added failing) {actions : List Action}
    (hactions : Action.reads actions = []) :
    ReadsInOrder read process modules (d.after actions) added failing :=
  { h with reads := by rw [Descent.after, Action.reads_append, hactions, List.nil_append, h.reads] }

theorem nil : ReadsInOrder read process modules (modules, [], .ok ()) [] [] :=
  ⟨.nil, rfl, .nil, .ok⟩

theorem failed {failure : Failure} (hnew : modules.contains path = false)
    (hload : load read process path = .error failure) :
    ReadsInOrder read process modules (modules, openingActions read process path, .error failure) [] [path] :=
  ⟨.nil, reads_openingActions path, .singleton hnew, .error hload⟩

theorem entered {record : ModuleRecord} (hnew : modules.contains path = false)
    (hload : load read process path = .ok record)
    (h : ReadsInOrder read process (modules.insert path record) d added failing) :
    ReadsInOrder read process modules (d.after (openingActions read process path)) (path :: added) failing where
  adds := (Adds.insert hnew hload).trans h.adds
  reads := by
    rw [Descent.after, Action.reads_append, reads_openingActions, h.reads]
    rfl
  fresh := (ModuleMap.Fresh.singleton hnew).append (ModuleMap.paths_insert record hnew) h.fresh
  ends := h.ends

/-- After a root that succeeded the others are read. -/
theorem wentOn {actions : List Action}
    (h : ReadsInOrder read process modules (modules', actions, .ok ()) added [])
    (hothers : ReadsInOrder read process modules' d later failing) :
    ReadsInOrder read process modules (d.after actions) (added ++ later) failing where
  adds := h.adds.trans hothers.adds
  reads := by
    have hreads : Action.reads actions = added ++ [] := h.reads
    rw [Descent.after, Action.reads_append, hreads, hothers.reads, List.append_nil, List.append_assoc]
  fresh := by
    have hfresh := h.fresh
    rw [List.append_nil] at hfresh
    rw [List.append_assoc]
    exact hfresh.append h.adds.paths_eq hothers.fresh
  ends := hothers.ends

end ReadsInOrder

/-- **The recursion reads what it adds, and then what fails.** -/
theorem descend?_readsInOrder :
    (∀ path (modules : ModuleMap) d, modules.descend? read process path = some d → modules.contains path = false →
      ∃ added failing, ReadsInOrder read process modules d added failing) ∧
    ∀ paths (modules : ModuleMap) d, modules.descendAll? read process paths = some d →
      ∃ added failing, ReadsInOrder read process modules d added failing := by
  refine ModuleMap.descend?_induction ?failed ?entered ?nil ?seen ?stopped ?wentOn
  case failed => exact fun path modules failure hload hnew => ⟨_, _, .failed hnew hload⟩
  case entered =>
    intro path modules record below hload ⟨added, failing, h⟩ hnew
    exact ⟨_, _, h.entered hnew hload⟩
  case nil => exact fun modules => ⟨_, _, .nil⟩
  case seen =>
    intro path rest modules others _ ⟨added, failing, h⟩
    exact ⟨added, failing, h.after rfl⟩
  case stopped => exact fun path rest modules below actions failure hnew ih => ih hnew
  case wentOn =>
    intro path rest modules below actions others hnew ih ⟨later, failing, hothers⟩
    obtain ⟨added, failed, h⟩ := ih hnew
    cases h.ends
    exact ⟨_, _, h.wentOn hothers⟩

theorem readsInOrder_of_extend? {entry : ModulePath} {d : Descent}
    (h : modules.extend? read process entry = some d) :
    ∃ added failing, ReadsInOrder read process modules d added failing := by
  rcases ModuleMap.descend?_of_extend? h with ⟨-, rfl⟩ | ⟨hnew, hdescend⟩
  · exact ⟨_, _, .nil⟩
  · exact descend?_readsInOrder.1 entry modules d hdescend hnew

/-- A walk that succeeds has found a text wherever it looked for one. -/
theorem exists_text_of_mem_reads {entry : ModulePath} {final : ModuleMap} {actions : List Action}
    (h : modules.extend? read process entry = some (final, actions, .ok ())) (hpath : path ∈ Action.reads actions) :
    ∃ text, read path = .ok text := by
  obtain ⟨added, failing, hadds, hreads, -, hends⟩ := readsInOrder_of_extend? h
  cases hends
  change Action.reads actions = _ at hreads
  rw [hreads, List.append_nil] at hpath
  obtain ⟨record, hload⟩ := hadds.load_ok hpath
  obtain ⟨text, -, hread, -⟩ := load_eq_ok_iff.mp hload
  exact ⟨text, hread⟩

/-! ## No place is read twice -/

namespace ModulePath

/-- Different module paths name different locations from some directory, and so do their spellings. -/
theorem exists_location_ne {m n : ModulePath} (h : m ≠ n) :
    ∃ directory, m.toPath.location directory ≠ n.toPath.location directory := by
  by_contra hsame
  refine h (eq_of_location_eq fun directory => ?_)
  rw [← ofPath_toPath m, ← ofPath_toPath n, location_ofPath, location_ofPath]
  exact not_exists_not.mp hsame directory

end ModulePath

/--
**Every module is read exactly once, in the order of discovery.**

A walk that ends has added records to the map and changed nothing else in it. If it succeeded, it has read exactly the
paths of these records, in the order in which they were added; if it failed, it has read these and then one more path,
whose text could not be read or not be processed, which is the failure. No path is read twice, none is read that was in
the map before, and no two of the paths as they are spelled name the same location from every directory.
-/
theorem reads_once_in_order (read : ModulePath → Except Failure String) (process : Processor) (entry : ModulePath)
    (modules : ModuleMap) :
    ∀ final actions result, modules.extend? read process entry = some (final, actions, result) →
      (∃ records : List (ModulePath × ModuleRecord),
        final.discoveryOrder = modules.discoveryOrder ++ records ∧
        (result = .ok () → Action.reads actions = records.map Prod.fst) ∧
        ∀ failure, result = .error failure →
          ∃ path, Action.reads actions = records.map Prod.fst ++ [path] ∧
            load read process path = .error failure) ∧
      (Action.reads actions).Nodup ∧
      (∀ path ∈ Action.reads actions, path ∉ modules.paths) ∧
      (Action.reads actions).Pairwise fun p q =>
        ∃ directory, p.toPath.location directory ≠ q.toPath.location directory := by
  intro final actions result h
  obtain ⟨added, failing, hadds, hreads, hfresh, hends⟩ := readsInOrder_of_extend? h
  obtain ⟨records, hfinal, rfl, -⟩ := hadds
  change Action.reads actions = _ at hreads
  rw [← hreads] at hfresh
  refine ⟨⟨records, hfinal, ?_, ?_⟩, hfresh.nodup, hfresh.notMem, hfresh.nodup.imp ModulePath.exists_location_ne⟩
  · rintro rfl
    cases hends
    rw [hreads, List.append_nil]
  · rintro failure rfl
    cases hends with
    | error hload => exact ⟨_, hreads, hload⟩

/-! A small world: a module is imported under three spellings by two modules, and then one that is not there. -/

namespace Respelled

def main : ModulePath := .ofPath (.ofString "/app/main.js")

def lib : ModulePath := .ofPath (.ofString "/app/lib.js")

def deep : ModulePath := .ofPath (.ofString "/app/sub/deep.js")

def gone : ModulePath := .ofPath (.ofString "/gone.js")

def store : RecordedStore :=
  ⟨[(main, .ok "entry"), (lib, .ok "end"), (deep, .ok "below")], none⟩

/-- Reads off the text of a module what it imports. -/
def processor : Processor := fun _ text =>
  ([], .ok ⟨text,
    if text = "entry" then ["./lib.js", "sub//./deep.js", "/app/x/../lib.js", "../../../gone.js"]
    else if text = "below" then [".././lib.js"]
    else []⟩)

end Respelled

theorem reads_once_in_order_respelled :
    ∃ final actions failure,
      ModuleMap.empty.extend? Respelled.store.read Respelled.processor Respelled.main =
        some (final, actions, .error failure) ∧
      Action.reads actions = [Respelled.main, Respelled.lib, Respelled.deep] ++ [Respelled.gone] ∧
      (∃ path, Action.reads actions = final.paths ++ [path] ∧
        load Respelled.store.read Respelled.processor path = .error failure) ∧
      (Action.reads actions).Pairwise fun p q =>
        ∃ directory, p.toPath.location directory ≠ q.toPath.location directory := by
  have hrun : (ModuleMap.empty.extend? Respelled.store.read Respelled.processor Respelled.main).map
      (fun d => (Action.reads d.2.1, d.2.2)) =
        some ([Respelled.main, Respelled.lib, Respelled.deep, Respelled.gone],
          .error (.moduleRead Respelled.gone.toPath .noSuchEntry)) := by
    cbv
  obtain ⟨⟨final, actions, result⟩, hextend, hfinal⟩ := Option.map_eq_some_iff.mp hrun
  obtain ⟨hreads, rfl⟩ := Prod.mk.inj hfinal
  obtain ⟨⟨records, horder, -, hfailed⟩, -, -, hplaces⟩ :=
    reads_once_in_order Respelled.store.read Respelled.processor Respelled.main .empty _ _ _ hextend
  obtain ⟨path, hpath, hload⟩ := hfailed _ rfl
  refine ⟨final, actions, _, hextend, hreads, ⟨path, ?_, hload⟩, hplaces⟩
  rw [hpath, ModuleMap.paths, horder]
  rfl

end Bundler
