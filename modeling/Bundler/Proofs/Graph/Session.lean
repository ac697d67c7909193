import Bundler.Proofs.Graph.Imports

/-!
# Several walks on one map

A map can be extended again and again, from the same entry or another one, while the files change in between. A walk
passes over every path that is in the map, so it never comes back to a module that an earlier walk has left halfway: it was
recorded before its imports were followed, and it stays recorded when one of them fails.

* `completeFrom_iff_of_session` — which imports are missing after a walk that succeeds: those that walks which failed have
  left missing, as far as they are not found by now; and that a failed walk, repeated, succeeds without finding them
* `repeated_walk_incomplete` — an entry whose import is repaired between two walks, and still missing after the second

What a single walk leaves, successful or not, is said by `Grows`.
-/

namespace Bundler

namespace ModuleMap

/-- A recorded import that is not in the map. -/
def Misses (modules : ModuleMap) (importer imported : ModulePath) : Prop :=
  modules.Imports importer imported ∧ imported ∉ modules.paths

/-- Every import of every module that records lead to from the entry is in the map. -/
def CompleteFrom (modules : ModuleMap) (entry : ModulePath) : Prop :=
  ∀ importer imported, modules.Chain entry importer → modules.Imports importer imported → imported ∈ modules.paths

end ModuleMap

variable {read : ModulePath → Except Failure String} {process : Processor}
  {path entry importer imported : ModulePath} {roots : List ModulePath} {modules modules' : ModuleMap}

/-! ## One walk -/

/-- What a recursion from some roots makes of a map. -/
structure Grows (read : ModulePath → Except Failure String) (process : Processor) (modules : ModuleMap)
    (roots : List ModulePath) (d : Descent) : Prop where
  adds : ∃ order, Adds read process modules order d.1
  nodup : modules.paths.Nodup → d.1.paths.Nodup
  /-- After a failure, recorded imports lead to a path that has no record. -/
  broken : ∀ failure, d.2.2 = .error failure → ∃ root ∈ roots, ∃ absent, d.1.Chain root absent ∧ absent ∉ d.1.paths

namespace Grows

variable {d : Descent}

theorem after (h : Grows read process modules roots d) (actions : List Action) :
    Grows read process modules roots (d.after actions) :=
  ⟨h.adds, h.nodup, h.broken⟩

theorem nil (actions : List Action) : Grows read process modules [] (modules, actions, .ok ()) where
  adds := ⟨[], .nil⟩
  nodup := id
  broken := by simp

theorem failed {failure : Failure} {actions : List Action} (hnew : modules.contains path = false) :
    Grows read process modules [path] (modules, actions, .error failure) where
  adds := ⟨[], .nil⟩
  nodup := id
  broken := fun _ _ => ⟨path, List.mem_singleton.mpr rfl, path, .refl, ModuleMap.contains_eq_false_iff.mp hnew⟩

/-- With more roots. -/
theorem mono (h : Grows read process modules roots d) {roots' : List ModulePath} (hsub : roots ⊆ roots') :
    Grows read process modules roots' d where
  adds := h.adds
  nodup := h.nodup
  broken := fun failure hfailed => by
    obtain ⟨root, hroot, hbroken⟩ := h.broken failure hfailed
    exact ⟨root, hsub hroot, hbroken⟩

theorem entered {record : ModuleRecord} (hnew : modules.contains path = false)
    (hload : load read process path = .ok record)
    (h : Grows read process (modules.insert path record) record.dependencies d) :
    Grows read process modules [path] d where
  adds := by
    obtain ⟨order, hadds⟩ := h.adds
    exact ⟨[path] ++ order, (Adds.insert hnew hload).trans hadds⟩
  nodup := fun hnodup => by
    refine h.nodup ?_
    rw [ModuleMap.paths_insert record hnew, ← List.concat_eq_append]
    exact hnodup.concat (ModuleMap.contains_eq_false_iff.mp hnew)
  broken := fun failure hfailed => by
    obtain ⟨root, hroot, absent, hchain, habsent⟩ := h.broken failure hfailed
    obtain ⟨order, hadds⟩ := h.adds
    have hfirst : (modules.insert path record).Imports path root :=
      ⟨record, by rw [ModuleMap.discoveryOrder_insert record hnew]; simp, hroot⟩
    exact ⟨path, List.mem_singleton.mpr rfl, absent, .head (hadds.imports_mono hfirst) hchain, habsent⟩

theorem wentOn {actions : List Action} (h : Grows read process modules [path] (modules', actions, .ok ()))
    (hothers : Grows read process modules' roots d) : Grows read process modules (path :: roots) d where
  adds := by
    obtain ⟨first, hfirst⟩ := h.adds
    obtain ⟨later, hlater⟩ := hothers.adds
    exact ⟨first ++ later, hfirst.trans hlater⟩
  nodup := fun hnodup => hothers.nodup (h.nodup hnodup)
  broken := (hothers.mono (List.subset_cons_self _ _)).broken

end Grows

theorem descend?_grows :
    (∀ path (modules : ModuleMap) d, modules.descend? read process path = some d → modules.contains path = false →
      Grows read process modules [path] d) ∧
    ∀ paths (modules : ModuleMap) d, modules.descendAll? read process paths = some d →
      Grows read process modules paths d := by
  refine ModuleMap.descend?_induction ?failed ?entered ?nil ?seen ?stopped ?wentOn
  case failed => exact fun path modules failure _ hnew => .failed hnew
  case entered => exact fun path modules record below hload ih hnew => (ih.entered hnew hload).after _
  case nil => exact fun modules => .nil _
  case seen => exact fun path rest modules others _ ih => (ih.mono (List.subset_cons_self _ _)).after _
  case stopped => exact fun path rest modules below actions failure hnew ih => (ih hnew).mono (by simp)
  case wentOn =>
    exact fun path rest modules below actions others hnew ih ihothers => ((ih hnew).wentOn ihothers).after _

theorem grows_of_extend? {d : Descent} (h : modules.extend? read process entry = some d) :
    Grows read process modules [entry] d := by
  rcases ModuleMap.descend?_of_extend? h with ⟨-, rfl⟩ | ⟨hnew, hdescend⟩
  · exact (Grows.nil _).mono (List.nil_subset _)
  · exact descend?_grows.1 entry modules d hdescend hnew

/-- What is missing after records were added was missing before, or an added module imports it. -/
theorem Adds.misses {order : List ModulePath} (h : Adds read process modules order modules')
    (hmisses : modules'.Misses importer imported) :
    modules.Misses importer imported ∨ importer ∈ order ∧ imported ∈ importsOf read process importer := by
  obtain ⟨himports, habsent⟩ := hmisses
  refine (h.imports_iff.mp himports).imp_left fun hold => ⟨hold, fun hbefore => habsent ?_⟩
  rw [h.paths_eq]
  exact List.mem_append_left _ hbefore

/-- What is missing after a walk was missing before, or the walk failed and has added the importer. -/
theorem misses_of_extend? {actions : List Action} {result : Except Failure Unit}
    (hnodup : modules.paths.Nodup)
    (h : modules.extend? read process entry = some (modules', actions, result))
    (hmisses : modules'.Misses importer imported) :
    modules.Misses importer imported ∨ (∃ failure, result = .error failure) ∧ importer ∉ modules.paths := by
  have hnodup' := (grows_of_extend? h).nodup hnodup
  cases followsPreorder_of_extend? h with
  | ok horder hadds =>
    refine (hadds.misses hmisses).imp_right ?_
    rintro ⟨hmem, himported⟩
    exact absurd (hadds.imported_mem horder hmem himported) hmisses.2
  | @error before _ _ _ failure _ _ hadds =>
    refine (hadds.misses hmisses).imp_right ?_
    rintro ⟨hmem, -⟩
    have hdistinct : (modules.paths ++ before).Nodup := hadds.paths_eq ▸ hnodup'
    exact ⟨⟨failure, rfl⟩, fun hbefore => List.disjoint_of_nodup_append hdistinct hbefore hmem⟩

/-- After a walk that has failed behind its entry, some import that records lead to from the entry is missing. -/
theorem not_completeFrom_of_failed {actions : List Action} {failure : Failure}
    (h : modules.extend? read process entry = some (modules', actions, .error failure))
    (hentry : modules'.contains entry = true) : ¬modules'.CompleteFrom entry := by
  intro hcomplete
  obtain ⟨root, hroot, absent, hchain, habsent⟩ := (grows_of_extend? h).broken failure rfl
  obtain rfl : root = entry := List.mem_singleton.mp hroot
  rcases hchain.cases_tail with rfl | ⟨importer, hchain, himports⟩
  · exact habsent (ModuleMap.contains_iff_mem_paths.mp hentry)
  · exact habsent (hcomplete importer absent hchain himports)

/-! ## Several walks -/

/-- One walk of several: the files as they are at its time, the processor, and the entry. -/
structure Request where
  read : ModulePath → Except Failure String
  process : Processor
  entry : ModulePath

/-- The map after several walks, one after the other, whether they succeed or fail; none if one of them never ends. -/
def ModuleMap.extendAll? : List Request → ModuleMap → Option ModuleMap
  | [], modules => some modules
  | request :: later, modules =>
    (modules.extend? request.read request.process request.entry).bind fun d => extendAll? later d.1

/-- A walk that failed has added a module and left an import of it missing. -/
structure LeavesMissing (modules : ModuleMap) (request : Request) (importer imported : ModulePath) : Prop where
  failed : ∃ after actions failure,
    modules.extend? request.read request.process request.entry = some (after, actions, .error failure) ∧
      after.Misses importer imported
  added : importer ∉ modules.paths

/-- What is missing in the end was missing in the beginning or was left by a walk that failed. -/
theorem misses_of_extendAll? {requests : List Request} (hnodup : modules.paths.Nodup)
    (h : modules.extendAll? requests = some modules') (hmisses : modules'.Misses importer imported) :
    modules.Misses importer imported ∨ ∃ earlier request later between, requests = earlier ++ request :: later ∧
      modules.extendAll? earlier = some between ∧ LeavesMissing between request importer imported := by
  induction requests generalizing modules with
  | nil =>
    obtain rfl := Option.some.inj h
    exact Or.inl hmisses
  | cons first requests ih =>
    obtain ⟨⟨next, actions, result⟩, hfirst, hrest⟩ := Option.bind_eq_some_iff.mp h
    rcases ih ((grows_of_extend? hfirst).nodup hnodup) hrest with hnext | hlater
    · refine (misses_of_extend? hnodup hfirst hnext).imp_right ?_
      rintro ⟨⟨failure, rfl⟩, hadded⟩
      exact ⟨[], first, requests, modules, rfl, rfl, ⟨next, actions, failure, hfirst, hnext⟩, hadded⟩
    · obtain ⟨earlier, request, later, between, rfl, hearlier, hleaves⟩ := hlater
      refine Or.inr ⟨first :: earlier, request, later, between, rfl, ?_, hleaves⟩
      rw [ModuleMap.extendAll?, hfirst]
      exact hearlier

theorem nodup_of_extendAll? {requests : List Request} (hnodup : modules.paths.Nodup)
    (h : modules.extendAll? requests = some modules') : modules'.paths.Nodup := by
  induction requests generalizing modules with
  | nil =>
    obtain rfl := Option.some.inj h
    exact hnodup
  | cons first requests ih =>
    obtain ⟨d, hfirst, hrest⟩ := Option.bind_eq_some_iff.mp h
    exact ih ((grows_of_extend? hfirst).nodup hnodup) hrest

/--
**What is missing after several walks on one map.**

After any walks from an empty map, successful or not, let a further walk succeed. Then all imports that records lead to
from its entry are in the map, exactly if those among them are that were missing before. What is missing at any time is
an import of a module that was added by a walk which failed; so nothing is ever missing if no walk has failed. But a
walk that fails after it has added its entry will be of no use a second time: whatever the files are then, it succeeds at
once, reads nothing, and leaves some import missing to which records lead from the entry.
-/
theorem completeFrom_iff_of_session {requests : List Request} {before : ModuleMap}
    (hbefore : ModuleMap.empty.extendAll? requests = some before) :
    (∀ read process entry after actions,
      before.extend? read process entry = some (after, actions, .ok ()) →
      (after.CompleteFrom entry ↔ ∀ importer imported, after.Chain entry importer →
        before.Misses importer imported → imported ∈ after.paths)) ∧
    (∀ importer imported, before.Misses importer imported →
      ∃ earlier request later between, requests = earlier ++ request :: later ∧
        ModuleMap.empty.extendAll? earlier = some between ∧ LeavesMissing between request importer imported) ∧
    ∀ read process entry after actions failure,
      before.extend? read process entry = some (after, actions, .error failure) → after.contains entry = true →
      ∀ read' process', after.extend? read' process' entry = some (after, [], .ok ()) ∧ ¬after.CompleteFrom entry := by
  have hempty : ModuleMap.empty.paths.Nodup := List.nodup_nil
  have hnodup := nodup_of_extendAll? hempty hbefore
  refine ⟨fun read process entry after actions h => ⟨?_, ?_⟩, ?_, ?_⟩
  · intro hcomplete importer imported hchain hmisses
    obtain ⟨order, hadds⟩ := (grows_of_extend? h).adds
    exact hcomplete importer imported hchain (hadds.imports_mono hmisses.1)
  · intro hfound importer imported hchain himports
    by_contra habsent
    rcases misses_of_extend? hnodup h ⟨himports, habsent⟩ with hmisses | ⟨⟨failure, hfailed⟩, -⟩
    · exact habsent (hfound importer imported hchain hmisses)
    · simp at hfailed
  · intro importer imported hmisses
    rcases misses_of_extendAll? hempty hbefore hmisses with ⟨⟨record, hmem, -⟩, -⟩ | hleft
    · simp [ModuleMap.empty, ModuleMap.discoveryOrder] at hmem
    · exact hleft
  · intro read process entry after actions failure h hentry read' process'
    exact ⟨ModuleMap.extend?_of_contains hentry, not_completeFrom_of_failed h hentry⟩

/-! A small world: the entry imports a module that is missing at first and is there later. -/

namespace Repair

def main : ModulePath := .ofPath (.ofString "/main.js")

def lib : ModulePath := .ofPath (.ofString "/lib.js")

def broken : RecordedStore :=
  ⟨[(main, .ok "./lib.js")], none⟩

def repaired : RecordedStore :=
  ⟨[(main, .ok "./lib.js"), (lib, .ok "")], none⟩

/-- The text of a module is the specifier of what it imports. -/
def processor : Processor := fun _ text =>
  ([], .ok ⟨text, if text = "" then [] else [text]⟩)

/-- What the walk that fails leaves. -/
def left : ModuleMap :=
  ⟨[(main, ⟨"./lib.js", [lib]⟩)]⟩

/-- What a walk from the repaired module makes of it. -/
def full : ModuleMap :=
  ⟨[(lib, ⟨"", []⟩), (main, ⟨"./lib.js", [lib]⟩)]⟩

theorem extend?_broken : ∃ actions, ModuleMap.empty.extend? broken.read processor main =
    some (left, actions, .error (.moduleRead lib.toPath .noSuchEntry)) := by
  refine Descent.exists_actions ?_
  cbv

end Repair

/-- The file is there at the time of the second walk, and the second walk succeeds, but the module is still missing. -/
theorem repeated_walk_incomplete :
    Repair.repaired.read Repair.lib = .ok "" ∧
    ∃ before after actions,
      ModuleMap.empty.extendAll? [⟨Repair.broken.read, Repair.processor, Repair.main⟩] = some before ∧
      before.extend? Repair.repaired.read Repair.processor Repair.main = some (after, actions, .ok ()) ∧
      after.Imports Repair.main Repair.lib ∧ Repair.lib ∉ after.paths ∧ ¬after.CompleteFrom Repair.main := by
  obtain ⟨actions, hbroken⟩ := Repair.extend?_broken
  have himports : Repair.left.Imports Repair.main Repair.lib :=
    ⟨⟨"./lib.js", [Repair.lib]⟩, List.mem_singleton.mpr rfl, List.mem_singleton.mpr rfl⟩
  have habsent : Repair.lib ∉ Repair.left.paths := by decide
  refine ⟨by decide, Repair.left, Repair.left, [], ?_, ModuleMap.extend?_of_contains (by decide), himports, habsent, ?_⟩
  · rw [ModuleMap.extendAll?, hbroken]
    rfl
  · exact fun hcomplete => habsent (hcomplete _ _ .refl himports)

/-- A walk from the missing module brings it in, and then the entry is complete, though a walk from it had failed. -/
theorem completeFrom_iff_of_session_repair :
    ∃ full,
      ModuleMap.empty.extendAll? [⟨Repair.broken.read, Repair.processor, Repair.main⟩,
        ⟨Repair.repaired.read, Repair.processor, Repair.lib⟩] = some full ∧
      full.extend? Repair.repaired.read Repair.processor Repair.main = some (full, [], .ok ()) ∧
      full.CompleteFrom Repair.main := by
  have hsession : ModuleMap.empty.extendAll? [⟨Repair.broken.read, Repair.processor, Repair.main⟩,
      ⟨Repair.repaired.read, Repair.processor, Repair.lib⟩] = some Repair.full := by cbv
  have hwalk : Repair.full.extend? Repair.repaired.read Repair.processor Repair.main = some (Repair.full, [], .ok ()) :=
    ModuleMap.extend?_of_contains (by decide)
  refine ⟨Repair.full, hsession, hwalk, ((completeFrom_iff_of_session hsession).1 _ _ _ _ _ hwalk).mpr ?_⟩
  rintro importer imported - ⟨⟨record, hmem, himported⟩, -⟩
  simp only [Repair.full, ModuleMap.discoveryOrder, List.reverse_cons, List.reverse_nil, List.nil_append,
    List.cons_append, List.mem_cons, List.not_mem_nil, or_false, Prod.mk.injEq] at hmem
  rcases hmem with ⟨rfl, rfl⟩ | ⟨rfl, rfl⟩
  · rw [List.mem_singleton.mp himported]
    decide
  · simp at himported

end Bundler
