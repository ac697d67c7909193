import Bundler.Proofs.Graph.Reads
import Bundler.Proofs.Graph.Session

/-!
# The first discovery of a module

A map is written to by hand, and by walks, which succeed or fail halfway. Whoever writes, the first record of a path stays,
in the place where it was put. So a map is known from everything that was ever inserted into it, successfully or not: its
paths are the inserted ones without repetitions, and the record of a path is the first one that was inserted under it.

* `insertAll_of_extend?` — a walk inserts the modules it has read, as far as they can be processed, and does nothing else
* `first_discovery_wins` — what a map is after any operations, and what each insertion by hand answers
-/

namespace Bundler

variable {read : ModulePath → Except Failure String} {process : Processor} {path entry : ModulePath}
  {record : ModuleRecord} {modules modules' : ModuleMap}

/-! ## Insertions -/

namespace ModuleMap

/-- Inserts modules in order. -/
def insertAll (modules : ModuleMap) (log : List (ModulePath × ModuleRecord)) : ModuleMap :=
  log.foldl (fun modules entry => modules.insert entry.1 entry.2) modules

theorem insertAll_append (modules : ModuleMap) (first later : List (ModulePath × ModuleRecord)) :
    modules.insertAll (first ++ later) = (modules.insertAll first).insertAll later :=
  List.foldl_append

theorem eq_of_discoveryOrder_eq (h : modules.discoveryOrder = modules'.discoveryOrder) : modules = modules' := by
  obtain ⟨entries⟩ := modules
  obtain ⟨entries'⟩ := modules'
  exact congrArg mk (List.reverse_injective h)

theorem insert_of_contains (h : modules.contains path = true) (record : ModuleRecord) :
    modules.insert path record = modules :=
  if_pos h

/-- The record that was there before wins. -/
theorem get?_insert (modules : ModuleMap) (path other : ModulePath) (record : ModuleRecord) :
    (modules.insert path record).get? other = (modules.get? other).or ([(path, record)].lookup other) := by
  have hsingle : [(path, record)].lookup other = if other == path then some record else none := by
    rw [List.lookup_cons]
    cases other == path <;> rfl
  rw [hsingle]
  by_cases hseen : modules.contains path = true
  · rw [insert_of_contains hseen]
    by_cases hsame : other = path
    · obtain ⟨first, hfirst⟩ := Option.isSome_iff_exists.mp hseen
      rw [hsame, hfirst, Option.some_or]
    · rw [if_neg (by simpa using hsame), Option.or_none]
  · by_cases hsame : other = path
    · rw [hsame, get?_insert_self modules path record (by simpa using hseen), if_pos (by simp),
        Option.not_isSome_iff_eq_none.mp hseen, Option.none_or]
    · rw [if_neg (by simpa using hsame), Option.or_none, insert, if_neg hseen, get?, get?, List.lookup_cons]
      have hother : (other == path) = false := by simpa using hsame
      rw [hother]

theorem nodup_insert (h : modules.paths.Nodup) (path : ModulePath) (record : ModuleRecord) :
    (modules.insert path record).paths.Nodup := by
  by_cases hseen : modules.contains path = true
  · rwa [insert_of_contains hseen]
  · rw [Bool.not_eq_true] at hseen
    rw [paths_insert record hseen, ← List.concat_eq_append]
    exact h.concat (contains_eq_false_iff.mp hseen)

/-- What is listed stays listed, with its record and in its place. -/
theorem discoveryOrder_prefix_insert (modules : ModuleMap) (path : ModulePath) (record : ModuleRecord) :
    modules.discoveryOrder <+: (modules.insert path record).discoveryOrder := by
  by_cases hseen : modules.contains path = true
  · rw [insert_of_contains hseen]
  · rw [Bool.not_eq_true] at hseen
    rw [discoveryOrder_insert record hseen]
    exact List.prefix_append _ _

/-- Where no path is listed twice, the list says what the records are. -/
theorem mem_discoveryOrder_iff_get? (h : modules.paths.Nodup) :
    (path, record) ∈ modules.discoveryOrder ↔ modules.get? path = some record := by
  constructor
  · intro hmem
    obtain ⟨other, hother⟩ := Option.isSome_iff_exists.mp
      (contains_iff_mem_paths.mpr (List.mem_map_of_mem hmem) : (modules.get? path).isSome = true)
    have hlisted : (path, other) ∈ modules.discoveryOrder := List.mem_reverse.mpr (mem_of_lookup hother)
    have hsame := List.inj_on_of_nodup_map h hmem hlisted rfl
    rw [hother, (Prod.mk.inj hsame).2]
  · exact fun hget => List.mem_reverse.mpr (mem_of_lookup hget)

/-! ## Many insertions -/

theorem get?_insertAll (modules : ModuleMap) (log : List (ModulePath × ModuleRecord)) (path : ModulePath) :
    (modules.insertAll log).get? path = (modules.get? path).or (log.lookup path) := by
  induction log generalizing modules with
  | nil => exact (Option.or_none).symm
  | cons entry log ih =>
    have hcons : (entry :: log).lookup path = ([entry].lookup path).or (log.lookup path) := by
      rw [← List.lookup_append, List.singleton_append]
    show ((modules.insert entry.1 entry.2).insertAll log).get? path = _
    rw [ih, get?_insert, hcons, Option.or_assoc]

theorem nodup_insertAll (h : modules.paths.Nodup) (log : List (ModulePath × ModuleRecord)) :
    (modules.insertAll log).paths.Nodup := by
  induction log generalizing modules with
  | nil => exact h
  | cons entry log ih => exact ih (nodup_insert h entry.1 entry.2)

theorem discoveryOrder_prefix_insertAll (modules : ModuleMap) (log : List (ModulePath × ModuleRecord)) :
    modules.discoveryOrder <+: (modules.insertAll log).discoveryOrder := by
  induction log generalizing modules with
  | nil => exact List.prefix_rfl
  | cons entry log ih => exact (discoveryOrder_prefix_insert modules entry.1 entry.2).trans (ih _)

/-- The paths are the inserted ones in the order in which they came first. -/
theorem paths_insertAll_empty (log : List (ModulePath × ModuleRecord)) :
    (empty.insertAll log).paths = (log.map Prod.fst).eraseDups := by
  induction log using List.reverseRecOn with
  | nil => rfl
  | append_singleton log entry ih =>
    rw [insertAll_append, List.map_append, List.eraseDups_append, ← ih]
    show ((empty.insertAll log).insert entry.1 entry.2).paths = _ ++ ([entry.1].removeAll (log.map Prod.fst)).eraseDups
    have hmem : entry.1 ∈ log.map Prod.fst ↔ (empty.insertAll log).contains entry.1 = true := by
      rw [contains_iff_mem_paths, ih, List.mem_eraseDups]
    by_cases hseen : (empty.insertAll log).contains entry.1 = true
    · rw [insert_of_contains hseen]
      simp [List.removeAll, hmem.mpr hseen]
    · have hnew : entry.1 ∉ log.map Prod.fst := fun hold => hseen (hmem.mp hold)
      rw [paths_insert entry.2 (by simpa using hseen)]
      simp only [List.removeAll, List.filter_cons, List.filter_nil]
      rw [if_pos (by simpa using hnew)]
      rfl

/-- New paths, each inserted once, are listed as they are inserted. -/
theorem Fresh.discoveryOrder_insertAll {log : List (ModulePath × ModuleRecord)}
    (h : modules.Fresh (log.map Prod.fst)) :
    (modules.insertAll log).discoveryOrder = modules.discoveryOrder ++ log := by
  induction log generalizing modules with
  | nil => exact (List.append_nil _).symm
  | cons entry log ih =>
    obtain ⟨hnot, hnodup⟩ := List.nodup_cons.mp h.nodup
    have hnew : modules.contains entry.1 = false := contains_eq_false_iff.mpr (h.notMem _ List.mem_cons_self)
    have hrest : (modules.insert entry.1 entry.2).Fresh (log.map Prod.fst) := by
      refine ⟨hnodup, fun path hpath hmem => ?_⟩
      rw [paths_insert entry.2 hnew, List.mem_append, List.mem_singleton] at hmem
      rcases hmem with hold | rfl
      · exact h.notMem path (List.mem_cons_of_mem _ hpath) hold
      · exact hnot hpath
    show ((modules.insert entry.1 entry.2).insertAll log).discoveryOrder = _
    rw [ih hrest, discoveryOrder_insert entry.2 hnew, List.append_assoc, List.singleton_append]

end ModuleMap

/-! ## What a walk inserts -/

/-- The modules that were read and that can be processed, with their records, in order: those that a walk has inserted. -/
def insertionsOf (read : ModulePath → Except Failure String) (process : Processor) (actions : List Action) :
    List (ModulePath × ModuleRecord) :=
  (Action.reads actions).filterMap fun path => (load read process path).toOption.map (path, ·)

theorem filterMap_load {log : List (ModulePath × ModuleRecord)}
    (h : ∀ entry ∈ log, load read process entry.1 = .ok entry.2) :
    (log.map Prod.fst).filterMap (fun path => (load read process path).toOption.map (path, ·)) = log := by
  induction log with
  | nil => rfl
  | cons entry log ih =>
    obtain ⟨hentry, hlog⟩ := List.forall_mem_cons.mp h
    rw [List.map_cons, List.filterMap_cons, hentry, ih hlog]
    rfl

/-- **A walk does nothing to a map but insert the modules it has read.** -/
theorem insertAll_of_extend? {actions : List Action} {result : Except Failure Unit}
    (h : modules.extend? read process entry = some (modules', actions, result)) :
    modules' = modules.insertAll (insertionsOf read process actions) := by
  obtain ⟨added, failing, ⟨log, hfinal, rfl, hload⟩, hreads, hfresh, hends⟩ := readsInOrder_of_extend? h
  have hlog : insertionsOf read process actions = log := by
    rw [insertionsOf, hreads, List.filterMap_append, filterMap_load hload]
    cases hends with
    | ok => exact List.append_nil log
    | error hfails =>
      rw [List.filterMap_cons, hfails]
      exact List.append_nil log
  have hnew : modules.Fresh (log.map Prod.fst) :=
    ⟨(List.nodup_append'.mp hfresh.nodup).1, fun path hpath => hfresh.notMem path (List.mem_append_left _ hpath)⟩
  refine ModuleMap.eq_of_discoveryOrder_eq ?_
  rw [hlog, hnew.discoveryOrder_insertAll]
  exact hfinal

/-! ## Operations -/

/-- What can be done to a map: a module is inserted by hand under a path of any spelling, or a walk extends the map. -/
inductive Operation where
  | insert (path : Path) (record : ModuleRecord)
  | extend (request : Request)

namespace ModuleMap

/-- The map after an operation, with everything that it inserted or tried to insert; none if it never ends. -/
def perform? (modules : ModuleMap) : Operation → Option (ModuleMap × List (ModulePath × ModuleRecord))
  | .insert path record => some ((modules.tryInsert (.ofPath path) record).1, [(.ofPath path, record)])
  | .extend request =>
    (modules.extend? request.read request.process request.entry).map fun (after, actions, _) =>
      (after, insertionsOf request.read request.process actions)

/-- The map after operations, one after the other, with everything that they inserted or tried to insert, in order. -/
def performAll? (modules : ModuleMap) : List Operation → Option (ModuleMap × List (ModulePath × ModuleRecord))
  | [] => some (modules, [])
  | operation :: later =>
    (modules.perform? operation).bind fun (next, first) =>
      (next.performAll? later).map fun (final, rest) => (final, first ++ rest)

variable {operation : Operation} {operations earlier later : List Operation}
  {log : List (ModulePath × ModuleRecord)}

/-- An operation makes its insertions and does nothing else. -/
theorem insertAll_of_perform? (h : modules.perform? operation = some (modules', log)) :
    modules' = modules.insertAll log := by
  cases operation with
  | insert path record =>
    obtain ⟨rfl, rfl⟩ := Prod.mk.inj (Option.some.inj h)
    rfl
  | extend request =>
    obtain ⟨⟨after, actions, result⟩, hextend, heq⟩ := Option.map_eq_some_iff.mp h
    obtain ⟨rfl, rfl⟩ := Prod.mk.inj heq
    exact insertAll_of_extend? hextend

theorem insertAll_of_performAll? (h : modules.performAll? operations = some (modules', log)) :
    modules' = modules.insertAll log := by
  induction operations generalizing modules log with
  | nil =>
    obtain ⟨rfl, rfl⟩ := Prod.mk.inj (Option.some.inj h)
    rfl
  | cons operation later ih =>
    obtain ⟨⟨next, first⟩, hfirst, hrest⟩ := Option.bind_eq_some_iff.mp h
    obtain ⟨⟨final, rest⟩, hlater, heq⟩ := Option.map_eq_some_iff.mp hrest
    obtain ⟨rfl, rfl⟩ := Prod.mk.inj heq
    rw [ih hlater, insertAll_of_perform? hfirst, insertAll_append]

theorem performAll?_cons {next : ModuleMap} {first : List (ModulePath × ModuleRecord)}
    (h : modules.perform? operation = some (next, first)) (later : List Operation) :
    modules.performAll? (operation :: later) =
      (next.performAll? later).map fun (final, rest) => (final, first ++ rest) := by
  rw [performAll?, h]
  rfl

/-- Operations that were all performed were performed up to any of them. -/
theorem exists_of_performAll?_append (h : modules.performAll? (earlier ++ later) = some (modules', log)) :
    ∃ between before after, modules.performAll? earlier = some (between, before) ∧
      between.performAll? later = some (modules', after) ∧ log = before ++ after := by
  induction earlier generalizing modules log with
  | nil => exact ⟨modules, [], log, rfl, h, rfl⟩
  | cons operation earlier ih =>
    obtain ⟨⟨next, first⟩, hfirst, hrest⟩ := Option.bind_eq_some_iff.mp h
    obtain ⟨⟨final, rest⟩, hall, heq⟩ := Option.map_eq_some_iff.mp hrest
    obtain ⟨rfl, rfl⟩ := Prod.mk.inj heq
    obtain ⟨between, before, after, hearlier, hlater, rfl⟩ := ih hall
    refine ⟨between, first ++ before, after, ?_, hlater, (List.append_assoc _ _ _).symm⟩
    rw [performAll?_cons hfirst, hearlier]
    rfl

/-- Where only finitely many paths can be read, all operations end. -/
theorem exists_performAll? (modules : ModuleMap)
    (h : ∀ request, .extend request ∈ operations → ∃ sources : Sources, request.read = sources.read) :
    ∃ final log, modules.performAll? operations = some (final, log) := by
  induction operations generalizing modules with
  | nil => exact ⟨modules, [], rfl⟩
  | cons operation later ih =>
    have hfirst : ∃ next first, modules.perform? operation = some (next, first) := by
      cases operation with
      | insert path record => exact ⟨_, _, rfl⟩
      | extend request =>
        obtain ⟨sources, hsources⟩ := h request List.mem_cons_self
        rw [perform?, hsources, extend?_eq_some]
        exact ⟨_, _, rfl⟩
    obtain ⟨next, first, hnext⟩ := hfirst
    obtain ⟨final, rest, hfinal⟩ := ih next fun request hmem => h request (List.mem_cons_of_mem _ hmem)
    exact ⟨final, first ++ rest, by rw [performAll?_cons hnext, hfinal]; rfl⟩

end ModuleMap

/--
**The first discovery wins over a whole session.**

Whatever is done to an empty map, every path is listed where it was first inserted, by hand or by a walk, with the record of
that insertion, and no two of the listed paths name the same location from every directory. What is listed at some time
stays listed, in its place and with its record. An insertion by hand succeeds exactly if nothing was inserted before under
a path of the same normal form. A path is in the map exactly if it has a record, and exactly if it is listed; the size is the
number of listed paths, and the bundle lists them in the reverse order. Where only finitely many paths can be read, all of
it ends.
-/
theorem first_discovery_wins (operations : List Operation) :
    ((∀ request, .extend request ∈ operations → ∃ sources : Sources, request.read = sources.read) →
      ∃ final log, ModuleMap.empty.performAll? operations = some (final, log)) ∧
    ∀ final log, ModuleMap.empty.performAll? operations = some (final, log) →
      final.paths = (log.map Prod.fst).eraseDups ∧
      (∀ path record, (path, record) ∈ final.discoveryOrder ↔ log.lookup path = some record) ∧
      (final.paths.Pairwise fun p q => ∃ directory, p.toPath.location directory ≠ q.toPath.location directory) ∧
      (∀ earlier later, operations = earlier ++ later →
        ∃ between before, ModuleMap.empty.performAll? earlier = some (between, before) ∧
          between.discoveryOrder <+: final.discoveryOrder ∧
          ∀ path record, later.head? = some (.insert path record) →
            ((between.tryInsert (.ofPath path) record).2 = true ↔ ModulePath.ofPath path ∉ before.map Prod.fst)) ∧
      (∀ path : Path, (final.contains (.ofPath path) = true ↔ (final.get? (.ofPath path)).isSome = true) ∧
        (final.contains (.ofPath path) = true ↔ ModulePath.ofPath path ∈ final.paths)) ∧
      final.size = final.discoveryOrder.length ∧ final.emissionOrder = final.discoveryOrder.reverse := by
  refine ⟨ModuleMap.empty.exists_performAll?, fun final log h => ?_⟩
  have hempty : ModuleMap.empty.paths.Nodup := List.nodup_nil
  obtain rfl := ModuleMap.insertAll_of_performAll? h
  have hnodup := ModuleMap.nodup_insertAll hempty log
  refine ⟨ModuleMap.paths_insertAll_empty log, fun path record => ?_, hnodup.imp ModulePath.exists_location_ne, ?_,
    fun path => ⟨Iff.rfl, ModuleMap.contains_iff_mem_paths⟩, ?_, ?_⟩
  · rw [ModuleMap.mem_discoveryOrder_iff_get? hnodup, ModuleMap.get?_insertAll]
    exact Iff.rfl
  · rintro earlier later rfl
    obtain ⟨between, before, after, hearlier, hlater, rfl⟩ := ModuleMap.exists_of_performAll?_append h
    obtain rfl := ModuleMap.insertAll_of_performAll? hearlier
    refine ⟨_, before, hearlier, ?_, fun path record _ => ?_⟩
    · rw [ModuleMap.insertAll_append]
      exact ModuleMap.discoveryOrder_prefix_insertAll _ after
    · show (!(ModuleMap.empty.insertAll before).contains (.ofPath path)) = true ↔ _
      rw [Bool.not_eq_true', ModuleMap.contains_eq_false_iff, ModuleMap.paths_insertAll_empty, List.mem_eraseDups]
  · exact (List.length_reverse).symm
  · exact (List.reverse_reverse _).symm

/-! A small session: a module is inserted by hand, a walk finds others and fails, and one of those is inserted again. -/

namespace Respelled

def byHand (text : String) : ModuleRecord :=
  ⟨text, []⟩

def session : List Operation :=
  [.insert (.ofString "/app/./lib.js") (byHand "first"), .extend ⟨store.read, processor, main⟩,
    .insert (.ofString "/app/x/..//main.js") (byHand "late")]

end Respelled

/-- The walk leaves the module that was inserted before it, and the module that it has found itself cannot be replaced. -/
theorem first_discovery_wins_respelled :
    ∃ final log between before, ModuleMap.empty.performAll? Respelled.session = some (final, log) ∧
      final.paths = [Respelled.lib, Respelled.main, Respelled.deep] ∧
      (Respelled.lib, Respelled.byHand "first") ∈ final.discoveryOrder ∧
      ModuleMap.empty.performAll? (Respelled.session.take 2) = some (between, before) ∧
      between.discoveryOrder <+: final.discoveryOrder ∧
      (between.tryInsert (.ofPath (.ofString "/app/x/..//main.js")) (Respelled.byHand "late")).2 = false := by
  have hrun : (ModuleMap.empty.performAll? Respelled.session).map (fun d => (d.2.map Prod.fst, d.2.lookup Respelled.lib)) =
      some ([Respelled.lib, Respelled.main, Respelled.deep, Respelled.main], some (Respelled.byHand "first")) := by
    cbv
  have hbegun : (ModuleMap.empty.performAll? (Respelled.session.take 2)).map (fun d => d.2.map Prod.fst) =
      some [Respelled.lib, Respelled.main, Respelled.deep] := by
    cbv
  obtain ⟨⟨final, log⟩, hsession, hlog⟩ := Option.map_eq_some_iff.mp hrun
  obtain ⟨hkeys, hfirst⟩ := Prod.mk.inj hlog
  obtain ⟨hpaths, hlisted, -, hstays, -⟩ := (first_discovery_wins Respelled.session).2 final log hsession
  obtain ⟨between, before, hearlier, hprefix, hanswer⟩ := hstays (Respelled.session.take 2) (Respelled.session.drop 2) rfl
  have hbefore : before.map Prod.fst = [Respelled.lib, Respelled.main, Respelled.deep] := by
    rw [hearlier] at hbegun
    exact Option.some.inj hbegun
  refine ⟨final, log, between, before, hsession, ?_, (hlisted _ _).mpr hfirst, hearlier, hprefix, ?_⟩
  · rw [hpaths, hkeys]
    decide
  · rw [← Bool.not_eq_true, hanswer _ _ rfl, hbefore, not_not]
    decide

end Bundler
