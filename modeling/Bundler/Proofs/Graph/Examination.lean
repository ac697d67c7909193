import Bundler.Proofs.Graph.Discovery
import Bundler.Proofs.Graph.Points
import Bundler.Script.Processor
import Mathlib

/-!
# Every import is examined once

A frame of the walk does not say whose imports wait in it, and it is left and taken up again around everything that is found
below. To say what becomes of each single import, the walk is watched: `Walk.Watch` keeps the owner of every frame beside
the walk, and what was examined so far. Watching changes nothing in the walk; every point of a walk that has opened its
entry is watched (`ModuleMap.exists_watched`).

* `Walk.Watch.Accounts` — at any time, what was examined of a module and what waits in its frame are together what the
  module imports, and the actions of the walk are those of its examinations
* `imports_examined_once` — after a walk that succeeds, every import of a new module was examined once, and what follows
  for the events of the walk
-/

namespace Bundler

variable {read : ModulePath → Except Failure String} {process : Processor} {path entry owner : ModulePath}
  {modules modules' : ModuleMap} {rest : List ModulePath} {outer : List (List ModulePath)} {owners : List ModulePath}
  {trace : List Action} {record : ModuleRecord} {records : List (ModulePath × ModuleRecord)}

/-! ## Examinations -/

/-- One look at an import: whose it is, where it leads, and whether nothing was recorded there yet. -/
structure Examination where
  importer : ModulePath
  imported : ModulePath
  isNew : Bool

/-- What an examination makes the walk do: open the module, or pass over it. -/
def Examination.actions (read : ModulePath → Except Failure String) (process : Processor) (x : Examination) :
    List Action :=
  if x.isNew then openingActions read process x.imported else [.logged (.alreadyVisited x.imported)]

/-- The imports of a module that were examined, in order. -/
def examinedOf (path : ModulePath) (examined : List Examination) : List ModulePath :=
  (examined.filter (·.importer = path)).map (·.imported)

/-- The modules that were opened because of an import, in order. -/
def foundBy (examined : List Examination) : List ModulePath :=
  (examined.filter (·.isNew)).map (·.imported)

theorem examinedOf_concat (path : ModulePath) (examined : List Examination) (x : Examination) :
    examinedOf path (examined ++ [x]) =
      if x.importer = path then examinedOf path examined ++ [x.imported] else examinedOf path examined := by
  unfold examinedOf
  split
  · next hsame => simp [hsame]
  · next hother => simp [hother]

theorem foundBy_concat (examined : List Examination) (x : Examination) :
    foundBy (examined ++ [x]) = if x.isNew then foundBy examined ++ [x.imported] else foundBy examined := by
  unfold foundBy
  split
  · next hnew => simp [hnew]
  · next hold => simp [hold]

theorem examinedOf_eq_nil {examined : List Examination} (h : ∀ x ∈ examined, x.importer ≠ path) :
    examinedOf path examined = [] := by
  rw [examinedOf, List.filter_eq_nil_iff.mpr fun x hx => by simpa using h x hx]
  rfl

/-! ## Watching a walk -/

namespace Walk

/-- A walk that is watched: the owners of its frames, the innermost first, and what was examined so far, in order. -/
structure Watch where
  walk : Walk
  owners : List ModulePath
  examined : List Examination

namespace Watch

/-- What the next turn examines, if anything. -/
def next? (t : Watch) : Option Examination :=
  match t.walk.frames, t.owners with
  | (path :: _) :: _, owner :: _ => some ⟨owner, path, !t.walk.modules.contains path⟩
  | _, _ => none

/-- The owners of the frames after the next turn. -/
def nextOwners (t : Watch) : List ModulePath :=
  match t.walk.frames with
  | [] => t.owners
  | [] :: _ => t.owners.tail
  | (path :: _) :: _ => if t.walk.modules.contains path then t.owners else path :: t.owners

/-- A turn of the walk, watched. -/
def step (read : ModulePath → Except Failure String) (process : Processor) (t : Watch) :
    Watch × Option (Except Failure Unit) :=
  (⟨(t.walk.step read process).1, t.nextOwners, t.examined ++ t.next?.toList⟩, (t.walk.step read process).2)

end Watch

/-- The imports that wait in the frame of a module; nothing if it has none. -/
def waitingOf (path : ModulePath) (owners : List ModulePath) (frames : List (List ModulePath)) : List ModulePath :=
  ((owners.zip frames).lookup path).getD []

theorem waitingOf_cons (path owner : ModulePath) (owners frame : List ModulePath) (outer : List (List ModulePath)) :
    waitingOf path (owner :: owners) (frame :: outer) = if path = owner then frame else waitingOf path owners outer := by
  rw [waitingOf, List.zip_cons_cons, List.lookup_cons]
  by_cases hsame : path = owner
  · simp [hsame]
  · rw [if_neg hsame, beq_eq_false_iff_ne.mpr hsame]
    rfl

/-- What a module has no frame for does not wait. -/
theorem waitingOf_eq_nil (h : path ∉ owners) (frames : List (List ModulePath)) : waitingOf path owners frames = [] := by
  have hnone : (owners.zip frames).lookup path = none := by
    refine List.lookup_eq_none_iff.mpr fun entry hentry => bne_iff_ne.mpr ?_
    rintro rfl
    exact h (List.of_mem_zip hentry).1
  rw [waitingOf, hnone]
  rfl

end Walk

/-- The points of a walk that has opened its entry, watched. -/
inductive ModuleMap.Watched (read : ModulePath → Except Failure String) (process : Processor) (entry : ModulePath)
    (modules : ModuleMap) : Walk.Watch → Option (Except Failure Unit) → Prop
  | opened {w : Walk} (hnew : modules.contains entry = false)
      (hvisit : (Walk.start modules).visit process entry (read entry) = (w, .ok ())) :
      Watched read process entry modules ⟨w, [entry], []⟩ none
  | turned {t t' : Walk.Watch} {status : Option (Except Failure Unit)}
      (hwatched : Watched read process entry modules t none) (hstep : t.step read process = (t', status)) :
      Watched read process entry modules t' status

/-- **Every point of a walk is watched, unless the entry is in the map or has no record.** -/
theorem ModuleMap.exists_watched {w : Walk} {status : Option (Except Failure Unit)}
    (hnew : modules.contains entry = false) (h : modules.Passes read process entry w status)
    (hstatus : ∀ failure, status ≠ some (.error failure)) :
    ∃ t, modules.Watched read process entry t status ∧ t.walk = w := by
  induction h with
  | present hseen => simp [hnew] at hseen
  | @refused w failure _ hvisit => exact absurd rfl (hstatus failure)
  | opened hnew hvisit => exact ⟨_, .opened hnew hvisit, rfl⟩
  | turned _ hstep ih =>
    obtain ⟨t, hwatched, rfl⟩ := ih (by simp)
    obtain ⟨rfl, rfl⟩ := Prod.mk.inj hstep
    exact ⟨(t.step read process).1, hwatched.turned rfl, rfl⟩

namespace Walk.Watch

/-! ## The turns, watched -/

variable {examined : List Examination}

theorem step_finished :
    step read process ⟨⟨modules, [], trace⟩, owners, examined⟩ =
      (⟨⟨modules, [], trace⟩, owners, examined⟩, some (.ok ())) := by
  rw [step, Walk.step_finished, next?, nextOwners, Option.toList_none, List.append_nil]

theorem step_left :
    step read process ⟨⟨modules, [] :: outer, trace⟩, owner :: owners, examined⟩ =
      (⟨⟨modules, outer, trace⟩, owners, examined⟩, none) := by
  rw [step, Walk.step_left, next?, nextOwners, Option.toList_none, List.append_nil, List.tail_cons]

theorem step_passed (hseen : modules.contains path = true) :
    step read process ⟨⟨modules, (path :: rest) :: outer, trace⟩, owner :: owners, examined⟩ =
      (⟨⟨modules, rest :: outer, .logged (.alreadyVisited path) :: trace⟩, owner :: owners,
        examined ++ [⟨owner, path, false⟩]⟩, none) := by
  simp [step, Walk.step_passed hseen, next?, nextOwners, hseen]

theorem step_failed {failure : Failure} (hnew : modules.contains path = false)
    (hload : load read process path = .error failure) :
    (step read process ⟨⟨modules, (path :: rest) :: outer, trace⟩, owners, examined⟩).2 = some (.error failure) := by
  rw [step, Walk.step_failed hnew hload]

theorem step_entered (hnew : modules.contains path = false) (hload : load read process path = .ok record) :
    step read process ⟨⟨modules, (path :: rest) :: outer, trace⟩, owner :: owners, examined⟩ =
      (⟨⟨modules.insert path record, record.dependencies :: rest :: outer,
        (openingActions read process path).reverse ++ trace⟩, path :: owner :: owners,
        examined ++ [⟨owner, path, true⟩]⟩, none) := by
  simp [step, Walk.step_entered hnew hload, next?, nextOwners, hnew]

end Walk.Watch

/-- What is true once the entry is opened and stays true with every turn that does not fail is true at every point that is no
failure. -/
theorem ModuleMap.Watched.induction {motive : Walk.Watch → Prop}
    (opened : ∀ record, modules.contains entry = false → load read process entry = .ok record →
      motive ⟨⟨modules.insert entry record, [record.dependencies], (openingActions read process entry).reverse⟩, [entry], []⟩)
    (left : ∀ modules' outer trace owner owners examined,
      motive ⟨⟨modules', [] :: outer, trace⟩, owner :: owners, examined⟩ →
      motive ⟨⟨modules', outer, trace⟩, owners, examined⟩)
    (passed : ∀ modules' path rest outer trace owner owners examined, modules'.contains path = true →
      motive ⟨⟨modules', (path :: rest) :: outer, trace⟩, owner :: owners, examined⟩ →
      motive ⟨⟨modules', rest :: outer, .logged (.alreadyVisited path) :: trace⟩, owner :: owners,
        examined ++ [⟨owner, path, false⟩]⟩)
    (entered : ∀ modules' path rest outer trace owner owners examined record, modules'.contains path = false →
      load read process path = .ok record →
      motive ⟨⟨modules', (path :: rest) :: outer, trace⟩, owner :: owners, examined⟩ →
      motive ⟨⟨modules'.insert path record, record.dependencies :: rest :: outer,
        (openingActions read process path).reverse ++ trace⟩, path :: owner :: owners,
        examined ++ [⟨owner, path, true⟩]⟩)
    {t : Walk.Watch} {status : Option (Except Failure Unit)} (h : modules.Watched read process entry t status)
    (hstatus : ∀ failure, status ≠ some (.error failure)) : motive t := by
  -- every frame has an owner all the time, so the turns are those of the walk
  suffices hboth : motive t ∧ t.owners.length = t.walk.frames.length from hboth.1
  induction h with
  | @opened w hnew hvisit =>
    cases hload : load read process entry with
    | error failure => simp [Walk.visit_of_load_error hload] at hvisit
    | ok record =>
      rw [Walk.visit_of_load_ok hload] at hvisit
      obtain ⟨rfl, -⟩ := Prod.mk.inj hvisit
      exact ⟨by simpa [Walk.start] using opened record hnew hload, rfl⟩
  | @turned t t' status _ hstep ih =>
    obtain ⟨⟨modules', frames, trace⟩, owners, examined⟩ := t
    obtain ⟨hmotive, hframes⟩ := ih (by simp)
    rcases frames with _ | ⟨_ | ⟨path, rest⟩, outer⟩
    · rw [Walk.Watch.step_finished] at hstep
      obtain ⟨rfl, -⟩ := Prod.mk.inj hstep
      exact ⟨hmotive, hframes⟩
    · obtain ⟨owner, owners, rfl⟩ := List.exists_cons_of_length_eq_add_one hframes
      rw [Walk.Watch.step_left] at hstep
      obtain ⟨rfl, -⟩ := Prod.mk.inj hstep
      exact ⟨left _ _ _ _ _ _ hmotive, Nat.succ.inj hframes⟩
    · obtain ⟨owner, owners, rfl⟩ := List.exists_cons_of_length_eq_add_one hframes
      cases hseen : modules'.contains path with
      | true =>
        rw [Walk.Watch.step_passed hseen] at hstep
        obtain ⟨rfl, -⟩ := Prod.mk.inj hstep
        exact ⟨passed _ _ _ _ _ _ _ _ hseen hmotive, hframes⟩
      | false =>
        cases hload : load read process path with
        | error failure =>
          refine absurd ?_ (hstatus failure)
          rw [← Walk.Watch.step_failed hseen hload, hstep]
        | ok record =>
          rw [Walk.Watch.step_entered hseen hload] at hstep
          obtain ⟨rfl, -⟩ := Prod.mk.inj hstep
          exact ⟨entered _ _ _ _ _ _ _ _ _ hseen hload hmotive, congrArg Nat.succ hframes⟩

namespace Walk.Watch

variable {examined : List Examination}

/-! ## Accounts -/

/-- What is known of a watched walk at any time. -/
structure Accounts (read : ModulePath → Except Failure String) (process : Processor) (entry : ModulePath)
    (modules : ModuleMap) (records : List (ModulePath × ModuleRecord)) (t : Watch) : Prop where
  /-- The new modules are listed after the old ones. -/
  listed : t.walk.modules.discoveryOrder = modules.discoveryOrder ++ records
  /-- They are the entry and what examinations have led to. -/
  found : records.map Prod.fst = entry :: foundBy t.examined
  distinct : (records.map Prod.fst).Nodup
  loaded : ∀ path record, (path, record) ∈ records → load read process path = .ok record
  /-- Each frame has an owner, and no module owns two. -/
  frames : t.owners.length = t.walk.frames.length
  nodup : t.owners.Nodup
  owned : ∀ owner ∈ t.owners, owner ∈ records.map Prod.fst
  importers : ∀ x ∈ t.examined, x.importer ∈ records.map Prod.fst
  /-- What was examined of a module and what waits in its frame is what it imports. -/
  shares : ∀ path record, (path, record) ∈ records →
    examinedOf path t.examined ++ waitingOf path t.owners t.walk.frames = record.dependencies
  conserved : t.examined.length + (t.walk.frames.map List.length).sum =
    (records.map fun entry => entry.2.dependencies.length).sum
  /-- A module is new if it was in the map neither before nor after what was examined earlier. -/
  sound : ∀ before x, before ++ [x] <+: t.examined →
    (x.isNew = true ↔ x.imported ∉ modules.paths ++ entry :: foundBy before)
  traced : t.walk.trace.reverse =
    openingActions read process entry ++ t.examined.flatMap (Examination.actions read process)

namespace Accounts

theorem paths_eq {t : Watch} (h : t.Accounts read process entry modules records) :
    t.walk.modules.paths = modules.paths ++ entry :: foundBy t.examined := by
  rw [ModuleMap.paths, h.listed, List.map_append, h.found]
  rfl

/-- The entry is opened before anything is examined. -/
theorem opened (hnew : modules.contains entry = false) (hload : load read process entry = .ok record) :
    Accounts read process entry modules [(entry, record)]
      ⟨⟨modules.insert entry record, [record.dependencies], (openingActions read process entry).reverse⟩, [entry], []⟩ where
  listed := ModuleMap.discoveryOrder_insert record hnew
  found := rfl
  distinct := List.nodup_singleton entry
  loaded := by simpa using hload
  frames := rfl
  nodup := List.nodup_singleton entry
  owned := by simp
  importers := by simp
  shares := by simp [examinedOf, waitingOf_cons]
  conserved := by simp
  sound := by simp
  traced := by simp

/-- A frame that is left had nothing that waits. -/
theorem left (h : Accounts read process entry modules records
      ⟨⟨modules', [] :: outer, trace⟩, owner :: owners, examined⟩) :
    Accounts read process entry modules records ⟨⟨modules', outer, trace⟩, owners, examined⟩ where
  listed := h.listed
  found := h.found
  distinct := h.distinct
  loaded := h.loaded
  frames := Nat.succ.inj h.frames
  nodup := (List.nodup_cons.mp h.nodup).2
  owned := (List.forall_mem_cons.mp h.owned).2
  importers := h.importers
  shares := by
    intro path record hmem
    have hshares := h.shares path record hmem
    rw [waitingOf_cons] at hshares
    by_cases hsame : path = owner
    · rw [if_pos hsame] at hshares
      rwa [waitingOf_eq_nil (hsame ▸ (List.nodup_cons.mp h.nodup).1)]
    · rwa [if_neg hsame] at hshares
  conserved := by
    have hconserved := h.conserved
    rwa [List.map_cons, List.sum_cons, List.length_nil, Nat.zero_add] at hconserved
  sound := h.sound
  traced := h.traced

section

variable {x : Examination}
  (h : Accounts read process entry modules records
    ⟨⟨modules', (path :: rest) :: outer, trace⟩, owner :: owners, examined⟩)
  (hx : x = ⟨owner, path, !modules'.contains path⟩)

include h hx

/-- An import that is examined does not wait any more. -/
theorem shares_concat (q : ModulePath) (record : ModuleRecord) (hmem : (q, record) ∈ records) :
    examinedOf q (examined ++ [x]) ++ waitingOf q (owner :: owners) (rest :: outer) = record.dependencies := by
  have hshares := h.shares q record hmem
  rw [waitingOf_cons] at hshares ⊢
  rw [examinedOf_concat, hx]
  by_cases hsame : q = owner
  · rw [if_pos hsame] at hshares ⊢
    rw [if_pos hsame.symm, List.append_assoc, List.singleton_append]
    exact hshares
  · rw [if_neg hsame] at hshares ⊢
    rw [if_neg (Ne.symm hsame)]
    exact hshares

theorem importers_concat : ∀ y ∈ examined ++ [x], y.importer ∈ records.map Prod.fst := by
  intro y hy
  rcases List.mem_append.mp hy with hold | hlast
  · exact h.importers y hold
  · rw [List.mem_singleton.mp hlast, hx]
    exact h.owned owner List.mem_cons_self

/-- The map holds what was in it before and what was found, and so it knows what is new. -/
theorem sound_concat (before : List Examination) (y : Examination) (hbegins : before ++ [y] <+: examined ++ [x]) :
    y.isNew = true ↔ y.imported ∉ modules.paths ++ entry :: foundBy before := by
  rcases List.prefix_concat_iff.mp hbegins with hall | hearlier
  · obtain ⟨rfl, hlast⟩ := List.append_inj' hall rfl
    obtain rfl := List.singleton_inj.mp hlast
    rw [← h.paths_eq, hx, Bool.not_eq_true', ModuleMap.contains_eq_false_iff]
  · exact h.sound before y hearlier

end

/-- What is in the map is passed over. -/
theorem passed (h : Accounts read process entry modules records
      ⟨⟨modules', (path :: rest) :: outer, trace⟩, owner :: owners, examined⟩)
    (hseen : modules'.contains path = true) :
    Accounts read process entry modules records
      ⟨⟨modules', rest :: outer, .logged (.alreadyVisited path) :: trace⟩, owner :: owners,
        examined ++ [⟨owner, path, false⟩]⟩ := by
  have hx : (⟨owner, path, false⟩ : Examination) = ⟨owner, path, !modules'.contains path⟩ := by rw [hseen]; rfl
  refine ⟨h.listed, ?_, h.distinct, h.loaded, h.frames, h.nodup, h.owned, h.importers_concat hx, h.shares_concat hx, ?_,
    h.sound_concat hx, ?_⟩
  · rw [foundBy_concat, if_neg (by simp)]
    exact h.found
  · have hconserved := h.conserved
    simp only [List.map_cons, List.sum_cons, List.length_cons, List.length_append, List.length_nil] at hconserved ⊢
    omega
  · have htraced : trace.reverse = _ := h.traced
    simp [htraced, Examination.actions]

/-- A module that is not in the map gets a frame with all that it imports. -/
theorem entered (h : Accounts read process entry modules records
      ⟨⟨modules', (path :: rest) :: outer, trace⟩, owner :: owners, examined⟩)
    (hnew : modules'.contains path = false) (hload : load read process path = .ok record) :
    Accounts read process entry modules (records ++ [(path, record)])
      ⟨⟨modules'.insert path record, record.dependencies :: rest :: outer,
        (openingActions read process path).reverse ++ trace⟩, path :: owner :: owners,
        examined ++ [⟨owner, path, true⟩]⟩ := by
  have hx : (⟨owner, path, true⟩ : Examination) = ⟨owner, path, !modules'.contains path⟩ := by rw [hnew]; rfl
  have hfresh : path ∉ records.map Prod.fst := by
    have hpaths := h.paths_eq
    rw [← h.found] at hpaths
    have hnot := ModuleMap.contains_eq_false_iff.mp hnew
    rw [hpaths] at hnot
    exact fun hmem => hnot (List.mem_append_right _ hmem)
  have hkeys : (records ++ [(path, record)]).map Prod.fst = records.map Prod.fst ++ [path] := List.map_append
  refine ⟨?_, ?_, ?_, ?_, congrArg Nat.succ h.frames, List.nodup_cons.mpr ⟨fun hmem => hfresh (h.owned path hmem), h.nodup⟩,
    ?_, ?_, ?_, ?_, h.sound_concat hx, ?_⟩
  · have hlisted : modules'.discoveryOrder = _ := h.listed
    rw [ModuleMap.discoveryOrder_insert record hnew, hlisted, List.append_assoc]
  · rw [hkeys, h.found, foundBy_concat, if_pos rfl]
    rfl
  · rw [hkeys, ← List.concat_eq_append]
    exact h.distinct.concat hfresh
  · intro q other hmem
    rcases List.mem_append.mp hmem with hold | hlast
    · exact h.loaded q other hold
    · obtain ⟨rfl, rfl⟩ := Prod.mk.inj (List.mem_singleton.mp hlast)
      exact hload
  · intro q hmem
    rw [hkeys, List.mem_append, List.mem_singleton]
    exact (List.mem_cons.mp hmem).symm.imp_left (h.owned q)
  · intro y hy
    rw [hkeys]
    exact List.mem_append_left _ (h.importers_concat hx y hy)
  · intro q other hmem
    rw [waitingOf_cons]
    rcases List.mem_append.mp hmem with hold | hlast
    · have hother : q ≠ path := fun hsame => hfresh (hsame ▸ List.mem_map_of_mem hold)
      rw [if_neg hother]
      exact h.shares_concat hx q other hold
    · obtain ⟨rfl, rfl⟩ := Prod.mk.inj (List.mem_singleton.mp hlast)
      -- Nothing was examined of it, as every importer was recorded before.
      have hnone : examinedOf q (examined ++ [⟨owner, q, true⟩]) = [] := by
        refine examinedOf_eq_nil fun y hy => ?_
        rintro rfl
        exact hfresh (h.importers_concat hx y hy)
      rw [if_pos rfl, hnone, List.nil_append]
  · have hconserved := h.conserved
    simp only [List.map_cons, List.sum_cons, List.length_cons, List.length_append, List.length_nil, List.map_append,
      List.sum_append, List.map_nil, List.sum_nil] at hconserved ⊢
    omega
  · have htraced : trace.reverse = _ := h.traced
    simp [htraced, Examination.actions]

end Accounts

end Walk.Watch

namespace ModuleMap

variable {t : Walk.Watch} {status : Option (Except Failure Unit)}

/-- There are accounts at every point that is no failure. -/
theorem Watched.accounts (h : modules.Watched read process entry t status)
    (hstatus : ∀ failure, status ≠ some (.error failure)) :
    ∃ records, t.Accounts read process entry modules records := by
  refine Watched.induction (motive := fun t => ∃ records, t.Accounts read process entry modules records) ?opened ?left
    ?passed ?entered h hstatus
  case opened => exact fun record hnew hload => ⟨[(entry, record)], .opened hnew hload⟩
  case left =>
    rintro modules' outer trace owner owners examined ⟨records, haccounts⟩
    exact ⟨records, haccounts.left⟩
  case passed =>
    rintro modules' path rest outer trace owner owners examined hseen ⟨records, haccounts⟩
    exact ⟨records, haccounts.passed hseen⟩
  case entered =>
    rintro modules' path rest outer trace owner owners examined record hnew hload ⟨records, haccounts⟩
    exact ⟨records ++ [(path, record)], haccounts.entered hnew hload⟩

/-- A walk that has succeeded is inside of no module. -/
theorem Watched.frames_eq_nil (h : modules.Watched read process entry t (some (.ok ()))) : t.walk.frames = [] := by
  cases h with
  | @turned t _ _ _ hstep =>
    obtain ⟨rfl, hstatus⟩ := Prod.mk.inj hstep
    have hturns : t.walk.Turns read process (t.walk.step read process).1 (t.walk.step read process).2 := t.walk.turns_step
    rw [hstatus] at hturns
    generalize hafter : (t.walk.step read process).1 = after at hturns
    generalize t.walk = w at *
    cases hturns with
    | finished => exact hafter ▸ rfl

end ModuleMap

/-! ## Events -/

/-- The module that is being read, if an event tells of that. -/
def Event.reading? : Event → Option ModulePath
  | .reading path => some path
  | _ => none

/-- The module that was rewritten and the number of its imports, if an event tells of that. -/
def Event.rewrote? : Event → Option (ModulePath × Nat)
  | .rewrote path dependencies => some (path, dependencies)
  | _ => none

/-- The module that was passed over, if an event tells of that. -/
def Event.alreadyVisited? : Event → Option ModulePath
  | .alreadyVisited path => some path
  | _ => none

/-- What the processor itself reports of a module. -/
def processorEvents (read : ModulePath → Except Failure String) (process : Processor) (path : ModulePath) :
    List Event :=
  match read path with
  | .error _ => []
  | .ok text => (process path text).1

/-- All that a processor ever reports of a module is that a statement of it was left untouched. -/
def Processor.ReportsOnlyUntouched (process : Processor) : Prop :=
  ∀ path text, ∀ event ∈ (process path text).1, ∃ statement, event = .untouched statement path

theorem Script.reportsOnlyUntouched_processor (singleQuote : Bool) :
    Processor.ReportsOnlyUntouched (Script.processor singleQuote) := by
  intro path text event hevent
  unfold Script.processor at hevent
  cases hprogram : Script.Program.ofSource (.ofPath path) text with
  | error faults => simp [hprogram] at hevent
  | ok program =>
    simp only [hprogram] at hevent
    obtain ⟨statement, -, rfl⟩ := List.mem_map.mp hevent
    exact ⟨statement, rfl⟩

/-- Such a processor reports nothing of another kind. -/
theorem Processor.ReportsOnlyUntouched.filterMap_eq_nil {α : Type} (h : process.ReportsOnlyUntouched)
    (kind : Event → Option α) (hkind : ∀ statement path, kind (.untouched statement path) = none)
    (path : ModulePath) : (processorEvents read process path).filterMap kind = [] := by
  refine List.filterMap_eq_nil_iff.mpr fun event hevent => ?_
  unfold processorEvents at hevent
  split at hevent
  · exact absurd hevent List.not_mem_nil
  · next text _ =>
    obtain ⟨statement, rfl⟩ := h path text event hevent
    exact hkind statement path

namespace Action

@[simp] theorem events_logged_cons (event : Event) (later : List Action) :
    events (.logged event :: later) = event :: events later := rfl

@[simp] theorem events_read_cons (path : ModulePath) (later : List Action) : events (.read path :: later) = events later :=
  rfl

@[simp] theorem events_append (first later : List Action) : events (first ++ later) = events first ++ events later :=
  List.filterMap_append

@[simp] theorem events_map_logged (reported : List Event) : events (reported.map .logged) = reported := by
  rw [events, List.filterMap_map]
  exact List.filterMap_some

end Action

/-- The events of an opening: first the reading, last what came of it, and between them those of the processor. -/
theorem events_openingActions (hload : load read process path = .ok record) :
    Action.events (openingActions read process path) =
      .reading path :: (processorEvents read process path ++ [.rewrote path record.dependencies.length]) := by
  obtain ⟨text, processed, hread, hprocess, -, hdependencies⟩ := load_eq_ok_iff.mp hload
  simp only [openingActions, processorEvents, hread, hprocess, Action.events_logged_cons, Action.events_read_cons,
    Action.events_append, Action.events_map_logged, hdependencies, List.length_map]
  rfl

/-- Of an event that tells of no module that was passed over, the walk has reported what its openings report. -/
theorem filterMap_events_examinations {α : Type} {kind : Event → Option α}
    (hkind : ∀ path, kind (.alreadyVisited path) = none) (examined : List Examination) :
    (Action.events (examined.flatMap (Examination.actions read process))).filterMap kind =
      (foundBy examined).flatMap fun path => (Action.events (openingActions read process path)).filterMap kind := by
  induction examined with
  | nil => rfl
  | cons x later ih =>
    rw [List.flatMap_cons, Action.events_append, List.filterMap_append, ih]
    cases hnew : x.isNew with
    | true => simp [Examination.actions, foundBy, hnew]
    | false => simp [Examination.actions, foundBy, hnew, Action.events, hkind]

/-- One module is passed over for every examination of what is not new; what the processor reports itself comes on top. -/
theorem length_alreadyVisited_examinations (examined : List Examination) :
    ((Action.events (examined.flatMap (Examination.actions read process))).filterMap Event.alreadyVisited?).length =
      (examined.filter (!·.isNew)).length + ((foundBy examined).map fun path =>
        ((Action.events (openingActions read process path)).filterMap Event.alreadyVisited?).length).sum := by
  induction examined with
  | nil => rfl
  | cons x later ih =>
    rw [List.flatMap_cons, Action.events_append, List.filterMap_append, List.length_append, ih]
    cases hnew : x.isNew with
    | true =>
      simp [Examination.actions, foundBy, hnew]
      omega
    | false =>
      simp [Examination.actions, foundBy, hnew, Action.events, Event.alreadyVisited?]
      omega

theorem length_filter_isNew (examined : List Examination) :
    (examined.filter (!·.isNew)).length + (foundBy examined).length = examined.length := by
  rw [foundBy, List.length_map, Nat.add_comm]
  exact (List.length_eq_length_filter_add Examination.isNew).symm

namespace Walk.Watch.Accounts

variable {t : Walk.Watch}

/-- A walk reports of its modules, in the order of their records, what their openings report. -/
theorem filterMap_events {α : Type} {kind : Event → Option α} (h : t.Accounts read process entry modules records)
    (hkind : ∀ path, kind (.alreadyVisited path) = none) :
    (Action.events t.walk.trace.reverse).filterMap kind =
      records.flatMap fun r => (Action.events (openingActions read process r.1)).filterMap kind := by
  calc (Action.events t.walk.trace.reverse).filterMap kind
      = (entry :: foundBy t.examined).flatMap fun path =>
          (Action.events (openingActions read process path)).filterMap kind := by
        rw [h.traced, Action.events_append, List.filterMap_append, filterMap_events_examinations hkind, List.flatMap_cons]
    _ = _ := by rw [← h.found, List.flatMap_map]

theorem length_alreadyVisited (h : t.Accounts read process entry modules records) :
    ((Action.events t.walk.trace.reverse).filterMap Event.alreadyVisited?).length =
      (t.examined.filter (!·.isNew)).length +
        (records.map fun r => ((processorEvents read process r.1).filterMap Event.alreadyVisited?).length).sum := by
  have hopenings : (records.map fun r => ((processorEvents read process r.1).filterMap Event.alreadyVisited?).length) =
      (entry :: foundBy t.examined).map fun path =>
        ((Action.events (openingActions read process path)).filterMap Event.alreadyVisited?).length := by
    rw [← h.found, List.map_map]
    refine List.map_congr_left fun r hr => ?_
    rw [Function.comp_apply, events_openingActions (h.loaded r.1 r.2 hr)]
    simp [List.filterMap_cons, Event.alreadyVisited?]
  rw [h.traced, Action.events_append, List.filterMap_append, List.length_append, length_alreadyVisited_examinations,
    hopenings, List.map_cons, List.sum_cons]
  omega

/-- The modules are read in the order of their records. -/
theorem reading_events (h : t.Accounts read process entry modules records) :
    (Action.events t.walk.trace.reverse).filterMap Event.reading? =
      records.flatMap fun r => r.1 :: (processorEvents read process r.1).filterMap Event.reading? := by
  rw [h.filterMap_events fun _ => rfl]
  refine List.flatMap_congr fun r hr => ?_
  rw [events_openingActions (h.loaded r.1 r.2 hr)]
  simp [List.filterMap_cons, Event.reading?]

/-- And they are rewritten in this order. -/
theorem rewrote_events (h : t.Accounts read process entry modules records) :
    (Action.events t.walk.trace.reverse).filterMap Event.rewrote? =
      records.flatMap fun r => (processorEvents read process r.1).filterMap Event.rewrote? ++
        [(r.1, r.2.dependencies.length)] := by
  rw [h.filterMap_events fun _ => rfl]
  refine List.flatMap_congr fun r hr => ?_
  rw [events_openingActions (h.loaded r.1 r.2 hr)]
  simp [List.filterMap_cons, Event.rewrote?]

/-- At the end nothing waits, so all that is imported was examined. -/
theorem length_passed (h : t.Accounts read process entry modules records) (hframes : t.walk.frames = []) :
    (t.examined.filter (!·.isNew)).length + records.length = (records.map (·.2.dependencies.length)).sum + 1 := by
  have hconserved := h.conserved
  rw [hframes, List.map_nil, List.sum_nil] at hconserved
  have hrecords := congrArg List.length h.found
  rw [List.length_map, List.length_cons] at hrecords
  have hexamined := length_filter_isNew t.examined
  omega

end Walk.Watch.Accounts

/--
**Every import is examined once.**

Let a walk from an entry that is not in the map succeed. It can be watched to its end, and then the new modules are listed
after the old ones: the entry, and what examinations have led to. What was examined of each new module are its imports, every
occurrence once and in order, and nothing else was examined. An import is new exactly if it was in the map neither before the
walk nor after the examinations before it; it is opened if it is new and else passed over, and the walk does nothing besides.

So the imports passed over are the imports of all new modules less the new modules other than the entry, and the events that
tell of a module being read or rewritten list the new modules in discovery order. What the processor reports itself stands
between the two events of its module; it adds nothing to these numbers and lists if all it reports is what it left untouched,
as is so for scripts (`Script.reportsOnlyUntouched_processor`).
-/
theorem imports_examined_once (read : ModulePath → Except Failure String) (process : Processor) (entry : ModulePath)
    (modules : ModuleMap) (hnew : modules.contains entry = false) :
    ∀ final actions, modules.extend? read process entry = some (final, actions, .ok ()) →
      ∃ (watch : Walk.Watch) (records : List (ModulePath × ModuleRecord)),
        modules.Watched read process entry watch (some (.ok ())) ∧ watch.walk.modules = final ∧
        final.discoveryOrder = modules.discoveryOrder ++ records ∧ (records.map Prod.fst).Nodup ∧
        records.map Prod.fst = entry :: foundBy watch.examined ∧
        (∀ path record, (path, record) ∈ records →
          load read process path = .ok record ∧ examinedOf path watch.examined = record.dependencies) ∧
        (∀ x ∈ watch.examined, x.importer ∈ records.map Prod.fst) ∧
        (∀ before x, before ++ [x] <+: watch.examined →
          (x.isNew = true ↔ x.imported ∉ modules.paths ++ entry :: foundBy before)) ∧
        actions = openingActions read process entry ++ watch.examined.flatMap (Examination.actions read process) ∧
        (watch.examined.filter (!·.isNew)).length + records.length =
          (records.map (·.2.dependencies.length)).sum + 1 ∧
        ((Action.events actions).filterMap Event.alreadyVisited?).length + records.length =
          (records.map (·.2.dependencies.length)).sum + 1 +
            (records.map fun r => ((processorEvents read process r.1).filterMap Event.alreadyVisited?).length).sum ∧
        (Action.events actions).filterMap Event.reading? =
          records.flatMap (fun r => r.1 :: (processorEvents read process r.1).filterMap Event.reading?) ∧
        (Action.events actions).filterMap Event.rewrote? =
          records.flatMap (fun r => (processorEvents read process r.1).filterMap Event.rewrote? ++
            [(r.1, r.2.dependencies.length)]) ∧
        (process.ReportsOnlyUntouched →
          ((Action.events actions).filterMap Event.alreadyVisited?).length + records.length =
            (records.map (·.2.dependencies.length)).sum + 1 ∧
          (Action.events actions).filterMap Event.reading? = records.map Prod.fst ∧
          (Action.events actions).filterMap Event.rewrote? = records.map fun r => (r.1, r.2.dependencies.length)) := by
  intro final actions hextend
  obtain ⟨w, result, hpasses, hanswer⟩ := ModuleMap.passes_of_extend? hextend
  obtain ⟨rfl, rfl, rfl⟩ : final = w.modules ∧ actions = w.trace.reverse ∧ .ok () = result := by
    simpa [Walk.answer] using hanswer
  have hok : ∀ failure, (some (.ok ()) : Option (Except Failure Unit)) ≠ some (.error failure) := by simp
  obtain ⟨watch, hwatched, rfl⟩ := ModuleMap.exists_watched hnew hpasses hok
  obtain ⟨records, haccounts⟩ := hwatched.accounts hok
  have hpassed := haccounts.length_passed hwatched.frames_eq_nil
  have hvisited := haccounts.length_alreadyVisited
  have hread := haccounts.reading_events
  have hrewrote := haccounts.rewrote_events
  refine ⟨watch, records, hwatched, rfl, haccounts.listed, haccounts.distinct, haccounts.found, fun path record hmem => ?_,
    haccounts.importers, haccounts.sound, haccounts.traced, hpassed, ?_, hread, hrewrote, fun honly => ?_⟩
  · have hshares := haccounts.shares path record hmem
    rw [hwatched.frames_eq_nil, Walk.waitingOf, List.zip_nil_right] at hshares
    exact ⟨haccounts.loaded path record hmem, (List.append_nil _).symm.trans hshares⟩
  · rw [hvisited, ← hpassed]
    omega
  · refine ⟨?_, ?_, ?_⟩
    · rw [hvisited, ← hpassed]
      simp [honly.filterMap_eq_nil Event.alreadyVisited? fun _ _ => rfl]
    · rw [hread, List.map_eq_flatMap]
      simp [honly.filterMap_eq_nil Event.reading? fun _ _ => rfl]
    · rw [hrewrote, List.map_eq_flatMap]
      simp [honly.filterMap_eq_nil Event.rewrote? fun _ _ => rfl]

/-- Two modules that import each other and a third that is known: one import is followed, and the other three are passed
over. -/
theorem imports_examined_once_ring :
    Ring.before.contains Ring.main = false ∧
    ∃ final actions, ∃ (watch : Walk.Watch) (records : List (ModulePath × ModuleRecord)),
      Ring.before.extend? Ring.store.read Ring.processor Ring.main = some (final, actions, .ok ()) ∧
      Ring.before.Watched Ring.store.read Ring.processor Ring.main watch (some (.ok ())) ∧ watch.walk.modules = final ∧
      records.map Prod.fst = [Ring.main, Ring.lib] ∧ foundBy watch.examined = [Ring.lib] ∧
      (watch.examined.filter (!·.isNew)).length + records.length =
        (records.map (·.2.dependencies.length)).sum + 1 ∧
      (Action.events actions).filterMap Event.alreadyVisited? = [Ring.main, Ring.known, Ring.known] ∧
      Ring.processor.ReportsOnlyUntouched ∧
      (Action.events actions).filterMap Event.reading? = [Ring.main, Ring.lib] := by
  have hnew : Ring.before.contains Ring.main = false := by decide
  have hrun : (Ring.before.extend? Ring.store.read Ring.processor Ring.main).map
      (fun d => (d.1.paths, (Action.events d.2.1).filterMap Event.alreadyVisited?, d.2.2)) =
      some ([Ring.known, Ring.main, Ring.lib], [Ring.main, Ring.known, Ring.known], .ok ()) := by
    cbv
  obtain ⟨⟨final, actions, result⟩, hextend, hfinal⟩ := Option.map_eq_some_iff.mp hrun
  obtain ⟨hpaths, hrest⟩ := Prod.mk.inj hfinal
  obtain ⟨hvisited, rfl⟩ := Prod.mk.inj hrest
  have honly : Ring.processor.ReportsOnlyUntouched := fun path text event hevent => absurd hevent List.not_mem_nil
  obtain ⟨watch, records, hwatched, hmodules, hlisted, -, hfound, -, -, -, -, hpassed, -, -, -, hplain⟩ :=
    imports_examined_once Ring.store.read Ring.processor Ring.main Ring.before hnew final actions hextend
  have hrecords : [Ring.known] ++ records.map Prod.fst = [Ring.known, Ring.main, Ring.lib] := by
    rw [← hpaths, ModuleMap.paths, hlisted, List.map_append]
    rfl
  have hkeys : records.map Prod.fst = [Ring.main, Ring.lib] := List.append_cancel_left hrecords
  refine ⟨hnew, final, actions, watch, records, hextend, hwatched, hmodules, hkeys, ?_, hpassed, hvisited, honly,
    hkeys ▸ (hplain honly).2.1⟩
  rw [hkeys] at hfound
  exact (List.cons.inj hfound).2.symm

end Bundler
