import Bundler.Proofs.Graph.Reads

/-!
# Walks that mirror each other

Two walks in different worlds take the same turns if opening a module shows in the other world as opening its image:
with the same code, with the images of its imports, or with the image of its failure. `Mirror` says what is an image,
`Mirror.Shows` that a module shows as its image, and `Mirror.extend?_eq_some` that a walk shows as a whole as soon as every
module does that it reads. Nothing is asked of the modules that it does not read.

* `extend?_congr` — what is not read has no influence: the case in which everything is its own image

A module is passed over in one world exactly if its image is in the other, so images must not fall together. They may
do so far away: a mirror has a region that the walk does not leave.
-/

namespace Bundler

/-! ## Images of maps -/

/-- The record with other paths for its dependencies. -/
def ModuleRecord.map (f : ModulePath → ModulePath) (record : ModuleRecord) : ModuleRecord :=
  { record with dependencies := record.dependencies.map f }

/-- The map with other paths for its modules and for all that they import. -/
def ModuleMap.map (f : ModulePath → ModulePath) (modules : ModuleMap) : ModuleMap :=
  ⟨modules.latestFirst.map fun (path, record) => (f path, record.map f)⟩

theorem ModuleRecord.map_id (record : ModuleRecord) : record.map id = record := by
  rw [map, List.map_id]

namespace ModuleMap

variable {f : ModulePath → ModulePath} {modules : ModuleMap} {path : ModulePath}

theorem map_id (modules : ModuleMap) : modules.map id = modules := by
  simp only [map, ModuleRecord.map_id]
  exact congrArg mk (List.map_id _)

theorem discoveryOrder_map (f : ModulePath → ModulePath) (modules : ModuleMap) :
    (modules.map f).discoveryOrder = modules.discoveryOrder.map fun (path, record) => (f path, record.map f) :=
  List.map_reverse.symm

theorem paths_map (f : ModulePath → ModulePath) (modules : ModuleMap) :
    (modules.map f).paths = modules.paths.map f := by
  rw [paths, paths, discoveryOrder_map, List.map_map, List.map_map]
  rfl

/-- The image of a path is in the image of a map only if the path is in the map. -/
theorem contains_map (hinj : ∀ other ∈ modules.paths, f other = f path → other = path) :
    (modules.map f).contains (f path) = modules.contains path := by
  rw [Bool.eq_iff_iff, contains_iff_mem_paths, contains_iff_mem_paths, paths_map, List.mem_map]
  constructor
  · rintro ⟨other, hother, heq⟩
    exact hinj other hother heq ▸ hother
  · exact fun hmem => ⟨path, hmem, rfl⟩

theorem map_insert (record : ModuleRecord) (hnew : modules.contains path = false)
    (hinj : ∀ other ∈ modules.paths, f other = f path → other = path) :
    (modules.insert path record).map f = (modules.map f).insert (f path) (record.map f) := by
  have hnew' : (modules.map f).contains (f path) = false := by rw [contains_map hinj, hnew]
  rw [insert, insert, if_neg (by simp [hnew]), if_neg (by simp [hnew'])]
  rfl

end ModuleMap

/-! ## Mirrors -/

/-- What one world shows of another: an image for every path and every failure, and what is seen of an action on both
sides. -/
structure Mirror (Seen : Type) where
  path : ModulePath → ModulePath
  failure : Failure → Failure
  /-- What is seen of an action of the mirrored walk. -/
  seen : Action → Option Seen
  /-- What is seen of an action of the walk in the mirror. -/
  seenThere : Action → Option Seen
  /-- Where no two paths have the same image. -/
  region : ModulePath → Prop
  injOn : ∀ {x y}, region x → region y → path x = path y → x = y
  skip : ∀ x, seenThere (.logged (.alreadyVisited (path x))) = seen (.logged (.alreadyVisited x))

namespace Mirror

variable {Seen : Type} (M : Mirror Seen) (read read' : ModulePath → Except Failure String)
  (process process' : Processor)

/-- Opening a module shows as opening its image, and its imports stay in the region. -/
structure Shows (path : ModulePath) : Prop where
  load_eq : load read' process' (M.path path) =
    ((load read process path).map (·.map M.path)).mapError M.failure
  seen_eq : (openingActions read' process' (M.path path)).filterMap M.seenThere =
    (openingActions read process path).filterMap M.seen
  stays : ∀ dependency ∈ importsOf read process path, M.region dependency

variable {M read read' process process'} {path : ModulePath}

theorem Shows.load_of_error (h : M.Shows read read' process process' path) {failure : Failure}
    (hload : load read process path = .error failure) :
    load read' process' (M.path path) = .error (M.failure failure) := by
  rw [h.load_eq, hload]
  rfl

theorem Shows.load_of_ok (h : M.Shows read read' process process' path) {record : ModuleRecord}
    (hload : load read process path = .ok record) :
    load read' process' (M.path path) = .ok (record.map M.path) := by
  rw [h.load_eq, hload]
  rfl

theorem Shows.stays_of_ok (h : M.Shows read read' process process' path) {record : ModuleRecord}
    (hload : load read process path = .ok record) : ∀ dependency ∈ record.dependencies, M.region dependency := by
  rw [← importsOf_of_load_ok hload]
  exact h.stays

end Mirror

/-! ## Walks in a mirror -/

namespace Mirror

variable {Seen : Type} (M : Mirror Seen)

/-- The walk in the mirror, whatever it did so far. -/
def walk (w : Walk) (trace : List Action) : Walk :=
  ⟨w.modules.map M.path, w.frames.map (·.map M.path), trace⟩

/-- Everything that is in the map or waits in a frame is in the region. -/
structure Keeps (w : Walk) : Prop where
  modules : ∀ path ∈ w.modules.paths, M.region path
  frames : ∀ frame ∈ w.frames, ∀ path ∈ frame, M.region path

variable {M} {read read' : ModulePath → Except Failure String} {process process' : Processor}

/-- What comes next is in the region, and so is what comes later. -/
theorem Keeps.innermost {modules : ModuleMap} {path : ModulePath} {rest : List ModulePath}
    {outer : List (List ModulePath)} {trace : List Action} (h : M.Keeps ⟨modules, (path :: rest) :: outer, trace⟩) :
    M.region path ∧ M.Keeps ⟨modules, rest :: outer, trace⟩ := by
  obtain ⟨hframe, houter⟩ := List.forall_mem_cons.mp h.frames
  obtain ⟨hpath, hrest⟩ := List.forall_mem_cons.mp hframe
  exact ⟨hpath, h.modules, List.forall_mem_cons.mpr ⟨hrest, houter⟩⟩

theorem Keeps.entered {modules : ModuleMap} {path : ModulePath} {record : ModuleRecord}
    {outer : List (List ModulePath)} {trace trace' : List Action} (h : M.Keeps ⟨modules, outer, trace⟩)
    (hnew : modules.contains path = false) (hpath : M.region path)
    (hdependencies : ∀ dependency ∈ record.dependencies, M.region dependency) :
    M.Keeps ⟨modules.insert path record, record.dependencies :: outer, trace'⟩ where
  modules := by
    rw [ModuleMap.paths_insert record hnew]
    intro other hother
    rcases List.mem_append.mp hother with hold | hadded
    · exact h.modules other hold
    · rw [List.mem_singleton.mp hadded]
      exact hpath
  frames := List.forall_mem_cons.mpr ⟨hdependencies, h.frames⟩

/-- No other module of the map has the image of a path of the region. -/
theorem Keeps.eq_of_path_eq {w : Walk} (h : M.Keeps w) {path : ModulePath} (hpath : M.region path) :
    ∀ other ∈ w.modules.paths, M.path other = M.path path → other = path :=
  fun _ hother heq => M.injOn (h.modules _ hother) hpath heq

variable (M read read' process process') in
/-- As far as what a walk reads on its way shows in the mirror, so does the walk. The walk in the mirror may have done
anything before; from there it takes turn after turn with the mirrored one. -/
def ShowsRun (w : Walk) (ended : Walk × Except Failure Unit) : Prop :=
  ∃ actions : List Action, ended.1.trace = actions.reverse ++ w.trace ∧
    (M.Keeps w → (∀ path ∈ Action.reads actions, M.region path → M.Shows read read' process process' path) →
      ∀ trace, ∃ actions' : List Action,
        (M.walk w trace).run? read' process' =
          some (M.walk ended.1 (actions'.reverse ++ trace), ended.2.mapError M.failure) ∧
        actions'.filterMap M.seenThere = actions.filterMap M.seen)

namespace ShowsRun

variable {modules : ModuleMap} {path : ModulePath} {rest : List ModulePath} {outer : List (List ModulePath)}
  {before : List Action} {ended : Walk × Except Failure Unit}

theorem finished : M.ShowsRun read read' process process' ⟨modules, [], before⟩ (⟨modules, [], before⟩, .ok ()) :=
  ⟨[], rfl, fun _ _ _ => ⟨[], Walk.run?_of_end Walk.step_finished, rfl⟩⟩

theorem left (h : M.ShowsRun read read' process process' ⟨modules, outer, before⟩ ended) :
    M.ShowsRun read read' process process' ⟨modules, [] :: outer, before⟩ ended := by
  obtain ⟨actions, htrace, h⟩ := h
  refine ⟨actions, htrace, fun hkeeps hshows trace => ?_⟩
  obtain ⟨actions', hrun, hseen⟩ := h ⟨hkeeps.modules, (List.forall_mem_cons.mp hkeeps.frames).2⟩ hshows trace
  exact ⟨actions', (Walk.run?_of_step Walk.step_left).trans hrun, hseen⟩

theorem passed (hmem : modules.contains path = true)
    (h : M.ShowsRun read read' process process'
      ⟨modules, rest :: outer, .logged (.alreadyVisited path) :: before⟩ ended) :
    M.ShowsRun read read' process process' ⟨modules, (path :: rest) :: outer, before⟩ ended := by
  obtain ⟨actions, htrace, h⟩ := h
  refine ⟨.logged (.alreadyVisited path) :: actions, by simp [htrace], fun hkeeps hshows trace => ?_⟩
  obtain ⟨hpath, hrest⟩ := hkeeps.innermost
  have hmem' : (modules.map M.path).contains (M.path path) = true := by
    rw [ModuleMap.contains_map (hkeeps.eq_of_path_eq hpath), hmem]
  obtain ⟨actions', hrun, hseen⟩ :=
    h ⟨hrest.modules, hrest.frames⟩ hshows (.logged (.alreadyVisited (M.path path)) :: trace)
  refine ⟨.logged (.alreadyVisited (M.path path)) :: actions', ?_, ?_⟩
  · rw [List.reverse_cons, List.append_assoc]
    exact (Walk.run?_of_step (Walk.step_passed hmem')).trans hrun
  · rw [List.filterMap_cons, List.filterMap_cons, M.skip, hseen]

theorem failed {failure : Failure} (hnew : modules.contains path = false)
    (hload : load read process path = .error failure) :
    M.ShowsRun read read' process process' ⟨modules, (path :: rest) :: outer, before⟩
      (⟨modules, rest :: outer, (openingActions read process path).reverse ++ before⟩, .error failure) := by
  refine ⟨openingActions read process path, rfl, fun hkeeps hshows trace => ?_⟩
  obtain ⟨hpath, -⟩ := hkeeps.innermost
  have hshow := hshows path (by simp [reads_openingActions]) hpath
  have hnew' : (modules.map M.path).contains (M.path path) = false := by
    rw [ModuleMap.contains_map (hkeeps.eq_of_path_eq hpath), hnew]
  exact ⟨openingActions read' process' (M.path path),
    Walk.run?_of_end (Walk.step_failed hnew' (hshow.load_of_error hload)), hshow.seen_eq⟩

theorem entered {record : ModuleRecord} (hnew : modules.contains path = false)
    (hload : load read process path = .ok record)
    (h : M.ShowsRun read read' process process' ⟨modules.insert path record, record.dependencies :: rest :: outer,
      (openingActions read process path).reverse ++ before⟩ ended) :
    M.ShowsRun read read' process process' ⟨modules, (path :: rest) :: outer, before⟩ ended := by
  obtain ⟨actions, htrace, h⟩ := h
  refine ⟨openingActions read process path ++ actions, by simp [htrace], fun hkeeps hshows trace => ?_⟩
  simp only [Action.reads_append, reads_openingActions, List.singleton_append, List.forall_mem_cons] at hshows
  obtain ⟨hpath, hrest⟩ := hkeeps.innermost
  have hshow := hshows.1 hpath
  have hinj := hkeeps.eq_of_path_eq hpath
  have hnew' : (modules.map M.path).contains (M.path path) = false := by
    rw [ModuleMap.contains_map hinj, hnew]
  obtain ⟨actions', hrun, hseen⟩ := h (hrest.entered hnew hpath (hshow.stays_of_ok hload)) hshows.2
    ((openingActions read' process' (M.path path)).reverse ++ trace)
  rw [walk, ModuleMap.map_insert record hnew hinj] at hrun
  refine ⟨openingActions read' process' (M.path path) ++ actions', ?_, ?_⟩
  · rw [List.reverse_append, List.append_assoc]
    exact (Walk.run?_of_step (Walk.step_entered hnew' (hshow.load_of_ok hload))).trans hrun
  · rw [List.filterMap_append, List.filterMap_append, hshow.seen_eq, hseen]

end ShowsRun

/-- **A walk shows in a mirror if every module shows that it reads.** -/
theorem showsRun_of_run? {w : Walk} {ended : Walk × Except Failure Unit} (h : w.run? read process = some ended) :
    M.ShowsRun read read' process process' w ended :=
  Walk.run?_induction (fun _ _ => .finished) (fun _ _ _ _ ih => ih.left) (fun _ _ _ _ _ _ hmem ih => ih.passed hmem)
    (fun _ _ _ _ _ _ hnew hload => .failed hnew hload) (fun _ _ _ _ _ _ _ hnew hload ih => ih.entered hnew hload) h

variable {modules final : ModuleMap} {entry : ModulePath} {actions : List Action} {result : Except Failure Unit}

/-- **From an entry of the region a walk shows as the walk from the image of the entry.** -/
theorem extend?_eq_some (h : modules.extend? read process entry = some (final, actions, result))
    (hmodules : ∀ path ∈ modules.paths, M.region path) (hentry : M.region entry)
    (hshows : ∀ path ∈ Action.reads actions, M.region path → M.Shows read read' process process' path) :
    ∃ actions', (modules.map M.path).extend? read' process' (M.path entry) =
        some (final.map M.path, actions', result.mapError M.failure) ∧
      actions'.filterMap M.seenThere = actions.filterMap M.seen := by
  have hinj : ∀ other ∈ modules.paths, M.path other = M.path entry → other = entry :=
    fun other hother heq => M.injOn (hmodules other hother) hentry heq
  have hsame : (modules.map M.path).contains (M.path entry) = modules.contains entry := ModuleMap.contains_map hinj
  by_cases hseen : modules.contains entry = true
  · rw [ModuleMap.extend?_of_contains hseen] at h
    obtain ⟨rfl, rfl, rfl⟩ := by simpa using h
    exact ⟨[], ModuleMap.extend?_of_contains (hsame.trans hseen), rfl⟩
  rw [Bool.not_eq_true] at hseen
  have hnew := hsame.trans hseen
  cases hload : load read process entry with
  | error failure =>
    rw [ModuleMap.extend?_of_load_error hseen hload] at h
    obtain ⟨rfl, rfl, rfl⟩ := by simpa using h
    have hshow := hshows entry (by simp [reads_openingActions]) hentry
    exact ⟨_, ModuleMap.extend?_of_load_error hnew (hshow.load_of_error hload), hshow.seen_eq⟩
  | ok record =>
    rw [ModuleMap.extend?_of_load_ok hseen hload] at h
    obtain ⟨ended, hrun, hanswer⟩ := Option.map_eq_some_iff.mp h
    have hrunShows : M.ShowsRun read read' process process' _ ended := showsRun_of_run? hrun
    obtain ⟨later, htrace, hmirror⟩ := hrunShows
    obtain ⟨rfl, rfl, rfl⟩ := by simpa [Walk.answer, htrace] using hanswer
    simp only [Action.reads_append, reads_openingActions, List.singleton_append, List.forall_mem_cons] at hshows
    have hshow := hshows.1 hentry
    have hstart : M.Keeps ⟨modules, [], []⟩ := ⟨hmodules, by simp⟩
    obtain ⟨later', hrun', hseen'⟩ := hmirror (hstart.entered hseen hentry (hshow.stays_of_ok hload)) hshows.2
      (openingActions read' process' (M.path entry)).reverse
    rw [walk, ModuleMap.map_insert record hseen hinj] at hrun'
    refine ⟨openingActions read' process' (M.path entry) ++ later', ?_, ?_⟩
    · rw [ModuleMap.extend?_of_load_ok hnew (hshow.load_of_ok hload)]
      refine (congrArg (Option.map Walk.answer) hrun').trans ?_
      simp [Walk.answer, walk]
    · rw [List.filterMap_append, List.filterMap_append, hshow.seen_eq, hseen']

end Mirror

/-! ## What is not read has no influence -/

section

variable {read read' : ModulePath → Except Failure String} {process : Processor} {path entry : ModulePath}

theorem load_congr (h : read' path = read path) : load read' process path = load read process path := by
  rw [load, load, h]

theorem openingActions_congr (h : read' path = read path) :
    openingActions read' process path = openingActions read process path := by
  rw [openingActions, openingActions, h]

/-- Everything is its own image, and all of an action is seen. -/
def Mirror.identity : Mirror Action where
  path := id
  failure := id
  seen := some
  seenThere := some
  region := fun _ => True
  injOn := fun _ _ heq => heq
  skip := fun _ => rfl

theorem Mirror.shows_identity (h : read' path = read path) :
    identity.Shows read read' process process path where
  load_eq := by
    show load read' process path = _
    rw [load_congr h]
    cases load read process path with
    | error failure => rfl
    | ok record => exact congrArg Except.ok record.map_id.symm
  seen_eq := congrArg (List.filterMap some) (openingActions_congr h)
  stays := fun _ _ => trivial

/-- **What a walk does not read has no influence on it.** -/
theorem extend?_congr {modules : ModuleMap} {d : ModuleMap × List Action × Except Failure Unit}
    (h : modules.extend? read process entry = some d) (hagree : ∀ path ∈ Action.reads d.2.1, read' path = read path) :
    modules.extend? read' process entry = some d := by
  obtain ⟨final, actions, result⟩ := d
  obtain ⟨actions', hextend, hseen⟩ := Mirror.identity.extend?_eq_some h (fun _ _ => trivial) trivial
    fun path hpath _ => Mirror.shows_identity (hagree path hpath)
  have hactions : actions' = actions := by simpa [Mirror.identity] using hseen
  have hresult : result.mapError id = result := by cases result <;> rfl
  change (modules.map id).extend? read' process entry = some (final.map id, actions', result.mapError id) at hextend
  rwa [ModuleMap.map_id, ModuleMap.map_id, hactions, hresult] at hextend

end

end Bundler
