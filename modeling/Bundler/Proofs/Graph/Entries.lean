import Bundler.Proofs.Graph.Mirror

/-!
# Walks from several entries

A walk stops at what an earlier walk has found, and nothing is lost by that if the earlier one has succeeded: then what
the modules of the map import is in the map too. `ModuleMap.Settled` says this of a map. A walk that succeeds keeps it,
and adds to the paths what is reached from the entry, whether or not the way to it leads through the old ones.

* `extend?_comm` — two entries may be walked from in either order: either order succeeds if the other one does, and both
  find the same modules

The second walk of the other order may take another way, so that it succeeds has to be shown by itself. It can meet no
module without a record, because all that it reaches was recorded by the first order; and it ends because these modules
are finitely many. The store may well have infinitely many others.
-/

namespace Bundler

variable {read : ModulePath → Except Failure String} {process : Processor} {path entry : ModulePath}
  {modules modules' : ModuleMap}

/-! ## Maps that leave nothing open -/

/-- Each path of the map is there once, with the record of its module, and what a module imports is in the map too. -/
structure ModuleMap.Settled (read : ModulePath → Except Failure String) (process : Processor) (modules : ModuleMap) :
    Prop where
  nodup : modules.paths.Nodup
  recorded : ∀ path record, (path, record) ∈ modules.discoveryOrder → load read process path = .ok record
  closed : ∀ path ∈ modules.paths, ∀ dependency ∈ importsOf read process path, dependency ∈ modules.paths

namespace ModuleMap.Settled

theorem empty : ModuleMap.empty.Settled read process where
  nodup := List.nodup_nil
  recorded := fun _ _ hmem => absurd hmem List.not_mem_nil
  closed := fun _ hmem => absurd hmem List.not_mem_nil

/-- The map is known by its paths. -/
theorem mem_discoveryOrder_iff (h : modules.Settled read process) {record : ModuleRecord} :
    (path, record) ∈ modules.discoveryOrder ↔ load read process path = .ok record ∧ path ∈ modules.paths := by
  constructor
  · exact fun hmem => ⟨h.recorded path record hmem, List.mem_map_of_mem hmem⟩
  · rintro ⟨hload, hmem⟩
    obtain ⟨⟨_, other⟩, hother, rfl⟩ := List.mem_map.mp hmem
    rw [h.recorded _ other hother] at hload
    exact Except.ok.inj hload ▸ hother

theorem load_of_mem (h : modules.Settled read process) (hmem : path ∈ modules.paths) :
    ∃ record, load read process path = .ok record := by
  obtain ⟨⟨_, record⟩, hrecord, rfl⟩ := List.mem_map.mp hmem
  exact ⟨record, h.recorded _ record hrecord⟩

/-- Imports lead to nothing outside the map. -/
theorem mem_of_reached (h : modules.Settled read process) (hentry : entry ∈ modules.paths) {seen : List ModulePath}
    (hreached : ReachedOutside (importsOf read process) seen entry path) : path ∈ modules.paths := by
  induction hreached with
  | start _ => exact hentry
  | step _ hxy _ ih => exact h.closed _ ih _ hxy

/-- Maps with the same paths are the same but for the order. -/
theorem perm (h : modules.Settled read process) (h' : modules'.Settled read process)
    (hpaths : ∀ path, path ∈ modules.paths ↔ path ∈ modules'.paths) :
    modules.discoveryOrder.Perm modules'.discoveryOrder := by
  refine (List.perm_ext_iff_of_nodup h.nodup.of_map h'.nodup.of_map).mpr ?_
  rintro ⟨path, record⟩
  rw [h.mem_discoveryOrder_iff, h'.mem_discoveryOrder_iff, hpaths]

end ModuleMap.Settled

/-! ## One walk more -/

/-- What is added in pre-order to a map that leaves nothing open leaves nothing open. -/
theorem Adds.settled {order : List ModulePath} (hadds : Adds read process modules order modules')
    (horder : DepthFirst (importsOf read process) modules.paths [entry] order) (h : modules.Settled read process) :
    modules'.Settled read process where
  nodup := by
    rw [hadds.paths_eq]
    exact List.nodup_append'.mpr
      ⟨h.nodup, horder.nodup, fun path hold hadded => horder.not_mem_seen path hadded hold⟩
  recorded := by
    obtain ⟨added, hfinal, -, hload⟩ := hadds
    intro path record hmem
    rw [hfinal] at hmem
    rcases List.mem_append.mp hmem with hold | hadded
    · exact h.recorded path record hold
    · exact hload _ hadded
  closed := by
    rw [hadds.paths_eq]
    simp only [List.mem_append]
    rintro path (hold | hadded) dependency hdependency
    · exact Or.inl (h.closed path hold dependency hdependency)
    · exact horder.closed path hadded dependency hdependency

namespace ModuleMap.Settled

variable {actions : List Action}

/-- **A walk that succeeds leaves nothing open, and adds what is reached from its entry.** -/
theorem extend? (h : modules.Settled read process)
    (hextend : modules.extend? read process entry = some (modules', actions, .ok ())) :
    modules'.Settled read process ∧
      ∀ path, path ∈ modules'.paths ↔
        path ∈ modules.paths ∨ ReachedOutside (importsOf read process) [] entry path := by
  cases followsPreorder_of_extend? hextend with
  | @ok order _ _ horder hadds =>
    have hpaths := hadds.paths_eq
    have hsettled := hadds.settled horder h
    refine ⟨hsettled, fun path => ⟨fun hmem => ?_, fun hmem => ?_⟩⟩
    · rw [hpaths] at hmem
      refine (List.mem_append.mp hmem).imp_right fun hadded => ?_
      exact (horder.mem_iff.mp hadded).mono fun _ hnone => absurd hnone List.not_mem_nil
    · rcases hmem with hold | hreached
      · rw [hpaths]
        exact List.mem_append_left _ hold
      · refine hsettled.mem_of_reached ?_ hreached
        rw [hpaths]
        exact List.mem_append.mpr (horder.covers entry (List.mem_singleton.mpr rfl))

end ModuleMap.Settled

/-! ## Walks that stay inside a map -/

/-- A store in which nothing but the listed paths can be read. -/
def Sources.only (read : ModulePath → Except Failure String) (paths : List ModulePath) : Sources where
  read := fun path => if path ∈ paths then read path else .error (.moduleRead path.toPath .noSuchEntry)
  candidates := paths
  mem_candidates := by
    intro path text h
    by_contra hmem
    simp [hmem] at h

namespace Sources

variable {paths : List ModulePath}

theorem read_only_of_mem (h : path ∈ paths) : (only read paths).read path = read path :=
  if_pos h

/-- Where less can be read, modules import less. -/
theorem importsOf_only (h : importsOf (only read paths).read process path ≠ []) :
    importsOf (only read paths).read process path = importsOf read process path := by
  have hmem : path ∈ paths := mem_candidates_of_imports h
  rw [importsOf, importsOf, load_congr (read_only_of_mem hmem)]

theorem reached_of_only {seen : List ModulePath}
    (h : ReachedOutside (importsOf (only read paths).read process) seen entry path) :
    ReachedOutside (importsOf read process) seen entry path := by
  induction h with
  | start hnew => exact .start hnew
  | @step x y _ hxy hnew ih => exact .step ih (importsOf_only (List.ne_nil_of_mem hxy) ▸ hxy) hnew

end Sources

namespace ModuleMap.Settled

/-- A walk that stays inside such a map cannot fail. -/
theorem result_of_only (h : modules.Settled read process) (hentry : entry ∈ modules.paths) {start : ModuleMap}
    {d : Descent} (hextend : start.extend? (Sources.only read modules.paths).read process entry = some d) :
    d.2.2 = .ok () := by
  cases followsPreorder_of_extend? hextend with
  | ok _ _ => rfl
  | @error before path _ _ failure hbefore hload _ =>
    have hfinite : ∀ path, importsOf (Sources.only read modules.paths).read process path ≠ [] →
        path ∈ (Sources.only read modules.paths).candidates := fun _ himports => mem_candidates_of_imports himports
    obtain ⟨order, horder⟩ := exists_depthFirst hfinite start.paths [entry]
    obtain ⟨after, rfl⟩ := hbefore order horder
    have hreached := horder.mem_iff.mp (List.mem_append_right before List.mem_cons_self)
    have hmem := h.mem_of_reached hentry (Sources.reached_of_only hreached)
    obtain ⟨record, hrecord⟩ := h.load_of_mem hmem
    rw [load_congr (Sources.read_only_of_mem hmem), hrecord] at hload
    simp at hload

/--
**From an entry of a map that leaves nothing open, every walk succeeds.**

Whatever map the walk itself begins with: what it can reach is in the other map, so it has a record, and there are only
finitely many such modules. The walk is found where nothing else can be read, and it never asks for anything else.
-/
theorem exists_extend? (h : modules.Settled read process) (hentry : entry ∈ modules.paths) (start : ModuleMap) :
    ∃ final actions, start.extend? read process entry = some (final, actions, .ok ()) := by
  have hsome := start.extend?_eq_some (Sources.only read modules.paths) process entry
  have hresult := h.result_of_only hentry hsome
  generalize start.extend (Sources.only read modules.paths) process entry = d at hsome hresult
  obtain ⟨final, actions, result⟩ := d
  obtain rfl : result = .ok () := hresult
  refine ⟨final, actions, extend?_congr hsome fun path hpath => ?_⟩
  obtain ⟨text, hread⟩ := exists_text_of_mem_reads hsome hpath
  exact (Sources.read_only_of_mem ((Sources.only read modules.paths).mem_candidates hread)).symm

end ModuleMap.Settled

/-! ## Two entries -/

/-- The map holds the record of every module that is reached from one of the entries, and nothing else; from there a walk
from one of the entries reads nothing and changes nothing. -/
structure ModuleMap.HoldsReached (read : ModulePath → Except Failure String) (process : Processor)
    (entries : List ModulePath) (modules : ModuleMap) : Prop where
  records : ∀ path record, (path, record) ∈ modules.discoveryOrder ↔
    load read process path = .ok record ∧ ∃ entry ∈ entries, ReachedOutside (importsOf read process) [] entry path
  again : ∀ entry ∈ entries, modules.extend? read process entry = some (modules, [], .ok ())

/-- A map that leaves nothing open holds what is reached from some entries if it has the paths of that. -/
theorem ModuleMap.Settled.holdsReached (h : modules.Settled read process) {entries : List ModulePath}
    (hpaths : ∀ path, path ∈ modules.paths ↔
      ∃ entry ∈ entries, ReachedOutside (importsOf read process) [] entry path) :
    modules.HoldsReached read process entries where
  records := fun path record => by rw [h.mem_discoveryOrder_iff, hpaths]
  again := fun entry hentry =>
    ModuleMap.extend?_of_contains (ModuleMap.contains_iff_mem_paths.mpr
      ((hpaths entry).mpr ⟨entry, hentry, .start List.not_mem_nil⟩))

/-- What two walks find that succeed one after the other. -/
theorem ModuleMap.settled_of_two {first second : ModulePath} {final : ModuleMap} {actions actions' : List Action}
    (hfirst : ModuleMap.empty.extend? read process first = some (modules, actions, .ok ()))
    (hsecond : modules.extend? read process second = some (final, actions', .ok ())) :
    final.Settled read process ∧ ∀ path, path ∈ final.paths ↔
      ∃ entry ∈ [first, second], ReachedOutside (importsOf read process) [] entry path := by
  obtain ⟨hmodules, hpaths⟩ := Settled.empty.extend? hfirst
  obtain ⟨hfinal, hpathsFinal⟩ := hmodules.extend? hsecond
  refine ⟨hfinal, fun path => ?_⟩
  have hempty : path ∉ ModuleMap.empty.paths := List.not_mem_nil
  rw [hpathsFinal, hpaths, or_iff_right hempty]
  simp

/--
**The order of two entries does not matter.**

Let a walk from one entry into an empty map succeed, and then one from another entry into what it has left. Then the walks
succeed in the other order too, on any store. Either way the modules of the map are those reached from one of the entries,
each with its record, so the two maps differ in their order only. A walk from one of the entries once more reads nothing
and changes nothing.
-/
theorem extend?_comm (read : ModulePath → Except Failure String) (process : Processor) {first second : ModulePath}
    {modules final : ModuleMap} {actions actions' : List Action}
    (hfirst : ModuleMap.empty.extend? read process first = some (modules, actions, .ok ()))
    (hsecond : modules.extend? read process second = some (final, actions', .ok ())) :
    final.HoldsReached read process [first, second] ∧
    ∃ modules' final' done done',
      ModuleMap.empty.extend? read process second = some (modules', done, .ok ()) ∧
      modules'.extend? read process first = some (final', done', .ok ()) ∧
      final'.HoldsReached read process [first, second] ∧
      final'.discoveryOrder.Perm final.discoveryOrder := by
  obtain ⟨hsettled, hpaths⟩ := ModuleMap.settled_of_two hfirst hsecond
  -- the other order stays inside what this one has found
  have hmem : ∀ entry ∈ [first, second], entry ∈ final.paths :=
    fun entry hentry => (hpaths entry).mpr ⟨entry, hentry, .start List.not_mem_nil⟩
  obtain ⟨modules', done, hsecond'⟩ := hsettled.exists_extend? (hmem second (by simp)) .empty
  obtain ⟨final', done', hfirst'⟩ := hsettled.exists_extend? (hmem first (by simp)) modules'
  obtain ⟨hsettled', hpaths'⟩ := ModuleMap.settled_of_two hsecond' hfirst'
  have hswap : ∀ path, (∃ entry ∈ [second, first], ReachedOutside (importsOf read process) [] entry path) ↔
      ∃ entry ∈ [first, second], ReachedOutside (importsOf read process) [] entry path := by
    intro path
    simp [or_comm]
  refine ⟨hsettled.holdsReached hpaths, modules', final', done, done', hsecond', hfirst', ?_, ?_⟩
  · exact hsettled'.holdsReached fun path => (hpaths' path).trans (hswap path)
  · exact hsettled'.perm hsettled fun path => (hpaths' path).trans ((hswap path).trans (hpaths path).symm)

/-! A small world: two entries import a third module, which imports the first of them. -/

namespace Shared

def left : ModulePath := .ofPath (.ofString "/left.js")

def right : ModulePath := .ofPath (.ofString "/right.js")

def own : ModulePath := .ofPath (.ofString "/own.js")

def shared : ModulePath := .ofPath (.ofString "/shared.js")

def store : RecordedStore :=
  ⟨[(left, .ok "left"), (right, .ok "right"), (own, .ok "own"), (shared, .ok "shared")], none⟩

def processor : Processor := fun _ text =>
  ([], .ok ⟨text,
    if text = "left" then ["./shared.js"]
    else if text = "right" then ["./own.js", "./shared.js"]
    else if text = "shared" then ["./left.js"]
    else []⟩)

/-- What a walk from the first entry leaves. -/
def fromLeft : ModuleMap :=
  ⟨[(shared, ⟨"shared", [left]⟩), (left, ⟨"left", [shared]⟩)]⟩

/-- What a walk from the second entry makes of it; it stops at the third module. -/
def fromBoth : ModuleMap :=
  ⟨[(own, ⟨"own", []⟩), (right, ⟨"right", [own, shared]⟩)] ++ fromLeft.latestFirst⟩

end Shared

theorem extend?_comm_shared :
    ∃ final',
      (∃ modules' done done',
        ModuleMap.empty.extend? Shared.store.read Shared.processor Shared.right = some (modules', done, .ok ()) ∧
        modules'.extend? Shared.store.read Shared.processor Shared.left = some (final', done', .ok ())) ∧
      final'.HoldsReached Shared.store.read Shared.processor [Shared.left, Shared.right] ∧
      final'.discoveryOrder.Perm Shared.fromBoth.discoveryOrder := by
  have hfirst : ∃ actions, ModuleMap.empty.extend? Shared.store.read Shared.processor Shared.left =
      some (Shared.fromLeft, actions, .ok ()) := by
    refine Descent.exists_actions ?_
    cbv
  have hsecond : ∃ actions, Shared.fromLeft.extend? Shared.store.read Shared.processor Shared.right =
      some (Shared.fromBoth, actions, .ok ()) := by
    refine Descent.exists_actions ?_
    cbv
  obtain ⟨actions, hfirst⟩ := hfirst
  obtain ⟨actions', hsecond⟩ := hsecond
  obtain ⟨-, modules', final', done, done', hsecond', hfirst', hholds, hperm⟩ :=
    extend?_comm Shared.store.read Shared.processor hfirst hsecond
  exact ⟨final', ⟨modules', done, done', hsecond', hfirst'⟩, hholds, hperm⟩

end Bundler
