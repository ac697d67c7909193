import Bundler.Proofs.Graph.Mirror
import Bundler.Proofs.Path.Resolution
import Bundler.Script.Processor
import Bundler.Store.Memory

/-!
# Moving a project

All files of a project lie below one directory, and its modules import each other by relative specifiers that climb no
higher than this directory. Then it does not matter where the directory is: with its files moved elsewhere, the modules
are found in the same order with the same code, and only their paths have moved (`ModulePath.relocate`).

* `ModulePath.relocate_resolve` — a specifier that stays in the directory leads to the moved place from the moved module
* `MemoryStore.movedFiles` — to move the files of a store in memory
* `extend?_relocate` — the walk from the moved entry is the moved walk

The walk over the moved files mirrors the other one. It may reach places of no module, the directory itself among them,
and fails there in the same way.
-/

namespace Bundler

variable {p q names below : List Name} {m path requester : ModulePath} {specifier : String}

/-! ## Moved places -/

/-- Lies in the directory, at any depth, or is the directory. -/
def ModulePath.Within (p : List Name) (m : ModulePath) : Prop :=
  ∃ names, m = ⟨.root, p ++ names⟩

/-- The place with one directory in place of another; what does not lie in the directory stays where it is. -/
def ModulePath.relocate (p q : List Name) (m : ModulePath) : ModulePath :=
  if m.anchor = .root ∧ p <+: m.names then ⟨.root, q ++ m.names.drop p.length⟩ else m

namespace ModulePath

theorem relocate_append (p q names : List Name) : relocate p q ⟨.root, p ++ names⟩ = ⟨.root, q ++ names⟩ := by
  rw [relocate, if_pos ⟨rfl, List.prefix_append p names⟩, List.drop_left]

theorem relocate_injOn {m n : ModulePath} (hm : m.Within p) (hn : n.Within p)
    (h : m.relocate p q = n.relocate p q) : m = n := by
  obtain ⟨names, rfl⟩ := hm
  obtain ⟨names', rfl⟩ := hn
  rw [relocate_append, relocate_append] at h
  rw [List.append_cancel_left (ModulePath.mk.inj h).2]

end ModulePath

/-! ## Specifiers that stay in the directory -/

/-- How many `..` the normal form of a path begins with. -/
def Path.climbs (p : Path) : Nat :=
  (p.normalize.components.takeWhile (· = .up)).length

/-- A specifier that leads from a module to a place in the directory: it is relative and climbs no higher. -/
structure StaysWithin (p : List Name) (requester : ModulePath) (specifier : String) : Prop where
  relative : (Path.ofString specifier).isAbsolute = false
  climbs : (Path.ofString specifier).climbs ≤ requester.directory.names.length - p.length

instance : Decidable (StaysWithin p requester specifier) :=
  decidable_of_iff (_ ∧ _) ⟨fun h => ⟨h.1, h.2⟩, fun h => ⟨h.1, h.2⟩⟩

theorem Path.climbs_eq {path : Path} {ups : Nat} (h : ModulePath.ofPath path = ⟨.current ups, names⟩) :
    path.climbs = ups := by
  rw [climbs, normalize_eq_toPath, ModulePath.components_toPath, h]
  cases ups with
  | zero => cases names <;> simp [ModulePath.components]
  | succ ups =>
    have hnames : (names.map Component.name).takeWhile (· = .up) = [] := by cases names <;> simp
    simp [ModulePath.components, hnames]

/-- A relative path that does not climb out of the lower directories leads to the same place below the upper ones. -/
theorem Path.location_append {path : Path} (hrelative : path.isAbsolute = false) (hclimbs : path.climbs ≤ below.length)
    (p : List Name) : path.location (p ++ below) = p ++ path.location below := by
  rw [← ModulePath.location_ofPath, ← ModulePath.location_ofPath]
  cases hplace : ModulePath.ofPath path with
  | mk anchor names =>
    cases anchor with
    | root =>
      rw [← ModulePath.isAbsolute_ofPath, hplace] at hrelative
      simp [ModulePath.isAbsolute] at hrelative
    | current ups =>
      rw [climbs_eq hplace] at hclimbs
      have hdrop : (p ++ below).rdrop ups = p ++ below.rdrop ups := by
        rw [List.rdrop, List.rdrop, List.length_append, Nat.add_sub_assoc hclimbs, List.take_length_add_append]
      simp only [ModulePath.location, hdrop, List.append_assoc]

namespace ModulePath

/-- **A specifier that stays in the directory leads to the moved place from the moved module.** -/
theorem relocate_resolve (hne : names ≠ []) (h : StaysWithin p ⟨.root, p ++ names⟩ specifier) (q : List Name) :
    (resolve ⟨.root, p ++ names⟩ specifier).Within p ∧
      resolve ⟨.root, q ++ names⟩ specifier = (resolve ⟨.root, p ++ names⟩ specifier).relocate p q := by
  have hresolve : ∀ front : List Name, resolve ⟨.root, front ++ names⟩ specifier =
      ⟨.root, front ++ (Path.ofString specifier).location names.dropLast⟩ := by
    intro front
    have hclimbs := h.climbs
    rw [directory_root (by simp [hne]), List.dropLast_append_of_ne_nil hne, List.length_append,
      Nat.add_sub_cancel_left] at hclimbs
    rw [resolve_root (by simp [hne]), List.dropLast_append_of_ne_nil hne, Path.location_append h.relative hclimbs]
  rw [hresolve p, hresolve q, relocate_append]
  exact ⟨⟨_, rfl⟩, rfl⟩

end ModulePath

/-! ## What tells where a module is -/

/-- The failure with another path. -/
def Failure.mapPath (f : Path → Path) : Failure → Failure
  | .io error => .io error
  | .moduleRead path error => .moduleRead (f path) error
  | .parse path messages => .parse (f path) messages
  | .write path error => .write (f path) error
  | .config text => .config text

/-- The same failure of the file at a path. -/
def Failure.about (path : Path) : Failure → Failure :=
  mapPath fun _ => path

/-- The same failure of the moved file. -/
def Failure.relocate (p q : List Name) : Failure → Failure :=
  mapPath fun path => ((ModulePath.ofPath path).relocate p q).toPath

theorem Failure.relocate_about (failure : Failure) (m : ModulePath) :
    (failure.about m.toPath).relocate p q = failure.about (m.relocate p q).toPath := by
  cases failure <;> simp [about, relocate, mapPath, ModulePath.ofPath_toPath]

/-- Two modules whose files have the same name come out alike if they have the same text: with the same code and the same
specifiers, or with the same failure, each of its own file. -/
def Processor.DependsOnFileName (process : Processor) : Prop :=
  ∀ (m n : ModulePath) (text : String), m.names.getLast? = n.names.getLast? →
    (process n text).2 = (process m text).2.mapError (·.about n.toPath)

/-- The name of a file says in which dialect a script is written, and no more is asked of its path. -/
theorem Script.dependsOnFileName_processor (singleQuote : Bool) : (processor singleQuote).DependsOnFileName := by
  intro m n text hname
  have hdialect : Dialect.ofPath n = Dialect.ofPath m := by rw [Dialect.ofPath, Dialect.ofPath, hname]
  unfold processor
  simp only [hdialect]
  cases Program.ofSource (Dialect.ofPath m) text with
  | error faults => rfl
  | ok program => rfl

/-! ## The moved walk -/

/-- All files of a store lie below one directory, and in another store the same files lie below another one. -/
structure MovedFiles (p q : List Name) (read read' : ModulePath → Except Failure String) : Prop where
  below : ∀ path text, read path = .ok text → ∃ name names, path = ⟨.root, p ++ name :: names⟩
  moved : ∀ names, read' ⟨.root, q ++ names⟩ = (read ⟨.root, p ++ names⟩).mapError (Failure.relocate p q)

/-- Entries under other keys are found under these. -/
theorem lookup_map {α β : Type} [BEq α] [LawfulBEq α] {f : α → α} {key key' : α} (entries : List (α × β))
    (h : ∀ entry ∈ entries, key' = f entry.1 ↔ key = entry.1) :
    (entries.map fun (k, value) => (f k, value)).lookup key' = entries.lookup key := by
  induction entries with
  | nil => rfl
  | cons entry entries ih =>
    obtain ⟨hentry, hentries⟩ := List.forall_mem_cons.mp h
    have hkey : (key' == f entry.1) = (key == entry.1) := by
      rw [Bool.eq_iff_iff, beq_iff_eq, beq_iff_eq, hentry]
    rw [List.map_cons, List.lookup_cons, List.lookup_cons, hkey, ih hentries]

namespace MemoryStore

/-- The steps that lead to the moved place. -/
def relocateSteps (p q : List Name) (steps : List Component) : List Component :=
  ((ModulePath.origin.moves steps).relocate p q).components

/-- The store after all of its files were moved. -/
def relocate (p q : List Name) (s : MemoryStore) : MemoryStore :=
  { s with files := s.files.map fun (steps, content) => (relocateSteps p q steps, content) }

/-- **Files in memory can be moved.** -/
theorem movedFiles {s : MemoryStore} (h : ∀ file ∈ s.files, ∃ name names,
    file.1 = ModulePath.components ⟨.root, p ++ name :: names⟩) :
    MovedFiles p q s.readModule (s.relocate p q).readModule where
  below := by
    intro path text hread
    obtain ⟨file, hfile, rfl⟩ := List.mem_map.mp (s.sources.mem_candidates hread)
    obtain ⟨name, names, hsteps⟩ := h file hfile
    exact ⟨name, names, by rw [hsteps, ModulePath.moves_components]⟩
  moved := by
    intro names
    have hlookup : (s.relocate p q).files.lookup (ModulePath.components ⟨.root, q ++ names⟩) =
        s.files.lookup (ModulePath.components ⟨.root, p ++ names⟩) := by
      refine lookup_map s.files fun file hfile => ?_
      obtain ⟨name, others, hsteps⟩ := h file hfile
      rw [hsteps, relocateSteps, ModulePath.moves_components, ModulePath.relocate_append]
      simp [ModulePath.components]
    have hread : (s.relocate p q).read (ModulePath.components ⟨.root, q ++ names⟩) =
        s.read (ModulePath.components ⟨.root, p ++ names⟩) := by
      rw [read, read, hlookup]
    unfold readModule
    rw [hread]
    cases s.read (ModulePath.components ⟨.root, p ++ names⟩) with
    | ok text => rfl
    | error error =>
      simp [Except.mapError, Failure.relocate, Failure.mapPath, ModulePath.ofPath_toPath, ModulePath.relocate_append]

end MemoryStore

/-- Places in the directory are seen where they are moved to, and of what is done the reads are seen. -/
def Mirror.relocation (p q : List Name) : Mirror ModulePath where
  path := ModulePath.relocate p q
  failure := Failure.relocate p q
  seen
    | .read path => some (path.relocate p q)
    | _ => none
  seenThere
    | .read path => some path
    | _ => none
  region := ModulePath.Within p
  injOn := ModulePath.relocate_injOn
  skip := fun _ => rfl

theorem Mirror.seen_relocation (actions : List Action) :
    actions.filterMap (relocation p q).seen = (Action.reads actions).map (ModulePath.relocate p q) := by
  rw [Action.reads, List.map_filterMap]
  refine List.filterMap_congr fun action _ => ?_
  cases action <;> rfl

theorem Mirror.seenThere_relocation (actions : List Action) :
    actions.filterMap (relocation p q).seenThere = Action.reads actions :=
  List.filterMap_congr fun action _ => by cases action <;> rfl

variable {read read' : ModulePath → Except Failure String} {process : Processor}

/-- What the specifiers of a module must be like. -/
def SpecifiersStay (p : List Name) (read : ModulePath → Except Failure String) (process : Processor)
    (path : ModulePath) : Prop :=
  ∀ text processed, read path = .ok text → (process path text).2 = .ok processed →
    ∀ specifier ∈ processed.specifiers, StaysWithin p path specifier

namespace MovedFiles

/-- What can be read is below the directory, not the directory itself. -/
theorem ne_nil (hfiles : MovedFiles p q read read') {text : String} (hread : read ⟨.root, p ++ names⟩ = .ok text) :
    names ≠ [] := by
  obtain ⟨name, others, heq⟩ := hfiles.below _ text hread
  rw [List.append_cancel_left (ModulePath.mk.inj heq).2]
  exact List.cons_ne_nil name others

/-- A module has the record of the moved one, with moved imports, or fails like it. -/
theorem load_eq (hfiles : MovedFiles p q read read') (hprocess : process.DependsOnFileName)
    (hstay : SpecifiersStay p read process ⟨.root, p ++ names⟩) :
    load read' process ⟨.root, q ++ names⟩ =
      ((load read process ⟨.root, p ++ names⟩).map (·.map (ModulePath.relocate p q))).mapError
        (Failure.relocate p q) := by
  have hmoved := hfiles.moved names
  cases hread : read ⟨.root, p ++ names⟩ with
  | error failure =>
    rw [hread] at hmoved
    simp only [load, hread, hmoved, Except.mapError, Except.map]
  | ok text =>
    have hne := hfiles.ne_nil hread
    have hname : (p ++ names).getLast? = (q ++ names).getLast? := by
      rw [List.getLast?_append_of_ne_nil _ hne, List.getLast?_append_of_ne_nil _ hne]
    have hself := hprocess ⟨.root, p ++ names⟩ ⟨.root, p ++ names⟩ text rfl
    have hother := hprocess ⟨.root, p ++ names⟩ ⟨.root, q ++ names⟩ text hname
    rw [hread] at hmoved
    cases hresult : (process ⟨.root, p ++ names⟩ text).2 with
    | error failure =>
      rw [hresult] at hself hother
      have habout : failure = failure.about (ModulePath.toPath ⟨.root, p ++ names⟩) := Except.error.inj hself
      have hfailure : failure.relocate p q = failure.about (ModulePath.toPath ⟨.root, q ++ names⟩) := by
        rw [habout, Failure.relocate_about, ModulePath.relocate_append, ← habout]
      simp only [load, hread, hmoved, hresult, hother, Except.mapError, Except.map, hfailure]
    | ok processed =>
      rw [hresult] at hother
      have himports : processed.specifiers.map (ModulePath.resolve ⟨.root, q ++ names⟩) =
          (processed.specifiers.map (ModulePath.resolve ⟨.root, p ++ names⟩)).map (ModulePath.relocate p q) := by
        rw [List.map_map]
        refine List.map_congr_left fun specifier hspecifier => ?_
        exact (ModulePath.relocate_resolve hne (hstay text processed hread hresult specifier hspecifier) q).2
      simp only [load, hread, hmoved, hresult, hother, Except.mapError, Except.map, ModuleRecord.map, himports]

/-- The imports of a module stay in the directory. -/
theorem within_of_mem_importsOf (hfiles : MovedFiles p q read read')
    (hstay : SpecifiersStay p read process ⟨.root, p ++ names⟩) :
    ∀ dependency ∈ importsOf read process ⟨.root, p ++ names⟩, dependency.Within p := by
  intro dependency hdependency
  cases hload : load read process ⟨.root, p ++ names⟩ with
  | error failure => simp [importsOf_of_load_error hload] at hdependency
  | ok record =>
    obtain ⟨text, processed, hread, hresult, -, hdependencies⟩ := load_eq_ok_iff.mp hload
    rw [importsOf_of_load_ok hload, hdependencies] at hdependency
    obtain ⟨specifier, hspecifier, rfl⟩ := List.mem_map.mp hdependency
    exact (ModulePath.relocate_resolve (hfiles.ne_nil hread) (hstay text processed hread hresult specifier hspecifier)
      q).1

/-- **Opening a module shows as opening the moved one.** -/
theorem shows (hfiles : MovedFiles p q read read') (hprocess : process.DependsOnFileName)
    (hwithin : path.Within p) (hstay : SpecifiersStay p read process path) :
    (Mirror.relocation p q).Shows read read' process process path := by
  obtain ⟨names, rfl⟩ := hwithin
  have hpath : (Mirror.relocation p q).path ⟨.root, p ++ names⟩ = ⟨.root, q ++ names⟩ :=
    ModulePath.relocate_append p q names
  exact {
    load_eq := by
      rw [hpath]
      exact hfiles.load_eq hprocess hstay
    seen_eq := by
      rw [Mirror.seen_relocation, Mirror.seenThere_relocation, reads_openingActions, reads_openingActions]
      rfl
    stays := hfiles.within_of_mem_importsOf hstay }

/-- Nothing outside the directory is found, and nothing outside it is imported. -/
theorem within_of_extend? (hfiles : MovedFiles p q read read') {entry : ModulePath} {final : ModuleMap}
    {actions : List Action} {result : Except Failure Unit}
    (h : ModuleMap.empty.extend? read process entry = some (final, actions, result))
    (hstay : ∀ path ∈ Action.reads actions, SpecifiersStay p read process path) {record : ModuleRecord}
    (hmem : (path, record) ∈ final.discoveryOrder) :
    path.Within p ∧ ∀ dependency ∈ record.dependencies, dependency.Within p := by
  obtain ⟨added, failing, ⟨entries, hfinal, rfl, hloads⟩, hreads, -, -⟩ := readsInOrder_of_extend? h
  change final.discoveryOrder = ModuleMap.empty.discoveryOrder ++ entries at hfinal
  change Action.reads actions = _ at hreads
  rw [hfinal] at hmem
  have hload : load read process path = .ok record := hloads (path, record) hmem
  obtain ⟨text, -, hread, -⟩ := load_eq_ok_iff.mp hload
  obtain ⟨name, names, rfl⟩ := hfiles.below path text hread
  have hpath : (⟨.root, p ++ name :: names⟩ : ModulePath) ∈ Action.reads actions := by
    rw [hreads]
    exact List.mem_append_left _ (List.mem_map_of_mem hmem)
  refine ⟨⟨_, rfl⟩, ?_⟩
  rw [← importsOf_of_load_ok hload]
  exact hfiles.within_of_mem_importsOf (hstay _ hpath)

end MovedFiles

/--
**Moving a project changes nothing but the paths.**

Let all files of a store lie below one directory, and let another store have the same files below another directory. Let
the processor ask no more of a path than the name of its file, as the processor of scripts does. If a walk from an entry
in the directory meets only specifiers that stay in it, then the walk over the moved files, from the moved entry, reads
the moved modules in the same order and leaves the moved map: the same modules in the same order, each with its code and
with its imports moved, all of which lie in the directory. If the one fails, so does the other, with the same failure of
the moved file.
-/
theorem extend?_relocate (p q : List Name) (read read' : ModulePath → Except Failure String) (process : Processor)
    (entry : ModulePath) :
    (∀ singleQuote, (Script.processor singleQuote).DependsOnFileName) ∧
    (MovedFiles p q read read' → process.DependsOnFileName → entry.Within p →
      ∀ final actions result, ModuleMap.empty.extend? read process entry = some (final, actions, result) →
        (∀ path ∈ Action.reads actions, SpecifiersStay p read process path) →
        (∀ path record, (path, record) ∈ final.discoveryOrder →
          path.Within p ∧ ∀ dependency ∈ record.dependencies, dependency.Within p) ∧
        ∃ final' actions',
          ModuleMap.empty.extend? read' process (entry.relocate p q) =
            some (final', actions', result.mapError (Failure.relocate p q)) ∧
          final'.discoveryOrder = final.discoveryOrder.map (fun (path, record) =>
            (path.relocate p q, ⟨record.code, record.dependencies.map (ModulePath.relocate p q)⟩)) ∧
          final'.emissionOrder = final.emissionOrder.map (fun (path, record) =>
            (path.relocate p q, ⟨record.code, record.dependencies.map (ModulePath.relocate p q)⟩)) ∧
          Action.reads actions' = (Action.reads actions).map (ModulePath.relocate p q)) := by
  refine ⟨Script.dependsOnFileName_processor, fun hfiles hprocess hentry final actions result h hstay => ?_⟩
  obtain ⟨actions', hextend, hseen⟩ := (Mirror.relocation p q).extend?_eq_some h
    (fun _ hmem => absurd hmem List.not_mem_nil) hentry
    fun path hpath hwithin => hfiles.shows hprocess hwithin (hstay path hpath)
  rw [Mirror.seen_relocation, Mirror.seenThere_relocation] at hseen
  refine ⟨fun path record hmem => hfiles.within_of_extend? h hstay hmem, ?_⟩
  exact ⟨_, actions', hextend, ModuleMap.discoveryOrder_map _ final, rfl, hseen⟩

/-! A small project: its modules import each other up and down, and one of them the directory of the project. -/

namespace Project

def directory (text : String) : List Name :=
  (Path.ofString text).location []

def main : List Name := directory "main.js"

def part : List Name := directory "parts/part.js"

def home : List Name := directory "/home/me/project"

def server : List Name := directory "/srv"

/-- The files of the project where it was written. -/
def written : MemoryStore :=
  ⟨[(ModulePath.components ⟨.root, home ++ main⟩, .text "main"),
    (ModulePath.components ⟨.root, home ++ part⟩, .text "part")], []⟩

/-- The files of the project where it was moved to. -/
def deployed : MemoryStore :=
  written.relocate home server

def rewrite : Processor := fun _ text =>
  ([], .ok ⟨text, if text = "main" then ["./parts/../parts/part.js"] else ["../main.js", ".."]⟩)

theorem movedFiles : MovedFiles home server written.readModule deployed.readModule := by
  refine MemoryStore.movedFiles ?_
  simp only [written, List.forall_mem_cons]
  exact ⟨⟨_, _, rfl⟩, ⟨_, _, rfl⟩, by simp⟩

theorem dependsOnFileName_rewrite : rewrite.DependsOnFileName :=
  fun _ _ _ _ => rfl

/-- The directory of the project is no file. -/
def missing (p : List Name) : Failure :=
  .moduleRead (ModulePath.toPath ⟨.root, p⟩) (.custom "not in memory file system")

theorem specifiersStay : ∀ path ∈ ([⟨.root, home ++ main⟩, ⟨.root, home ++ part⟩, ⟨.root, home⟩] : List ModulePath),
    SpecifiersStay home written.readModule rewrite path := by
  have hmain : written.readModule ⟨.root, home ++ main⟩ = .ok "main" := by decide
  have hpart : written.readModule ⟨.root, home ++ part⟩ = .ok "part" := by decide
  have hhome : written.readModule ⟨.root, home⟩ = .error (missing home) := by decide
  simp only [List.forall_mem_cons]
  refine ⟨?_, ?_, ?_, by simp⟩ <;> intro text processed hread hprocess
  · obtain rfl := Except.ok.inj (hmain.symm.trans hread)
    obtain rfl := Except.ok.inj hprocess
    decide
  · obtain rfl := Except.ok.inj (hpart.symm.trans hread)
    obtain rfl := Except.ok.inj hprocess
    decide
  · simp [hhome] at hread

end Project

theorem extend?_relocate_project :
    ∃ final' actions', ModuleMap.empty.extend? Project.deployed.readModule Project.rewrite
        ⟨.root, Project.server ++ Project.main⟩ =
          some (final', actions', .error (Project.missing Project.server)) ∧
      final'.paths = [⟨.root, Project.server ++ Project.main⟩, ⟨.root, Project.server ++ Project.part⟩] ∧
      Action.reads actions' = final'.paths ++ [⟨.root, Project.server⟩] := by
  have hrun : (ModuleMap.empty.extend? Project.written.readModule Project.rewrite
      ⟨.root, Project.home ++ Project.main⟩).map (fun d => (d.1.paths, Action.reads d.2.1, d.2.2)) =
        some ([⟨.root, Project.home ++ Project.main⟩, ⟨.root, Project.home ++ Project.part⟩],
          [⟨.root, Project.home ++ Project.main⟩, ⟨.root, Project.home ++ Project.part⟩, ⟨.root, Project.home⟩],
          .error (Project.missing Project.home)) := by cbv
  obtain ⟨⟨final, actions, result⟩, hextend, hfinal⟩ := Option.map_eq_some_iff.mp hrun
  obtain ⟨hpaths, hends⟩ := Prod.mk.inj hfinal
  obtain ⟨hreads, rfl⟩ := Prod.mk.inj hends
  have hstay : ∀ path ∈ Action.reads actions, SpecifiersStay Project.home Project.written.readModule
      Project.rewrite path := by
    rw [hreads]
    exact Project.specifiersStay
  obtain ⟨-, hwalk⟩ := extend?_relocate Project.home Project.server Project.written.readModule
    Project.deployed.readModule Project.rewrite ⟨.root, Project.home ++ Project.main⟩
  obtain ⟨-, final', actions', hextend', hdiscovery, -, hreads'⟩ := hwalk Project.movedFiles
    Project.dependsOnFileName_rewrite ⟨_, rfl⟩ final actions _ hextend hstay
  have hpaths' : final'.paths = final.paths.map (ModulePath.relocate Project.home Project.server) := by
    rw [ModuleMap.paths, hdiscovery, ModuleMap.paths, List.map_map, List.map_map]
    rfl
  have hfailure : (Project.missing Project.home).relocate Project.home Project.server =
      Project.missing Project.server := by decide
  rw [ModulePath.relocate_append, Except.mapError, hfailure] at hextend'
  refine ⟨final', actions', hextend', ?_, ?_⟩
  · rw [hpaths', hpaths]
    decide
  · rw [hreads', hreads, hpaths', hpaths]
    decide

end Bundler
