import Bundler.Proofs.Bundle.Irrelevance
import Bundler.Proofs.Graph.Discovery
import Bundler.Proofs.Path.Joining

/-!
# Graphs and bundles on files

In a world of files every graph and every bundle comes to an end. A graph leaves all files as they were. It is found
exactly if every module that is reached has a record, and else it fails as some of these modules does
(`load_ok_of_graph_ok`, `load_error_of_graph_error`). A bundle fails as its graph does, or writes the text of its modules
(`bundle_of_graph_error`, `bundle_of_graph_ok`).
-/

namespace Bundler

variable {State : Type} {files : FileSystem State} {process : Processor} {currentDirectory : Path} {options : Options}
  {state : State} {modules : ModuleMap} {failure : Failure}

/-- An absolute entry is the same from every directory. -/
theorem entryPlace_eq_ok (currentDirectory entry : Path) :
    entryPlace (.ok currentDirectory) entry = .ok (entryPath currentDirectory entry) := by
  unfold entryPlace
  split
  · next habsolute => exact congrArg Except.ok (ModulePath.follow_of_isAbsolute habsolute _ _)
  · rfl

/-- Discovery always comes to an end. -/
theorem exists_collect? (sources : Sources) (process : Processor) (entry : ModulePath) :
    ∃ found, collect? sources.read process entry = some found := by
  rw [collect?, ModuleMap.extend?_eq_some]
  exact ⟨_, rfl⟩

variable {found : List Action × Except Failure ModuleMap}
  (hcollect : collect? (files.sources state).read process (entryPath currentDirectory options.entry) = some found)

include hcollect

theorem graph_eq : graph files process currentDirectory options state = ⟨state, found.1, found.2⟩ := by
  have hgraph : files.service.graph? process (.ok currentDirectory) options state = some ⟨state, found.1, found.2⟩ :=
    graph?_of_collect? (entryPlace_eq_ok currentDirectory options.entry) hcollect
  exact Option.get_of_eq_some _ hgraph

theorem bundle_eq :
    bundle files process currentDirectory options state =
      files.service.finish options state
        ((openingEvents (entryPath currentDirectory options.entry) options.output).map .logged ++ found.1) found.2 := by
  have hbundle : files.service.bundle? process (.ok currentDirectory) options state = some _ :=
    bundle?_of_collect? (entryPlace_eq_ok currentDirectory options.entry) hcollect
  exact Option.get_of_eq_some _ hbundle

omit hcollect

theorem state_graph : (graph files process currentDirectory options state).state = state := by
  obtain ⟨found, hcollect⟩ :=
    exists_collect? (files.sources state) process (entryPath currentDirectory options.entry)
  rw [graph_eq hcollect]

/-! ## Bundles -/

/-- A bundle fails as its graph does, with all files as they were. -/
theorem bundle_of_graph_error (h : (graph files process currentDirectory options state).result = .error failure) :
    (bundle files process currentDirectory options state).result = .error failure ∧
      (bundle files process currentDirectory options state).state = state := by
  obtain ⟨⟨actions, result⟩, hcollect⟩ :=
    exists_collect? (files.sources state) process (entryPath currentDirectory options.entry)
  rw [graph_eq hcollect] at h
  obtain rfl : result = .error failure := h
  rw [bundle_eq hcollect]
  exact ⟨rfl, rfl⟩

/-- A bundle writes the modules of its graph. -/
theorem bundle_of_graph_ok (h : (graph files process currentDirectory options state).result = .ok modules) :
    (bundle files process currentDirectory options state).result =
        (files.write state options.output (bundleText modules)).2.map (fun _ => reportOf options modules) ∧
      (bundle files process currentDirectory options state).state =
        (files.write state options.output (bundleText modules)).1 := by
  obtain ⟨⟨actions, result⟩, hcollect⟩ :=
    exists_collect? (files.sources state) process (entryPath currentDirectory options.entry)
  rw [graph_eq hcollect] at h
  obtain rfl : result = .ok modules := h
  rw [bundle_eq hcollect, finish_ok]
  exact ⟨rfl, rfl⟩

/-! ## Modules that are reached -/

theorem exists_followsPreorder (files : FileSystem State) (process : Processor) (currentDirectory : Path)
    (options : Options) (state : State) :
    ∃ final actions result,
      FollowsPreorder (files.sources state).read process .empty [entryPath currentDirectory options.entry]
        (final, actions, result) ∧
      (graph files process currentDirectory options state).result = result.map fun _ => final := by
  obtain ⟨found, hcollect⟩ :=
    exists_collect? (files.sources state) process (entryPath currentDirectory options.entry)
  obtain ⟨⟨final, actions, result⟩, hextend, rfl⟩ := Option.map_eq_some_iff.mp hcollect
  exact ⟨final, actions, result, followsPreorder_of_extend? hextend, by rw [graph_eq hcollect]⟩

/-- A graph that is found has a record of every module that is reached. -/
theorem load_ok_of_graph_ok (h : (graph files process currentDirectory options state).result = .ok modules)
    {path : ModulePath}
    (hreached : ReachedOutside (importsOf (files.sources state).read process) []
      (entryPath currentDirectory options.entry) path) :
    ∃ record, load (files.sources state).read process path = .ok record := by
  obtain ⟨final, actions, result, hfollows, hresult⟩ :=
    exists_followsPreorder files process currentDirectory options state
  rw [h] at hresult
  cases hfollows with
  | ok horder hadds => exact hadds.load_ok (horder.mem_iff.mpr hreached)
  | error => simp [Except.map] at hresult

/-- A graph that is not found fails as some module does that is reached. -/
theorem load_error_of_graph_error
    (h : (graph files process currentDirectory options state).result = .error failure) :
    ∃ path, ReachedOutside (importsOf (files.sources state).read process) []
      (entryPath currentDirectory options.entry) path ∧
      load (files.sources state).read process path = .error failure := by
  obtain ⟨final, actions, result, hfollows, hresult⟩ :=
    exists_followsPreorder files process currentDirectory options state
  rw [h] at hresult
  cases hfollows with
  | ok horder hadds => simp [Except.map] at hresult
  | error before hbefore hload hadds =>
    obtain rfl := Except.error.inj hresult
    obtain ⟨order, horder⟩ := exists_depthFirst (fun _ h => mem_candidates_of_imports h) ModuleMap.empty.paths
      [entryPath currentDirectory options.entry]
    obtain ⟨after, rfl⟩ := hbefore order horder
    exact ⟨_, horder.mem_iff.mp (by simp), hload⟩

end Bundler
