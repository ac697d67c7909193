import Bundler.Proofs.Graph.Discovery

/-!
# The imports a map records

The records of a map are a graph of their own: `ModuleMap.Imports` is its edges. A walk adds edges and takes none away,
and what it adds are the imports of the modules it opens (`Adds.imports_iff`). So what the walk reaches is reached through
records of the map it leaves.
-/

namespace Bundler

/-- The record of one module lists the other one among its dependencies. -/
def ModuleMap.Imports (modules : ModuleMap) (importer imported : ModulePath) : Prop :=
  ∃ record, (importer, record) ∈ modules.discoveryOrder ∧ imported ∈ record.dependencies

/-- Goes from module to module along recorded imports, in any number of steps. -/
abbrev ModuleMap.Chain (modules : ModuleMap) : ModulePath → ModulePath → Prop :=
  Relation.ReflTransGen modules.Imports

variable {read : ModulePath → Except Failure String} {process : Processor} {entry importer imported : ModulePath}
  {order : List ModulePath} {modules modules' : ModuleMap}

theorem ModuleMap.Imports.importer_mem (h : modules.Imports importer imported) : importer ∈ modules.paths := by
  obtain ⟨record, hmem, -⟩ := h
  exact List.mem_map.mpr ⟨_, hmem, rfl⟩

namespace Adds

/-- What is recorded afterwards was recorded before or is imported by an added module. -/
theorem imports_iff (h : Adds read process modules order modules') :
    modules'.Imports importer imported ↔
      modules.Imports importer imported ∨ importer ∈ order ∧ imported ∈ importsOf read process importer := by
  obtain ⟨added, hfinal, rfl, hload⟩ := h
  constructor
  · rintro ⟨record, hmem, himported⟩
    rw [hfinal] at hmem
    rcases List.mem_append.mp hmem with hold | hnew
    · exact Or.inl ⟨record, hold, himported⟩
    · refine Or.inr ⟨List.mem_map.mpr ⟨_, hnew, rfl⟩, ?_⟩
      rw [importsOf_of_load_ok (hload _ hnew)]
      exact himported
  · rintro (⟨record, hold, himported⟩ | ⟨hmem, himported⟩)
    · exact ⟨record, by rw [hfinal]; exact List.mem_append_left _ hold, himported⟩
    · obtain ⟨⟨_, record⟩, hnew, rfl⟩ := List.mem_map.mp hmem
      rw [importsOf_of_load_ok (hload _ hnew)] at himported
      exact ⟨record, by rw [hfinal]; exact List.mem_append_right _ hnew, himported⟩

theorem imports_mono (h : Adds read process modules order modules')
    (himports : modules.Imports importer imported) : modules'.Imports importer imported :=
  h.imports_iff.mpr (Or.inl himports)

/-- Whatever was added is reached along recorded imports. -/
theorem chain_of_mem (h : Adds read process modules order modules')
    (horder : DepthFirst (importsOf read process) modules.paths [entry] order) {path : ModulePath}
    (hmem : path ∈ order) : modules'.Chain entry path := by
  have hreached := horder.mem_iff.mp hmem
  clear hmem
  induction hreached with
  | start => exact .refl
  | step hx hxy _ ih => exact ih.tail (h.imports_iff.mpr (Or.inr ⟨horder.mem_iff.mpr hx, hxy⟩))

/-- A walk that succeeds leaves nothing out: what an added module imports is in the map. -/
theorem imported_mem {roots : List ModulePath} (h : Adds read process modules order modules')
    (horder : DepthFirst (importsOf read process) modules.paths roots order) (hmem : importer ∈ order)
    (himported : imported ∈ importsOf read process importer) : imported ∈ modules'.paths := by
  obtain ⟨record, hload⟩ := h.load_ok hmem
  rw [importsOf_of_load_ok hload] at himported
  exact h.closed horder hmem hload imported himported

end Adds

end Bundler
