import Bundler.Module.Path
import Mathlib

/-!
# The spelling of a module path

A module path is spelled by its steps with `/` between them. Cutting the spelling at every `/` gives the steps back
(`ModulePath.components_toPath`), so the spelling leads to the place it was made from (`ModulePath.ofPath_toPath`), and
different places are spelled differently.

The root needs care: it is the empty segment before the first `/`, and alone it is spelled `/`, which has two segments.
-/

namespace Bundler

namespace Component

theorem slash_notMem_segment (step : Component) : slash ∉ step.segment := by
  cases step with
  | root => exact List.not_mem_nil
  | here => decide
  | up => decide
  | name name => exact name.isName.2.2.2

/-- The step that a segment takes is not the root and does not stay, and it is written as the segment. -/
theorem ofSegment?_eq_some {segment : List UInt8} {step : Component} (h : ofSegment? segment = some step) :
    step ≠ .root ∧ step ≠ .here ∧ step.segment = segment := by
  unfold ofSegment? at h
  split at h
  · obtain rfl := Option.some.inj h
    exact ⟨by simp, by simp, rfl⟩
  · split at h
    · next hup =>
      obtain rfl := Option.some.inj h
      exact ⟨by simp, by simp, hup.symm⟩
    · simp at h

end Component

/-! ## Cutting and joining -/

namespace Path

theorem split_eq_splitOn (bytes : List UInt8) : split bytes = bytes.splitOn slash := by
  induction bytes with
  | nil => rfl
  | cons b bytes ih =>
    rw [split, ih]
    simp only [List.splitOn, List.splitOnP_cons_eq_if_modifyHead, beq_iff_eq]
    split
    · rfl
    · cases hpieces : List.splitOnP (· == slash) bytes with
      | nil => exact absurd hpieces (List.splitOnP_ne_nil _ _)
      | cons piece pieces => rfl

theorem slash_notMem_of_mem_split {bytes piece : List UInt8} (h : piece ∈ split bytes) : slash ∉ piece := by
  induction bytes generalizing piece with
  | nil =>
    rw [List.mem_singleton.mp h]
    exact List.not_mem_nil
  | cons b bytes ih =>
    rw [split] at h
    split at h
    · rcases List.mem_cons.mp h with rfl | hrest
      · exact List.not_mem_nil
      · exact ih hrest
    · next hb =>
      split at h
      · rw [List.mem_singleton.mp h]
        exact List.not_mem_cons_of_ne_of_not_mem (Ne.symm hb) List.not_mem_nil
      · next first pieces hsplit =>
        rw [hsplit] at ih
        rcases List.mem_cons.mp h with rfl | hrest
        · exact List.not_mem_cons_of_ne_of_not_mem (Ne.symm hb) (ih List.mem_cons_self)
        · exact ih (List.mem_cons_of_mem _ hrest)

/-- A segment that is neither empty nor `.` nor `..` is a name. -/
theorem isName_of_mem_segments {p : Path} {segment : List UInt8} (h : segment ∈ p.segments) (hempty : segment ≠ [])
    (hhere : segment ≠ [dot]) (hup : segment ≠ [dot, dot]) : IsName segment :=
  ⟨hempty, hhere, hup, slash_notMem_of_mem_split h⟩

/-- Steps that are written are found again as segments. -/
theorem segments_ofSegments_map {steps : List Component} (hne : steps ≠ []) :
    (ofSegments (steps.map Component.segment)).segments = steps.map Component.segment := by
  have hslash : ∀ piece ∈ steps.map Component.segment, slash ∉ piece := by
    intro piece hpiece
    obtain ⟨step, -, rfl⟩ := List.mem_map.mp hpiece
    exact step.slash_notMem_segment
  rw [segments, split_eq_splitOn]
  exact List.splitOn_intercalate slash hslash (by simpa using hne)

theorem ofComponents_eq {steps : List Component} (h : steps ≠ [.root]) :
    ofComponents steps = ofSegments (steps.map Component.segment) := by
  rw [ofComponents]
  exact h

/-- A path whose first segment is not empty does not start at the root. -/
theorem isAbsolute_eq_false {p : Path} (h : p.segments.head? ≠ some []) : p.isAbsolute = false := by
  obtain ⟨bytes⟩ := p
  cases bytes with
  | nil => rfl
  | cons b bytes =>
    have hb : b ≠ slash := by
      rintro rfl
      simp [segments, split] at h
    simpa [isAbsolute] using hb

/-- Steps that are written are read again if each of them is what its segment says. -/
theorem components_ofSegments {steps : List Component}
    (hsteps : ∀ step ∈ steps, Component.ofSegment? step.segment = some step) (hne : steps ≠ []) :
    (ofSegments (steps.map Component.segment)).components = steps := by
  have hsegments := segments_ofSegments_map hne
  have hread : (steps.map Component.segment).filterMap Component.ofSegment? = steps := by
    rw [List.filterMap_map]
    exact (List.filterMap_congr hsteps).trans List.filterMap_some
  -- the first segment is a step, so it is neither the empty one before the root nor `.`
  have hhead : ∀ piece, Component.ofSegment? piece = none →
      (steps.map Component.segment).head? ≠ some piece := by
    intro piece hpiece hhead
    obtain ⟨first, others, rfl⟩ := List.exists_cons_of_ne_nil hne
    rw [List.map_cons, List.head?_cons, Option.some.injEq] at hhead
    simp [← hhead, hsteps first List.mem_cons_self] at hpiece
  have habsolute : (ofSegments (steps.map Component.segment)).isAbsolute = false :=
    isAbsolute_eq_false (by rw [hsegments]; exact hhead [] Component.ofSegment?_nil)
  rw [components, habsolute, hsegments, hread]
  exact if_neg (hhead [dot] Component.ofSegment?_here)

/-- The same for steps that lead down from the root. -/
theorem components_ofSegments_root (name : Name) (names : List Name) :
    (ofSegments ((Component.root :: (name :: names).map .name).map Component.segment)).components =
      .root :: (name :: names).map .name := by
  have hread : ((Component.root :: (name :: names).map .name).map Component.segment).filterMap
      Component.ofSegment? = (name :: names).map .name := by
    rw [List.map_cons, Component.segment, List.filterMap_cons_none Component.ofSegment?_nil, List.map_map,
      List.filterMap_map, ← List.filterMap_eq_map]
    exact List.filterMap_congr fun name _ => Component.ofSegment?_name name
  have habsolute : (ofSegments ((Component.root :: (name :: names).map .name).map Component.segment)).isAbsolute =
      true := by
    simp [ofSegments, isAbsolute, Component.segment, List.intercalate_cons_cons]
  rw [components, habsolute, segments_ofSegments_map (by simp), hread]
  rfl

end Path

namespace ModulePath

/-- The spelling of a module path has its steps. -/
theorem components_toPath (m : ModulePath) : m.toPath.components = m.components := by
  obtain ⟨anchor, names⟩ := m
  cases anchor with
  | root =>
    cases names with
    | nil => rfl
    | cons name names => exact Path.components_ofSegments_root name names
  | current ups =>
    have hsteps : ∀ step ∈ List.replicate ups .up ++ names.map Component.name,
        Component.ofSegment? step.segment = some step := by
      intro step hstep
      rcases List.mem_append.mp hstep with hup | hname
      · rw [List.eq_of_mem_replicate hup]
        exact Component.ofSegment?_up
      · obtain ⟨name, -, rfl⟩ := List.mem_map.mp hname
        exact Component.ofSegment?_name name
    cases ups with
    | zero =>
      cases names with
      | nil => rfl
      | cons name names => exact Path.components_ofSegments hsteps (by simp)
    | succ ups => exact Path.components_ofSegments hsteps (by simp)

/-- The spelling of a module path leads to it. -/
theorem ofPath_toPath (m : ModulePath) : ofPath m.toPath = m := by
  rw [ofPath, follow, components_toPath, moves_components]

theorem toPath_injective : Function.Injective toPath :=
  Function.LeftInverse.injective ofPath_toPath

end ModulePath

end Bundler
