import Bundler.Proofs.Path.Spelling
import Bundler.Proofs.Text.Utf8
import Bundler.Script.Cursor
import Mathlib

/-!
# The text of a path

The text of a path is the texts of its segments with `/` between them (`Path.toList_display`): a name that is no UTF-8
takes nothing of the name after it. So what the text of a module path shows comes from the names that lead to it, and
these come from the module that was asked and from the specifier.

* `isOneLine_portable_iff` — the text of a module path has a line end exactly if one of its names has
* `isOneLine_resolve` — a line end does not come from anything but a line end
-/

namespace Bundler

/-- A text without line ends. -/
def IsOneLine (text : String) : Prop :=
  ∀ c ∈ text.toList, Script.isLineEnd c = false

instance (text : String) : Decidable (IsOneLine text) :=
  decidable_of_iff ((text.toList.all fun c => !Script.isLineEnd c) = true) (by simp [IsOneLine])

/-! ## Segments -/

theorem slash_lt : slash < 0x80 := by decide

/-- Bytes are read between slashes. -/
theorem toList_decodeLossy_intercalate (pieces : List (List UInt8)) :
    (Utf8.decodeLossy ([slash].intercalate pieces)).toList =
      ['/'].intercalate (pieces.map fun piece => (Utf8.decodeLossy piece).toList) := by
  induction pieces with
  | nil => rfl
  | cons first pieces ih =>
    cases pieces with
    | nil => rw [List.map_singleton, List.intercalate_singleton, List.intercalate_singleton]
    | cons second pieces =>
      rw [List.intercalate_cons_cons, List.append_assoc, List.singleton_append,
        Utf8.decodeLossy_append_cons slash_lt, ih]
      simp only [List.map_cons, List.intercalate_cons_cons, List.append_assoc, List.singleton_append]
      rfl

/-- What holds of the separator holds of all that is joined exactly if it holds of every piece. -/
theorem forall_mem_intercalate_iff {α : Type} {p : α → Prop} {separator : α} (hseparator : p separator)
    (pieces : List (List α)) :
    (∀ a ∈ [separator].intercalate pieces, p a) ↔ ∀ piece ∈ pieces, ∀ a ∈ piece, p a := by
  induction pieces with
  | nil => simp
  | cons first pieces ih =>
    cases pieces with
    | nil => simp
    | cons second pieces =>
      rw [List.intercalate_cons_cons, List.append_assoc, List.singleton_append, List.forall_mem_append,
        List.forall_mem_cons, ih, List.forall_mem_cons (l := second :: pieces)]
      exact and_congr_right fun _ => and_iff_right hseparator

namespace Path

theorem bytes_eq_intercalate (p : Path) : p.bytes = [slash].intercalate p.segments := by
  rw [segments, split_eq_splitOn, List.intercalate_splitOn]

/-- The text of a path is the texts of its segments with `/` between them. -/
theorem toList_display (p : Path) :
    p.display.toList = ['/'].intercalate (p.segments.map fun segment => (Utf8.decodeLossy segment).toList) := by
  rw [display, bytes_eq_intercalate, toList_decodeLossy_intercalate]

theorem display_ofString (text : String) : (ofString text).display = text :=
  Utf8.decodeLossy_encode text

/-- The names among the steps of a path are the segments that are names. -/
theorem name_mem_components_iff {p : Path} {name : Name} :
    Component.name name ∈ p.components ↔ name.bytes ∈ p.segments := by
  have hstep : ∀ segment, Component.ofSegment? segment = some (.name name) ↔ segment = name.bytes := by
    intro segment
    constructor
    · intro h
      unfold Component.ofSegment? at h
      split at h
      · rw [← Component.name.inj (Option.some.inj h)]
      · split at h <;> simp at h
    · rintro rfl
      exact Component.ofSegment?_name name
  have hsteps : Component.name name ∈ p.segments.filterMap Component.ofSegment? ↔ name.bytes ∈ p.segments := by
    simp only [List.mem_filterMap, hstep, exists_eq_right]
  unfold components
  split
  · simpa using hsteps
  · split
    · simpa using hsteps
    · exact hsteps

/-- The text of a path has a line end exactly if one of its names has. -/
theorem isOneLine_display_iff {p : Path} :
    IsOneLine p.display ↔ ∀ name, Component.name name ∈ p.components → IsOneLine (Utf8.decodeLossy name.bytes) := by
  have hsegments : IsOneLine p.display ↔ ∀ segment ∈ p.segments, IsOneLine (Utf8.decodeLossy segment) := by
    rw [IsOneLine, toList_display, forall_mem_intercalate_iff (by decide), List.forall_mem_map]
    rfl
  rw [hsegments]
  simp only [name_mem_components_iff]
  refine ⟨fun h name hname => h name.bytes hname, fun h segment hsegment => ?_⟩
  -- a segment that is no name is the bytes of a text
  have htext : ∀ text : String, IsOneLine text → IsOneLine (Utf8.decodeLossy (Utf8.encode text)) := by
    intro text htext
    rwa [Utf8.decodeLossy_encode]
  by_cases hempty : segment = []
  · rw [hempty]
    exact htext "" (by decide)
  by_cases hhere : segment = [dot]
  · rw [hhere]
    exact htext "." (by decide)
  by_cases hup : segment = [dot, dot]
  · rw [hup]
    exact htext ".." (by decide)
  exact h ⟨segment, isName_of_mem_segments hsegment hempty hhere hup⟩ hsegment

end Path

/-! ## Names -/

namespace ModulePath

theorem name_mem_components_iff {m : ModulePath} {name : Name} :
    Component.name name ∈ m.components ↔ name ∈ m.names := by
  obtain ⟨anchor, names⟩ := m
  cases anchor with
  | root => simp [components]
  | current ups =>
    cases ups with
    | succ ups => simp [components]
    | zero => cases names <;> simp [components]

/-- A backslash is no line end, and neither is what it is replaced by. -/
theorem isOneLine_portable_iff_display {m : ModulePath} : IsOneLine m.portable ↔ IsOneLine m.display := by
  have hsame : ∀ c, Script.isLineEnd (if c = '\\' then '/' else c) = Script.isLineEnd c := by
    intro c
    split
    · next h => rw [h]; decide
    · rfl
  simp only [IsOneLine, portable, String.toList_map, List.forall_mem_map, hsame]

/-- **The text of a module path has a line end exactly if one of its names has.** -/
theorem isOneLine_portable_iff {m : ModulePath} :
    IsOneLine m.portable ↔ ∀ name ∈ m.names, IsOneLine (Utf8.decodeLossy name.bytes) := by
  rw [isOneLine_portable_iff_display, display, Path.isOneLine_display_iff, components_toPath]
  simp only [name_mem_components_iff]

/-! ## Resolving -/

/-- A name comes from where the steps begin, or it is one of them. -/
theorem names_move {m : ModulePath} {step : Component} {name : Name} (h : name ∈ (m.move step).names) :
    name ∈ m.names ∨ step = .name name := by
  cases step with
  | root => simp [move] at h
  | here => exact Or.inl h
  | name other =>
    rcases List.mem_append.mp h with hm | hother
    · exact Or.inl hm
    · exact Or.inr (congrArg Component.name (List.mem_singleton.mp hother).symm)
  | up =>
    refine Or.inl ?_
    obtain ⟨anchor, names⟩ := m
    cases names with
    | nil => cases anchor <;> exact h
    | cons first names => exact List.mem_of_mem_dropLast h

theorem names_moves {m : ModulePath} {steps : List Component} {name : Name} (h : name ∈ (m.moves steps).names) :
    name ∈ m.names ∨ Component.name name ∈ steps := by
  induction steps generalizing m with
  | nil => exact Or.inl h
  | cons step steps ih =>
    rcases ih h with hmove | hsteps
    · rcases names_move hmove with hm | rfl
      · exact Or.inl hm
      · exact Or.inr List.mem_cons_self
    · exact Or.inr (List.mem_cons_of_mem _ hsteps)

theorem names_directory {m : ModulePath} {name : Name} (h : name ∈ m.directory.names) : name ∈ m.names := by
  obtain ⟨anchor, names⟩ := m
  cases names with
  | nil => cases anchor <;> exact absurd h List.not_mem_nil
  | cons first names => exact List.mem_of_mem_dropLast h

/-- **A line end comes from the module that asks or from the specifier.** -/
theorem isOneLine_resolve {requester : ModulePath} {specifier : String} (hrequester : IsOneLine requester.portable)
    (hspecifier : IsOneLine specifier) : IsOneLine (requester.resolve specifier).portable := by
  rw [isOneLine_portable_iff] at hrequester ⊢
  rw [← Path.display_ofString specifier, Path.isOneLine_display_iff] at hspecifier
  intro name hname
  rcases names_moves hname with hdirectory | hstep
  · exact hrequester name (names_directory hdirectory)
  · exact hspecifier name hstep

end ModulePath

end Bundler
