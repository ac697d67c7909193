import Bundler.Proofs.Path.Resolution

/-!
# Canonical spellings

A canonical spelling is `.`, or it goes down from the root by names, or it goes up by `..` and then down by names. Between
two segments stands one slash, and none stands at the end: `Path.IsCanonical` says so of the bytes.

Module paths are spelled canonically (`ModulePath.isCanonical_toPath`), and every canonical spelling is that of a module
path (`Path.IsCanonical.exists_toPath`). So what normalization keeps as it is are the canonical spellings.

* `normalize_normal_form` — normalization puts every path in a canonical spelling, and keeps those that are in one
-/

namespace Bundler

/-- The canonical spellings, byte for byte. -/
inductive Path.IsCanonical : Path → Prop
  /-- The current directory. -/
  | here : IsCanonical ⟨[dot]⟩
  /-- The root and names, of which there may be none. -/
  | absolute (names : List Name) : IsCanonical ⟨slash :: [slash].intercalate (names.map Name.bytes)⟩
  /-- Some `..` and then names, at least one segment in all. -/
  | relative (ups : Nat) (names : List Name) (hsome : ups ≠ 0 ∨ names ≠ []) :
      IsCanonical ⟨[slash].intercalate (List.replicate ups [dot, dot] ++ names.map Name.bytes)⟩

namespace ModulePath

/-- Module paths are spelled canonically. -/
theorem isCanonical_toPath (m : ModulePath) : m.toPath.IsCanonical := by
  obtain ⟨anchor, names⟩ := m
  cases anchor with
  | root =>
    rw [toPath_root]
    exact .absolute names
  | current ups =>
    by_cases hsome : ups ≠ 0 ∨ names ≠ []
    · rw [toPath_current hsome]
      exact .relative ups names hsome
    · obtain ⟨rfl, rfl⟩ : ups = 0 ∧ names = [] := by simpa using hsome
      exact .here

end ModulePath

namespace Path

/-- Every canonical spelling is that of a module path. -/
theorem IsCanonical.exists_toPath {p : Path} (h : p.IsCanonical) : ∃ m : ModulePath, m.toPath = p := by
  cases h with
  | here => exact ⟨.origin, rfl⟩
  | absolute names => exact ⟨⟨.root, names⟩, ModulePath.toPath_root names⟩
  | relative ups names hsome => exact ⟨⟨.current ups, names⟩, ModulePath.toPath_current hsome⟩

theorem normalize_toPath (m : ModulePath) : m.toPath.normalize = m.toPath := by
  rw [normalize_eq_toPath, ModulePath.ofPath_toPath]

/-- What is kept as it is are the canonical spellings. -/
theorem normalize_eq_self_iff {p : Path} : p.normalize = p ↔ p.IsCanonical := by
  constructor
  · intro h
    rw [← h, normalize_eq_toPath]
    exact (ModulePath.ofPath p).isCanonical_toPath
  · intro h
    obtain ⟨m, rfl⟩ := h.exists_toPath
    exact normalize_toPath m

instance (p : Path) : Decidable p.IsCanonical :=
  decidable_of_iff _ normalize_eq_self_iff

theorem isAbsolute_normalize (p : Path) : p.normalize.isAbsolute = p.isAbsolute := by
  rw [← ModulePath.isAbsolute_ofPath, normalize_eq_toPath, ModulePath.ofPath_toPath, ModulePath.isAbsolute_ofPath]

end Path

/--
**Normalization gives the normal form.**

Whatever its bytes are, a path is put in a canonical spelling, which starts at the root exactly if the path does. The paths
that stay as they are, byte for byte, are those that are in a canonical spelling already. So to normalize once more changes
nothing.
-/
theorem normalize_normal_form (p : Path) :
    p.normalize.IsCanonical ∧ p.normalize.isAbsolute = p.isAbsolute ∧ (p.normalize = p ↔ p.IsCanonical) ∧
      p.normalize.normalize = p.normalize := by
  have hcanonical : p.normalize.IsCanonical := by
    rw [p.normalize_eq_toPath]
    exact (ModulePath.ofPath p).isCanonical_toPath
  exact ⟨hcanonical, p.isAbsolute_normalize, Path.normalize_eq_self_iff, Path.normalize_eq_self_iff.mpr hcanonical⟩

/-- A slash at the end is not canonical. -/
example : ¬(Path.ofString "../a/").IsCanonical ∧ (Path.ofString "../a").IsCanonical := by decide

end Bundler
