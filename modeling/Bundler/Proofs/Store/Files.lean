import Bundler.Proofs.Store.Tree

/-!
# Files of a tree

What becomes of the files when one is written. If the write succeeds, the file holds what was written and all others are
as they were (`Writes.read_eq`, `Writes.file?_eq`). If it is refused, at most directories were made
(`grows_of_write_error`), so that no file has changed (`Grows.file?_eq`).
-/

namespace Bundler.DirectoryTree

variable {t t' grown : DirectoryTree} {p : Path} {text : String} {target : Target}

/-- The content of the file at a location, if one stands there. -/
def file? (t : DirectoryTree) (location : List Name) : Option Content :=
  match t.entry? location with
  | some (.file content) => some content
  | _ => none

theorem Grows.file?_eq (h : Grows t t') (location : List Name) : t'.file? location = t.file? location := by
  unfold file?
  rcases h.entry location with hkept | ⟨hnone, hmade⟩
  · rw [hkept]
  · rw [hnone, hmade]

/-- What was written is read again. -/
theorem Writes.read_eq (h : t.Writes p text grown target) : (t.write p text).1.read p = .ok text := by
  rw [read, h.located_after]
  simp [h.noSlash, textOf, Content.text?]

/-- Every other file is as it was. -/
theorem Writes.file?_eq (h : t.Writes p text grown target) {location : List Name}
    (hother : location ≠ p.location t.current) : (t.write p text).1.file? location = t.file? location := by
  rw [← h.grows.file?_eq location, h.written, file?, file?, entry?_put, h.location_eq, if_neg (by simpa using hother)]

/-- Where no file can be put, nothing is. -/
theorem createFile_of_error {error : StoreError} (h : (t.createFile p text).2 = .error error) :
    (t.createFile p text).1 = t := by
  unfold createFile at h ⊢
  split
  · rfl
  · rfl
  · next hlocate =>
    split
    · rfl
    · next hslash => simp [hlocate, hslash] at h
  · next hlocate =>
    split
    · rfl
    · next hslash => simp [hlocate, hslash] at h

/-- A write that is refused has come as far as to the directories on the way, and the failure names the path. -/
theorem write_of_error {failure : Failure} (h : (t.write p text).2 = .error failure) :
    (t.write p text).1 = (t.ensureDirectories (enclosing p)).1 ∧ ∃ error, failure = .write p error := by
  unfold write at h ⊢
  split
  · next grown error heq =>
    simp only [heq, Except.error.injEq] at h
    exact ⟨by rw [heq], error, h.symm⟩
  · next grown heq =>
    simp only [heq] at h
    split
    · next same error heq' =>
      simp only [heq', Except.error.injEq] at h
      have hsame : (grown.createFile p text).1 = grown := createFile_of_error (by rw [heq'])
      rw [heq'] at hsame
      exact ⟨by rw [heq, ← hsame], error, h.symm⟩
    · next heq' => simp [heq'] at h

/-- A write that is refused has made directories and nothing else. -/
theorem grows_of_write_error {failure : Failure} (h : (t.write p text).2 = .error failure) :
    Grows t (t.write p text).1 := by
  rw [(write_of_error h).1]
  exact grows_ensureDirectories _

end Bundler.DirectoryTree
