import Bundler.Proofs.Store.Tree
import Bundler.Store.Memory

/-!
# What a write leaves as it is

A text is written to the file where the output leads, and whatever module could be read elsewhere is read as before:
`FileService.Addressing` says so of a store. Where an output leads is for the store to say, for an output is not
normalized and may be relative.

* `MemoryStore.addressing` — files in memory are found by the steps of their paths, `..` included
* `DirectoryTree.addressing` — in a tree of directories the output leads to its location from the current directory
-/

namespace Bundler

/-- How a store finds the file that it writes to. -/
structure FileService.Addressing {State : Type} (files : FileService State) where
  /-- The output leads to the file of the module. -/
  leads : State → Path → ModulePath → Prop
  /-- What could be read elsewhere is read as before. -/
  keeps : ∀ {state : State} {output : Path} {text : String} {path : ModulePath} {found : String},
    (files.write state output text).2 = .ok () → ¬leads state output path →
      files.read state path = .ok found → files.read (files.write state output text).1 path = .ok found
  /-- What was written can be written once more. -/
  again : ∀ {state : State} {output : Path} {text : String} (other : String),
    (files.write state output text).2 = .ok () → (files.write (files.write state output text).1 output other).2 = .ok ()

/-! ## Files in memory -/

namespace MemoryStore

variable {s : MemoryStore} {output : Path} {text : String}

theorem write_ok (h : (s.write output text).2 = .ok ()) :
    output.components ∉ s.refused ∧ (s.write output text).1 = s.put output.components (.text text) := by
  unfold write at h ⊢
  split at h
  · simp at h
  · next hrefused => exact ⟨hrefused, by rw [if_neg hrefused]⟩

/-- A file is found under the steps of its path and under no others. -/
def addressing : fileSystem.service.Addressing where
  leads := fun _ output path => output.components = path.components
  keeps := by
    intro s output text path found hwrite helsewhere hread
    change (s.write output text).2 = .ok () at hwrite
    change s.readModule path = .ok found at hread
    show (s.write output text).1.readModule path = .ok found
    have hlookup : ((s.put output.components (.text text)).files).lookup path.components =
        s.files.lookup path.components := by
      rw [put, remove, lookup_put, if_neg (by simpa using fun heq => helsewhere heq.symm)]
    rw [(write_ok hwrite).2, ← hread]
    simp only [readModule, read, hlookup]
  again := by
    intro s output text other hwrite
    change (s.write output text).2 = .ok () at hwrite
    obtain ⟨hrefused, hput⟩ := write_ok hwrite
    show ((s.write output text).1.write output other).2 = .ok ()
    rw [hput]
    exact congrArg Prod.snd (if_neg hrefused)

end MemoryStore

/-! ## Trees -/

namespace DirectoryTree

variable {t : DirectoryTree}

/-- A module can be read if its names lead to a file that is a text. -/
theorem readModule_eq_ok_iff {path : ModulePath} {found : String} :
    t.readModule path = .ok found ↔
      path.anchor = .root ∧ check path.toPath = .ok () ∧
        ∃ content, Leads t [] (path.names.map .name) (.file path.names content) ∧ content.text? = some found := by
  obtain ⟨anchor, names⟩ := path
  cases anchor with
  | current ups => simp [readModule]
  | root =>
    cases hcheck : check (ModulePath.toPath ⟨.root, names⟩) with
    | error error => simp [readModule, hcheck]
    | ok _ =>
      cases hwalk : t.walk [] (names.map .name) with
      | error error => simp [readModule, hcheck, hwalk, ← walk_eq_ok_iff]
      | ok target =>
        have hleads : ∀ content, Leads t [] (names.map .name) (.file names content) ↔
            target = .file names content := by
          intro content
          rw [← walk_eq_ok_iff, hwalk, Except.ok.injEq]
        cases target with
        | directory place => simp [readModule, hcheck, hwalk, textOf, hleads]
        | absent place => simp [readModule, hcheck, hwalk, textOf, hleads]
        | file place content =>
          obtain rfl : place = names := (lookup_of_walk hwalk).1
          cases htext : content.text? <;> simp [readModule, hcheck, hwalk, textOf, hleads, htext]

/-- An output leads to its location from the current directory. -/
def addressing : fileSystem.service.Addressing where
  leads := fun t output path => path = ⟨.root, output.location t.current⟩
  keeps := by
    intro t output text path found hwrite helsewhere hread
    change (t.write output text).2 = .ok () at hwrite
    change t.readModule path = .ok found at hread
    show (t.write output text).1.readModule path = .ok found
    obtain ⟨grown, target, h⟩ := exists_writes hwrite
    obtain ⟨hroot, hcheck, content, hleads, htext⟩ := readModule_eq_ok_iff.mp hread
    refine readModule_eq_ok_iff.mpr ⟨hroot, hcheck, content, ?_, htext⟩
    refine h.spares.leads hleads (by simp [Target.found?]) fun hplace => ?_
    obtain ⟨anchor, names⟩ := path
    obtain rfl : anchor = .root := hroot
    exact absurd (congrArg (ModulePath.mk .root) hplace) helsewhere
  again := by
    intro t output text other hwrite
    obtain ⟨grown, target, h⟩ := exists_writes hwrite
    exact h.again other

theorem addressing_leads {output : Path} {path : ModulePath} :
    addressing.leads t output path ↔ path = ⟨.root, output.location t.current⟩ :=
  Iff.rfl

end DirectoryTree

end Bundler
