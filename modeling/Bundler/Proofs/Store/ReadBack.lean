import Bundler.Proofs.Store.Enclosing
import Bundler.Proofs.Store.Files

/-!
# Writing and reading back

A file that is written is read back as it was written, and the write disturbs nothing else. Before the file is put,
directories may have been made, but only such as the path goes through (`Path.GoesThrough`) and only where nothing stood:
`DirectoryTree.GrowsAlong`. A write that is refused has done no more than that.

The directories are made by paths of their own, which begin the path to the file (`exists_of_mem_enclosing`). The system takes
each `.` in them as a step, which leads nowhere.

* `write_reads_back` — what a write leaves, whether it succeeds or is refused
-/

namespace Bundler

variable {p q : Path} {before after steps : List Component} {directory place : List Name}

/-! ## The beginnings of a path -/

namespace Path

/-- A name of the path that is not its last step leads to the location. -/
def GoesThrough (p : Path) (directory location : List Name) : Prop :=
  ∃ before name after, p.components = before ++ .name name :: after ∧ after ≠ [] ∧
    (before ++ [.name name]).foldl Component.lead directory = location

/-- No step but the first is the root or stays. -/
theorem forall_mem_of_components {first : Component} (h : p.components = first :: after) :
    ∀ step ∈ after, step ≠ .root ∧ step ≠ .here := by
  have hsteps : ∀ step ∈ p.segments.filterMap Component.ofSegment?, step ≠ .root ∧ step ≠ .here := by
    intro step hstep
    obtain ⟨segment, -, hsegment⟩ := List.mem_filterMap.mp hstep
    obtain ⟨hroot, hhere, -⟩ := Component.ofSegment?_eq_some hsegment
    exact ⟨hroot, hhere⟩
  simp only [components] at h
  split at h
  · rwa [← (List.cons.inj h).2]
  · split at h
    · rwa [← (List.cons.inj h).2]
    · rw [h] at hsteps
      exact (List.forall_mem_cons.mp hsteps).2

/-- The steps that the system takes are those of the path but for some that stay. -/
theorem filter_systemSteps (p : Path) :
    p.systemSteps.filter (· != .here) = p.components.filter (· != .here) := by
  have hsteps : ∀ segments : List (List UInt8), (segments.filterMap fun segment =>
      if segment = [dot] then some .here else Component.ofSegment? segment).filter (· != .here) =
      (segments.filterMap Component.ofSegment?).filter (· != .here) := by
    intro segments
    induction segments with
    | nil => rfl
    | cons segment segments ih =>
      by_cases hhere : segment = [dot]
      · subst hhere
        exact ih
      · cases hstep : Component.ofSegment? segment with
        | none => rw [List.filterMap_cons_none (by rw [if_neg hhere, hstep]), List.filterMap_cons_none hstep, ih]
        | some step =>
          rw [List.filterMap_cons_some (by rw [if_neg hhere, hstep]), List.filterMap_cons_some hstep, List.filter_cons,
            List.filter_cons, ih]
  simp only [systemSteps, components]
  split
  · rw [List.filter_cons, List.filter_cons, hsteps]
  · split
    · exact (hsteps _).trans (List.filter_cons_of_neg (by simp)).symm
    · exact hsteps _

end Path

/-- Steps that stay lead nowhere else. -/
theorem foldl_lead_filter (steps : List Component) (directory : List Name) :
    (steps.filter (· != .here)).foldl Component.lead directory = steps.foldl Component.lead directory := by
  induction steps generalizing directory with
  | nil => rfl
  | cons step steps ih =>
    by_cases hhere : step = .here
    · rw [hhere, List.filter_cons_of_neg (by simp), ih]
      rfl
    · rw [List.filter_cons_of_pos (by simpa using hhere), List.foldl_cons, List.foldl_cons, ih]

namespace DirectoryTree

variable {t t' grown : DirectoryTree} {target : Target} {text : String}

/-- Steps that stay can be left out. -/
theorem Leads.filter_here (h : Leads t place steps target) : Leads t place (steps.filter (· != .here)) target := by
  induction h with
  | arrived => exact .arrived
  | root _ ih => exact .root ih
  | here _ ih => exact ih
  | up _ ih => exact .up ih
  | down hname hentry _ ih => exact .down hname hentry ih
  | absent hname hentry => exact .absent hname hentry
  | file hname hentry => exact .file hname hentry

/-- Where no directory is found, the last step was a name. -/
theorem Leads.exists_last (h : Leads t place steps target) (hnot : target.found? ≠ some .directory) :
    ∃ front name, steps = front ++ [.name name] := by
  induction h with
  | arrived => exact absurd rfl hnot
  | root _ ih | here _ ih | up _ ih | down _ _ _ ih =>
    obtain ⟨front, name, rfl⟩ := ih hnot
    exact ⟨_ :: front, name, rfl⟩
  | @absent _ name _ _ => exact ⟨[], name, rfl⟩
  | @file _ name _ _ _ => exact ⟨[], name, rfl⟩

/-- A directory that is missing on the way is one that the path goes through. -/
theorem goesThrough_of_absent (h : q ∈ enclosing p) (hlocate : t.locate q = .ok (.absent place)) :
    p.GoesThrough t.current place := by
  obtain ⟨after, hcomponents, hne, hafter⟩ := exists_of_mem_enclosing h
  have hleads := (leads_of_locate hlocate).filter_here
  rw [Path.filter_systemSteps] at hleads
  obtain ⟨front, last, hsteps⟩ := (List.eq_nil_or_concat' q.components).resolve_left hne
  obtain ⟨names, name, hlast⟩ := hleads.exists_last (by simp [Target.found?])
  -- a step that stays is the first one, and alone it would lead to a directory
  obtain rfl : last = .name name := by
    rw [hsteps, List.filter_append] at hlast
    by_cases hhere : last = .here
    · subst hhere
      cases front with
      | nil => simp at hlast
      | cons first front => exact absurd rfl (Path.forall_mem_of_components hsteps .here (by simp)).2
    · rw [List.filter_cons_of_pos (by simpa using hhere), List.filter_nil] at hlast
      exact List.singleton_inj.mp (List.append_inj' hlast rfl).2
  refine ⟨front, name, after, by rw [hcomponents, hsteps, List.append_assoc]; rfl, hafter, ?_⟩
  rw [← hsteps, ← foldl_lead_filter, ← hleads.location_eq]
  rfl

/-! ## What is made on the way -/

/-- Directories that the path goes through were made where nothing stood, and everything else stands where it stood. -/
structure GrowsAlong (p : Path) (t t' : DirectoryTree) : Prop where
  current : t'.current = t.current
  entry : ∀ place, t'.entry? place = t.entry? place ∨
    t.entry? place = none ∧ t'.entry? place = some .directory ∧ p.GoesThrough t.current place

namespace GrowsAlong

theorem refl : GrowsAlong p t t :=
  ⟨rfl, fun _ => .inl rfl⟩

theorem trans {t'' : DirectoryTree} (h : GrowsAlong p t t') (h' : GrowsAlong p t' t'') : GrowsAlong p t t'' where
  current := h'.current.trans h.current
  entry := fun place => by
    rcases h.entry place with hkept | ⟨hnone, hmade, hthrough⟩
    · rw [← hkept, ← h.current]
      exact h'.entry place
    · rcases h'.entry place with hkept | ⟨hnone', -⟩
      · exact .inr ⟨hnone, hkept.trans hmade, hthrough⟩
      · rw [hmade] at hnone'
        cases hnone'

theorem grows (h : GrowsAlong p t t') : Grows t t' where
  current := h.current
  entry := fun place => (h.entry place).imp_right fun hmade => ⟨hmade.1, hmade.2.1⟩

end GrowsAlong

theorem growsAlong_makeDirectory (h : q ∈ enclosing p) (t : DirectoryTree) : GrowsAlong p t (t.makeDirectory q).1 := by
  unfold makeDirectory
  split
  · exact .refl
  · next place hlocate =>
    have hnone : t.entry? place = none := (leads_of_locate hlocate).entry_eq_found (by simp [Target.found?])
    refine ⟨rfl, fun other => ?_⟩
    rw [entry?_put]
    split
    · next hother =>
      obtain rfl := beq_iff_eq.mp hother
      exact .inr ⟨hnone, rfl, goesThrough_of_absent h hlocate⟩
    · exact .inl rfl
  · exact .refl

theorem growsAlong_ensureDirectories (t : DirectoryTree) : GrowsAlong p t (t.ensureDirectories (enclosing p)).1 :=
  ensureDirectories_induction (fun _ => .refl) (fun _ _ _ => .trans) (fun _ => growsAlong_makeDirectory) t

/-! ## What stands on the way -/

namespace Leads

/-- A name that is not the last step leads to a directory. -/
theorem entry_eq_directory {name : Name} (h : Leads t place (before ++ .name name :: after) target)
    (hafter : after ≠ []) :
    t.entry? ((before ++ [Component.name name]).foldl Component.lead place) = some .directory := by
  induction before generalizing place with
  | nil =>
    cases h with
    | down _ hentry _ => exact hentry
    | absent _ _ => exact absurd rfl hafter
    | file _ _ => exact absurd rfl hafter
  | cons step before ih =>
    rw [List.cons_append] at h
    generalize hrest : before ++ Component.name name :: after = rest at h
    cases h with
    | root hleads | here hleads | up hleads | down _ _ hleads => exact ih (hrest ▸ hleads)
    | absent _ _ => simp at hrest
    | file _ _ => simp at hrest

end Leads

/-- Where a path is found, every directory that it goes through stands. -/
theorem entry_of_goesThrough (hlocate : t.locate p = .ok target) (h : p.GoesThrough t.current place) :
    t.entry? place = some .directory := by
  obtain ⟨before, name, after, hcomponents, hafter, rfl⟩ := h
  have hleads := (leads_of_locate hlocate).filter_here
  rw [Path.filter_systemSteps, hcomponents, List.filter_append, List.filter_cons_of_pos (by simp)] at hleads
  have hkept : after.filter (· != .here) = after := by
    refine List.filter_eq_self.mpr fun step hstep => bne_iff_ne.mpr ?_
    cases before with
    | nil => exact (Path.forall_mem_of_components hcomponents step hstep).2
    | cons first before => exact (Path.forall_mem_of_components hcomponents step (by simp [hstep])).2
  rw [hkept] at hleads
  have hentry := hleads.entry_eq_directory hafter
  rwa [List.foldl_append, foldl_lead_filter, ← List.foldl_append] at hentry

namespace Writes

/-- A file that is written is put at its location. -/
theorem write_eq_put (h : t.Writes p text grown target) :
    (t.write p text).1 = grown.put (p.location t.current) (.file (.text text)) := by
  rw [h.written, h.location_eq]

theorem growsAlong (h : t.Writes p text grown target) : GrowsAlong p t grown := by
  have hgrown : GrowsAlong p t (t.ensureDirectories (enclosing p)).1 := growsAlong_ensureDirectories t
  rwa [h.made] at hgrown

/-- Every directory that the path goes through stands after the write. -/
theorem entry_of_goesThrough (h : t.Writes p text grown target) (hthrough : p.GoesThrough t.current place) :
    DirectoryTree.entry? (t.write p text).1 place = some .directory := by
  have hdirectory : grown.entry? place = some .directory :=
    DirectoryTree.entry_of_goesThrough h.located (h.grows.current ▸ hthrough)
  have hfile := (leads_of_locate h.located).entry_eq_found h.isFile
  have hother : place ≠ target.location := by
    rintro rfl
    exact h.isFile (hfile ▸ hdirectory)
  rw [h.written, entry?_put, if_neg (by simpa using hother), hdirectory]

end Writes

/--
**What is written is read back, and nothing else is disturbed.**

If a write succeeds, the file is read as it was written, and every other file has the content it had. The tree has the file at
the location of the path and directories in place of what was missing on the way; the rest of it is as it was, and every
directory that the path goes through stands. If a write is refused, the failure is one of writing to this very path. Then no
file has changed, and at most directories on the way have been made.
-/
theorem write_reads_back (t : DirectoryTree) (p : Path) (text : String) :
    ((t.write p text).2 = .ok () →
      (t.write p text).1.read p = .ok text ∧
      (∀ place, place ≠ p.location t.current → (t.write p text).1.file? place = t.file? place) ∧
      (∃ grown, t.GrowsAlong p grown ∧
        (t.write p text).1 = grown.put (p.location t.current) (.file (.text text))) ∧
      ∀ place, p.GoesThrough t.current place → DirectoryTree.entry? (t.write p text).1 place = some .directory) ∧
    ∀ failure, (t.write p text).2 = .error failure →
      (∃ error, failure = .write p error) ∧ t.GrowsAlong p (t.write p text).1 ∧
      ∀ place, (t.write p text).1.file? place = t.file? place := by
  refine ⟨fun hok => ?_, fun failure hfailed => ?_⟩
  · obtain ⟨grown, target, hwrites⟩ := exists_writes hok
    exact ⟨hwrites.read_eq, fun place hother => hwrites.file?_eq hother, ⟨grown, hwrites.growsAlong, hwrites.write_eq_put⟩,
      fun place hthrough => hwrites.entry_of_goesThrough hthrough⟩
  · obtain ⟨hstate, herror⟩ := write_of_error hfailed
    have hgrown : t.GrowsAlong p (t.write p text).1 := hstate ▸ growsAlong_ensureDirectories t
    exact ⟨herror, hgrown, hgrown.grows.file?_eq⟩

/-! A desk with one file on it, and two outputs: one leads through directories that are missing, the other through the file. -/

namespace Desk

def locationOf (text : String) : List Name :=
  (Path.ofString text).location []

def tree : DirectoryTree :=
  ⟨locationOf "/desk", [(locationOf "/desk", .directory), (locationOf "/desk/notes", .file (.text "n"))]⟩

def output : Path := .ofString "drafts/../out/./bundle.js"

def blocked : Path := .ofString "out/../notes/bundle.js"

end Desk

theorem write_reads_back_desk :
    (Desk.tree.write Desk.output "f();").2 = .ok () ∧
    (Desk.tree.write Desk.output "f();").1.read Desk.output = .ok "f();" ∧
    (Desk.tree.write Desk.output "f();").1.file? (Desk.locationOf "/desk/notes") = some (.text "n") ∧
    DirectoryTree.entry? (Desk.tree.write Desk.output "f();").1 (Desk.locationOf "/desk/drafts") = some .directory ∧
    ∃ error, (Desk.tree.write Desk.blocked "f();").2 = .error (.write Desk.blocked error) ∧
      (Desk.tree.write Desk.blocked "f();").1.file? (Desk.locationOf "/desk/notes") = some (.text "n") := by
  have hok : (Desk.tree.write Desk.output "f();").2 = .ok () := by cbv
  have hthrough : Desk.output.GoesThrough Desk.tree.current (Desk.locationOf "/desk/drafts") :=
    ⟨[], ⟨Utf8.encode "drafts", by decide⟩, (Path.ofString "../out/bundle.js").components, by decide, by decide, by decide⟩
  obtain ⟨hread, hkept, -, hstands⟩ := (write_reads_back Desk.tree Desk.output "f();").1 hok
  refine ⟨hok, hread, (hkept _ (by decide)).trans (by cbv), hstands _ hthrough, ?_⟩
  have hfailed : (Desk.tree.write Desk.blocked "f();").2 = .error (.write Desk.blocked .entryExists) := by cbv
  obtain ⟨⟨error, hfailure⟩, -, hsame⟩ := (write_reads_back Desk.tree Desk.blocked "f();").2 _ hfailed
  exact ⟨error, hfailed.trans (congrArg _ hfailure), (hsame _).trans (by cbv)⟩

end DirectoryTree

end Bundler
