import Bundler.Proofs.Path.Location
import Bundler.Store.DirectoryTree

/-!
# Writing to a tree of directories

What a walk through a tree finds is told by `Leads`, a rule for each step. A write that succeeds is told by `Writes`: the
directories on the way are made where nothing stands, and then a file is put where the path leads. So everything else
stands where it stood (`Writes.spares`), and the same file can be written once more (`Writes.again`).

`Spares` is what all of this is about: the entries of one tree are in the other, except for a file at one location. What
is done before the file is put only makes directories where nothing stood (`Grows`), and each of these operations has a
lemma that says so.
-/

namespace Bundler

theorem lookup_filter_ne {α β : Type} [BEq α] [LawfulBEq α] {key other : α} (h : (other == key) = false)
    (entries : List (α × β)) : (entries.filter fun entry => entry.1 != key).lookup other = entries.lookup other := by
  induction entries with
  | nil => rfl
  | cons entry entries ih =>
    by_cases hsame : entry.1 = key
    · rw [List.filter_cons_of_neg (by simp [hsame]), ih, List.lookup_cons, hsame, h]
    · rw [List.filter_cons_of_pos (by simpa using hsame), List.lookup_cons, List.lookup_cons, ih]

/-- An entry that takes the place of all with its key. -/
theorem lookup_put {α β : Type} [BEq α] [LawfulBEq α] (key other : α) (value : β) (entries : List (α × β)) :
    ((key, value) :: entries.filter fun entry => entry.1 != key).lookup other =
      if other == key then some value else entries.lookup other := by
  rw [List.lookup_cons]
  cases hkey : other == key with
  | true => rfl
  | false => exact lookup_filter_ne hkey entries

/-- The steps that the system takes lead where the path leads. -/
theorem Path.foldl_systemSteps (p : Path) (directory : List Name) :
    p.systemSteps.foldl Component.lead directory = p.location directory := by
  have hsteps : ∀ (segments : List (List UInt8)) (before : List Name),
      (segments.filterMap fun segment => if segment = [dot] then some .here else Component.ofSegment? segment).foldl
        Component.lead before = segments.foldl enter before := by
    intro segments
    induction segments with
    | nil => exact fun before => rfl
    | cons segment segments ih =>
      intro before
      rw [List.foldl_cons, enter_eq]
      by_cases hhere : segment = [dot]
      · subst hhere
        exact ih before
      · cases hstep : Component.ofSegment? segment with
        | none =>
          rw [List.filterMap_cons_none (by rw [if_neg hhere, hstep])]
          exact ih before
        | some step =>
          rw [List.filterMap_cons_some (by rw [if_neg hhere, hstep])]
          exact ih (step.lead before)
  unfold systemSteps location
  split
  · exact hsteps p.segments []
  · exact hsteps p.segments directory

namespace DirectoryTree

/-! ## Where steps lead -/

namespace Target

/-- Where a path has led. -/
def location : Target → List Name
  | .directory location | .file location _ | .absent location => location

/-- What stands there. -/
def found? : Target → Option Entry
  | .directory _ => some .directory
  | .file _ content => some (.file content)
  | .absent _ => none

/-- What is found where an entry was put. -/
def ofEntry (location : List Name) : Entry → Target
  | .directory => .directory location
  | .file content => .file location content

end Target

/-- Steps lead from a directory to a target: every step but the last one is taken inside a directory. -/
inductive Leads (t : DirectoryTree) : List Name → List Component → Target → Prop
  | arrived {before : List Name} : Leads t before [] (.directory before)
  | root {before : List Name} {rest : List Component} {target : Target} (hrest : Leads t [] rest target) :
      Leads t before (.root :: rest) target
  | here {before : List Name} {rest : List Component} {target : Target} (hrest : Leads t before rest target) :
      Leads t before (.here :: rest) target
  | up {before : List Name} {rest : List Component} {target : Target} (hrest : Leads t before.dropLast rest target) :
      Leads t before (.up :: rest) target
  | down {before : List Name} {name : Name} {rest : List Component} {target : Target}
      (hname : name.bytes.length ≤ maxNameLength) (hentry : t.entry? (before ++ [name]) = some .directory)
      (hrest : Leads t (before ++ [name]) rest target) : Leads t before (.name name :: rest) target
  | absent {before : List Name} {name : Name} (hname : name.bytes.length ≤ maxNameLength)
      (hentry : t.entry? (before ++ [name]) = none) : Leads t before [.name name] (.absent (before ++ [name]))
  | file {before : List Name} {name : Name} {content : Content} (hname : name.bytes.length ≤ maxNameLength)
      (hentry : t.entry? (before ++ [name]) = some (.file content)) :
      Leads t before [.name name] (.file (before ++ [name]) content)

variable {t t' : DirectoryTree} {before location : List Name} {steps : List Component} {target : Target}

/-- The walk succeeds as told. -/
theorem walk_eq_ok_iff : t.walk before steps = .ok target ↔ Leads t before steps target := by
  constructor
  · intro h
    induction steps generalizing before with
    | nil =>
      obtain rfl := Except.ok.inj h
      exact .arrived
    | cons step rest ih =>
      cases step with
      | root => exact .root (ih h)
      | here => exact .here (ih h)
      | up => exact .up (ih h)
      | name name =>
        rw [walk] at h
        split at h
        · simp at h
        · next hname =>
          rw [Nat.not_lt] at hname
          split at h
          · next hentry =>
            split at h
            · next hrest =>
              obtain rfl := Except.ok.inj h
              rw [List.isEmpty_iff.mp hrest]
              exact .absent hname hentry
            · simp at h
          · next hentry => exact .down hname hentry (ih h)
          · next content hentry =>
            split at h
            · next hrest =>
              obtain rfl := Except.ok.inj h
              rw [List.isEmpty_iff.mp hrest]
              exact .file hname hentry
            · simp at h
  · intro h
    induction h with
    | arrived => rw [walk]
    | root _ ih => rw [walk, ih]
    | here _ ih => rw [walk, ih]
    | up _ ih => rw [walk, ih]
    | down hname hentry _ ih => simp [walk, hentry, ih, Nat.not_lt.mpr hname]
    | absent hname hentry => simp [walk, hentry, Nat.not_lt.mpr hname]
    | file hname hentry => simp [walk, hentry, Nat.not_lt.mpr hname]

namespace Leads

theorem location_eq (h : Leads t before steps target) : target.location = steps.foldl Component.lead before := by
  induction h with
  | arrived => rfl
  | root _ ih => exact ih
  | here _ ih => exact ih
  | up _ ih => exact ih
  | down _ _ _ ih => exact ih
  | absent _ _ => rfl
  | file _ _ => rfl

theorem entry_eq_found (h : Leads t before steps target) (hnot : target.found? ≠ some .directory) :
    t.entry? target.location = target.found? := by
  induction h with
  | arrived => exact absurd rfl hnot
  | root _ ih => exact ih hnot
  | here _ ih => exact ih hnot
  | up _ ih => exact ih hnot
  | down _ _ _ ih => exact ih hnot
  | absent _ hentry => exact hentry
  | file _ hentry => exact hentry

end Leads

/-! ## What stays where it stood -/

theorem entry?_put (place other : List Name) (entry : Entry) :
    DirectoryTree.entry? (t.put place entry) other = if other == place then some entry else t.entry? other :=
  lookup_put place other entry t.entries

/-- Everything stands where it stood, except for a file at one location. -/
structure Spares (location : List Name) (t t' : DirectoryTree) : Prop where
  current : t'.current = t.current
  entry : ∀ {place : List Name} {entry : Entry}, t.entry? place = some entry →
    (place = location → entry = .directory) → t'.entry? place = some entry

namespace Spares

theorem trans {t'' : DirectoryTree} (h : Spares location t t') (h' : Spares location t' t'') :
    Spares location t t'' where
  current := h'.current.trans h.current
  entry := fun hentry hplace => h'.entry (h.entry hentry hplace) hplace

/-- What stood at the place was nothing or the file. -/
theorem put {place : List Name} (entry : Entry) (hplace : ∀ old, t.entry? place = some old → place = location)
    (hnot : t.entry? place ≠ some .directory) : Spares location t (t.put place entry) where
  current := rfl
  entry := by
    intro other old hentry hother
    rw [entry?_put, if_neg ?_, hentry]
    rw [beq_iff_eq]
    rintro rfl
    exact hnot (hother (hplace old hentry) ▸ hentry)

/-- What a path leads to is found as before, unless it is the file or nothing. -/
theorem leads (h : Spares location t t') (hleads : Leads t before steps target) (hthere : target.found? ≠ none)
    (hfile : target.location = location → target.found? = some .directory) : Leads t' before steps target := by
  induction hleads with
  | arrived => exact .arrived
  | root _ ih => exact .root (ih hthere hfile)
  | here _ ih => exact .here (ih hthere hfile)
  | up _ ih => exact .up (ih hthere hfile)
  | down hname hentry _ ih => exact .down hname (h.entry hentry fun _ => rfl) (ih hthere hfile)
  | absent _ _ => exact absurd rfl hthere
  | file hname hentry =>
    exact .file hname (h.entry hentry fun hplace => Option.some.inj (hfile hplace))

end Spares

/-- Where something was put in place of a file or of nothing, it is found. -/
theorem Leads.put (h : Leads t before steps target) (hnot : target.found? ≠ some .directory) (entry : Entry) :
    Leads (t.put target.location entry) before steps (.ofEntry target.location entry) := by
  have hold := h.entry_eq_found hnot
  induction h with
  | arrived => exact absurd rfl hnot
  | root _ ih => exact .root (ih hnot hold)
  | here _ ih => exact .here (ih hnot hold)
  | up _ ih => exact .up (ih hnot hold)
  | @down before name rest target hname hentry _ ih =>
    -- a directory on the way is not what was replaced
    have hway : before ++ [name] ≠ target.location := fun heq => hnot (hold ▸ heq ▸ hentry)
    refine .down hname ?_ (ih hnot hold)
    rw [entry?_put, if_neg (by simpa using hway), hentry]
  | absent hname _ =>
    cases entry with
    | directory => exact .down hname (by simp [entry?_put, Target.location]) .arrived
    | file content => exact .file hname (by simp [entry?_put, Target.location])
  | file hname _ =>
    cases entry with
    | directory => exact .down hname (by simp [entry?_put, Target.location]) .arrived
    | file content => exact .file hname (by simp [entry?_put, Target.location])

/-- Directories were made where nothing stood, and everything else stands where it stood. -/
structure Grows (t t' : DirectoryTree) : Prop where
  current : t'.current = t.current
  entry : ∀ place, t'.entry? place = t.entry? place ∨ t.entry? place = none ∧ t'.entry? place = some .directory

namespace Grows

theorem refl : Grows t t :=
  ⟨rfl, fun _ => .inl rfl⟩

theorem trans {t'' : DirectoryTree} (h : Grows t t') (h' : Grows t' t'') : Grows t t'' where
  current := h'.current.trans h.current
  entry := fun place => by
    rcases h.entry place with hkept | ⟨hnone, hmade⟩
    · rw [← hkept]
      exact h'.entry place
    · rcases h'.entry place with hkept | ⟨hnone', -⟩
      · exact .inr ⟨hnone, hkept.trans hmade⟩
      · rw [hmade] at hnone'
        cases hnone'

theorem put {place : List Name} (hnone : t.entry? place = none) : Grows t (t.put place .directory) where
  current := rfl
  entry := fun other => by
    rw [entry?_put]
    split
    · next hother => exact .inr ⟨beq_iff_eq.mp hother ▸ hnone, rfl⟩
    · exact .inl rfl

theorem spares (h : Grows t t') : Spares location t t' where
  current := h.current
  entry := fun {place} {entry} hentry _ => by
    rcases h.entry place with hkept | ⟨hnone, -⟩
    · exact hkept.trans hentry
    · rw [hnone] at hentry
      cases hentry

end Grows

/-! ## Making directories -/

variable {p : Path}

theorem leads_of_locate (h : t.locate p = .ok target) : Leads t t.current p.systemSteps target := by
  unfold locate at h
  split at h
  · simp at h
  · exact walk_eq_ok_iff.mp h

theorem locate_of_leads (hold : t.locate p = .ok target) {target' : Target} (hcurrent : t'.current = t.current)
    (h : Leads t' t.current p.systemSteps target') : t'.locate p = .ok target' := by
  unfold locate at hold ⊢
  split at hold
  · simp at hold
  · rw [hcurrent]
    exact walk_eq_ok_iff.mpr h

theorem isDirectory_iff : t.isDirectory p = true ↔ ∃ location, t.locate p = .ok (.directory location) := by
  unfold isDirectory
  split
  · next place hlocate => simp [hlocate]
  · next hother => simpa using fun place => hother place

/-- A directory that stays is found. -/
theorem Spares.isDirectory (h : Spares location t t') (hdirectory : t.isDirectory p = true) :
    t'.isDirectory p = true := by
  obtain ⟨place, hlocate⟩ := isDirectory_iff.mp hdirectory
  exact isDirectory_iff.mpr ⟨place, locate_of_leads hlocate h.current
    (h.leads (leads_of_locate hlocate) (by simp [Target.found?]) fun _ => rfl)⟩

theorem grows_makeDirectory : Grows t (t.makeDirectory p).1 := by
  unfold makeDirectory
  split
  · exact .refl
  · next place hlocate => exact .put ((leads_of_locate hlocate).entry_eq_found (by simp [Target.found?]))
  · exact .refl

theorem isDirectory_of_makeDirectory (h : (t.makeDirectory p).2 = .ok ()) :
    (t.makeDirectory p).1.isDirectory p = true := by
  unfold makeDirectory at h ⊢
  split at h
  · simp at h
  · next place hlocate =>
    have hleads := leads_of_locate hlocate
    exact isDirectory_iff.mpr ⟨place, locate_of_leads hlocate rfl (hleads.put (by simp [Target.found?]) .directory)⟩
  · simp at h

theorem isDirectory_of_ensureDirectory (h : (t.ensureDirectory p).2 = .ok ()) :
    (t.ensureDirectory p).1.isDirectory p = true := by
  have hmade := isDirectory_of_makeDirectory (t := t) (p := p)
  unfold ensureDirectory at h ⊢
  split
  · next heq =>
    rw [heq] at hmade
    exact hmade rfl
  · next same error heq =>
    rw [heq] at h
    by_contra hnot
    simp [hnot] at h

/-- To make sure of directories is to make some of them, one after another. -/
theorem ensureDirectories_induction {related : DirectoryTree → DirectoryTree → Prop} (refl : ∀ t, related t t)
    (trans : ∀ t t' t'', related t t' → related t' t'' → related t t'') {paths : List Path}
    (make : ∀ p ∈ paths, ∀ t, related t (makeDirectory t p).1) (t : DirectoryTree) :
    related t (t.ensureDirectories paths).1 := by
  have ensure : ∀ p ∈ paths, ∀ t : DirectoryTree, related t (t.ensureDirectory p).1 := by
    intro p hp t
    have hmade := make p hp t
    unfold ensureDirectory
    split
    · next heq => rwa [heq] at hmade
    · next heq => rwa [heq] at hmade
  clear make
  induction paths generalizing t with
  | nil => exact refl t
  | cons p outer ih =>
    obtain ⟨hp, houter⟩ := List.forall_mem_cons.mp ensure
    have hfirst := hp t
    rw [ensureDirectories]
    split
    · next same error heq =>
      rw [heq] at hfirst
      have hgrown := trans _ _ _ hfirst (ih same houter)
      split
      · split
        · next grown error heq => rwa [heq] at hgrown
        · next grown heq =>
          rw [heq] at hgrown
          exact trans _ _ _ hgrown (hp grown)
      · exact hfirst
    · exact hfirst

theorem grows_ensureDirectories (paths : List Path) : Grows t (t.ensureDirectories paths).1 :=
  ensureDirectories_induction (fun _ => .refl) (fun _ _ _ => .trans) (fun _ _ _ => grows_makeDirectory) t

theorem isDirectory_of_ensureDirectories {outer : List Path} (h : (t.ensureDirectories (p :: outer)).2 = .ok ()) :
    (t.ensureDirectories (p :: outer)).1.isDirectory p = true := by
  rw [ensureDirectories] at h ⊢
  split at h
  · next same error heq =>
    by_cases hmissing : error = .noSuchEntry
    · rw [if_pos hmissing] at h ⊢
      split at h
      · simp at h
      · exact isDirectory_of_ensureDirectory h
    · simp [hmissing] at h
  · exact isDirectory_of_ensureDirectory h

/-- What is there need not be made. -/
theorem ensureDirectories_of_isDirectory (h : t.isDirectory p = true) (outer : List Path) :
    t.ensureDirectories (p :: outer) = (t, .ok ()) := by
  obtain ⟨place, hlocate⟩ := isDirectory_iff.mp h
  have hmake : t.makeDirectory p = (t, .error .entryExists) := by rw [makeDirectory, hlocate]
  have hensure : t.ensureDirectory p = (t, .ok ()) := by
    rw [ensureDirectory, hmake]
    simp [h]
  rw [ensureDirectories, hensure]

/-! ## Writing a file -/

/-- A write that succeeds: a file is put where the path leads, once the directories on the way are there. -/
structure Writes (t : DirectoryTree) (p : Path) (text : String) (grown : DirectoryTree) (target : Target) : Prop where
  made : t.ensureDirectories (enclosing p) = (grown, .ok ())
  located : grown.locate p = .ok target
  isFile : target.found? ≠ some .directory
  noSlash : p.endsInSlash = false
  written : t.write p text = (grown.put target.location (.file (.text text)), .ok ())

theorem createFile_eq (h : t.locate p = .ok target) (hfile : target.found? ≠ some .directory)
    (hslash : p.endsInSlash = false) (text : String) :
    t.createFile p text = (t.put target.location (.file (.text text)), .ok ()) := by
  unfold createFile
  rw [h]
  cases target with
  | directory place => exact absurd rfl hfile
  | absent place => simp [hslash, Target.location]
  | file place content => simp [hslash, Target.location]

theorem createFile_ok {text : String} (h : (t.createFile p text).2 = .ok ()) :
    ∃ target, t.locate p = .ok target ∧ target.found? ≠ some .directory ∧ p.endsInSlash = false := by
  unfold createFile at h
  cases hlocate : t.locate p with
  | error error => simp [hlocate] at h
  | ok target =>
    cases target with
    | directory place => simp [hlocate] at h
    | absent place =>
      refine ⟨_, rfl, by simp [Target.found?], ?_⟩
      by_contra hslash
      rw [Bool.not_eq_false] at hslash
      simp [hlocate, hslash] at h
    | file place content =>
      refine ⟨_, rfl, by simp [Target.found?], ?_⟩
      by_contra hslash
      rw [Bool.not_eq_false] at hslash
      simp [hlocate, hslash] at h

theorem write_eq {grown : DirectoryTree} (hmade : t.ensureDirectories (enclosing p) = (grown, .ok ()))
    (hlocate : grown.locate p = .ok target) (hfile : target.found? ≠ some .directory) (hslash : p.endsInSlash = false)
    (text : String) : t.write p text = (grown.put target.location (.file (.text text)), .ok ()) := by
  rw [write, hmade]
  simp only [createFile_eq hlocate hfile hslash]

theorem exists_writes {text : String} (h : (t.write p text).2 = .ok ()) :
    ∃ grown target, t.Writes p text grown target := by
  cases hmade : t.ensureDirectories (enclosing p) with
  | mk grown result =>
    cases result with
    | error error => simp [write, hmade] at h
    | ok _ =>
      have hcreate : (grown.createFile p text).2 = .ok () := by
        cases hcreate : grown.createFile p text with
        | mk done result => cases result <;> simp_all [write]
      obtain ⟨target, hlocate, hfile, hslash⟩ := createFile_ok hcreate
      exact ⟨grown, target, hmade, hlocate, hfile, hslash, write_eq hmade hlocate hfile hslash text⟩

namespace Writes

variable {text : String} {grown : DirectoryTree}

/-- Until the file is put, directories are made and nothing else. -/
theorem grows (h : t.Writes p text grown target) : Grows t grown := by
  have hgrown : Grows t (t.ensureDirectories (enclosing p)).1 := grows_ensureDirectories _
  rwa [h.made] at hgrown

/-- The file is put at the location of the path. -/
theorem location_eq (h : t.Writes p text grown target) : target.location = p.location t.current := by
  rw [(leads_of_locate h.located).location_eq, Path.foldl_systemSteps, h.grows.current]

/-- Nothing but the file has changed. -/
theorem spares (h : t.Writes p text grown target) : Spares (p.location t.current) t (t.write p text).1 := by
  rw [h.written, h.location_eq]
  have hentry := (leads_of_locate h.located).entry_eq_found h.isFile
  rw [h.location_eq] at hentry
  exact h.grows.spares.trans (.put _ (fun _ _ => rfl) (hentry ▸ h.isFile))

/-- The file is found where it was put. -/
theorem located_after (h : t.Writes p text grown target) :
    (t.write p text).1.locate p = .ok (.file target.location (.text text)) := by
  rw [h.written]
  exact locate_of_leads h.located rfl ((leads_of_locate h.located).put h.isFile (.file (.text text)))

/-- The file can be written once more: the directories are there, and so is the file. -/
theorem again (h : t.Writes p text grown target) (other : String) :
    ((t.write p text).1.write p other).2 = .ok () := by
  have hlocate := h.located_after
  have hmade : (t.write p text).1.ensureDirectories (enclosing p) = ((t.write p text).1, .ok ()) := by
    cases henclosing : enclosing p with
    | nil => rfl
    | cons inner outer =>
      have hdirectory : grown.isDirectory inner = true := by
        have hok : (t.ensureDirectories (inner :: outer)).2 = .ok () := by rw [← henclosing, h.made]
        have hinner := isDirectory_of_ensureDirectories hok
        rwa [← henclosing, h.made] at hinner
      have hstays : Spares target.location grown (t.write p text).1 := by
        rw [h.written]
        exact .put _ (fun _ _ => rfl) ((leads_of_locate h.located).entry_eq_found h.isFile ▸ h.isFile)
      exact ensureDirectories_of_isDirectory (hstays.isDirectory hdirectory) outer
  rw [write_eq hmade hlocate (by simp [Target.found?]) h.noSlash]

end Writes

end DirectoryTree

end Bundler
