import Bundler.Proofs.Path.Display
import Bundler.Proofs.Path.Location

/-!
# Relative to the directory of the requester

To resolve a specifier is to join it to the directory of the module that asks and to put what comes out in its canonical
spelling (`ModulePath.resolve_eq_ofPath_join`). A path is followed by its location (`ModulePath.location_follow`), so
nothing hangs on how the specifier is spelled, nor on which module of a directory asks.

* `resolve_from_directory` — a specifier leads to its location from the directory that holds the requester

A specifier is a text, and the canonical spelling of a text is one again (`Path.isText_normalize`): slashes cut no
character, and what stands between them stays as it is or is left out.
-/

namespace Bundler

/-! ## Joining -/

namespace Path

theorem split_append_slash (front back : List UInt8) : split (front ++ slash :: back) = split front ++ split back := by
  rw [split_eq_splitOn, split_eq_splitOn, split_eq_splitOn]
  exact List.splitOn_append_cons_of_beq front back (beq_self_eq_true slash)

theorem location_of_isAbsolute {p : Path} (h : p.isAbsolute = true) (directory directory' : List Name) :
    p.location directory = p.location directory' := by
  rw [location, location, if_pos h, if_pos h]

/-- Behind a slash a relative path goes on from where the path before the slash has led. -/
theorem location_append_slash (front : List UInt8) {p : Path} (h : p.isAbsolute = false) (directory : List Name) :
    location ⟨front ++ slash :: p.bytes⟩ directory = p.location (location ⟨front ++ [slash]⟩ directory) := by
  have hstart : isAbsolute ⟨front ++ slash :: p.bytes⟩ = isAbsolute ⟨front ++ [slash]⟩ := by
    cases front <;> rfl
  have hempty : ∀ place, [([] : List UInt8)].foldl enter place = place := fun _ => rfl
  simp only [location, segments, hstart, h, split_append_slash, List.foldl_append, Bool.false_eq_true, if_false]
  rw [split, hempty]

/-- A slash at the end leads nowhere. -/
theorem location_append_slash_nil {front : List UInt8} (h : front ≠ []) (directory : List Name) :
    location ⟨front ++ [slash]⟩ directory = location ⟨front⟩ directory := by
  have hstart : isAbsolute ⟨front ++ [slash]⟩ = isAbsolute ⟨front⟩ := by
    obtain ⟨b, front, rfl⟩ := List.exists_cons_of_ne_nil h
    rfl
  simp only [location, segments, hstart, split_append_slash, List.foldl_append]
  rfl

/-- **A joined path leads where its second part leads from where the first one has led.** -/
theorem location_join (base p : Path) (directory : List Name) :
    (base.join p).location directory = p.location (base.location directory) := by
  unfold join
  split
  · next habsolute => exact location_of_isAbsolute habsolute _ _
  · next hrelative =>
    rw [Bool.not_eq_true] at hrelative
    split
    · next hend =>
      rcases hend with hempty | hslash
      · obtain rfl : base = ⟨[]⟩ := by rw [← hempty]
        rfl
      · obtain ⟨front, hfront⟩ : ∃ front, base.bytes = front ++ [slash] := List.getLast?_eq_some_iff.mp hslash
        obtain rfl : base = ⟨front ++ [slash]⟩ := by rw [← hfront]
        rw [← location_append_slash front hrelative, List.append_assoc]
        rfl
    · next hend =>
      rw [not_or] at hend
      rw [location_append_slash _ hrelative, location_append_slash_nil hend.1]

end Path

/-! ## The directory of a module path -/

namespace ModulePath

theorem location_toPath (m : ModulePath) (directory : List Name) :
    m.toPath.location directory = m.location directory := by
  rw [← location_ofPath, ofPath_toPath]

/-- A path is followed to its location. -/
theorem location_follow (m : ModulePath) (p : Path) (directory : List Name) :
    (m.follow p).location directory = p.location (m.location directory) := by
  rw [follow, location_moves, Path.location_eq]

/-- To follow a path from the place of another one is to follow both joined. -/
theorem follow_ofPath (base p : Path) : (ofPath base).follow p = ofPath (base.join p) := by
  refine eq_of_location_eq fun directory => ?_
  rw [location_follow, location_ofPath, location_ofPath, Path.location_join]

theorem directory_concat (anchor : Anchor) (names : List Name) (name : Name) :
    directory ⟨anchor, names ++ [name]⟩ = ⟨anchor, names⟩ := by
  cases names with
  | nil => rfl
  | cons first names => exact congrArg (mk anchor) List.dropLast_concat

theorem parent?_toPath_concat (anchor : Anchor) (names : List Name) (name : Name) :
    (toPath ⟨anchor, names ++ [name]⟩).parent? = some (draft ⟨anchor, names⟩) := by
  have hsegments := segments_concat anchor names name
  rw [toPath_eq_draft (by simp [hsegments]), draft_concat]
  exact Path.parent?_ofBody (hsegments ▸ allStep_segments _)

theorem parent?_toPath_up (ups : Nat) :
    (toPath ⟨.current (ups + 1), []⟩).parent? = some (draft ⟨.current ups, []⟩) := by
  have hsegments := segments_up ups
  rw [toPath_eq_draft (by simp [hsegments]), draft_up]
  exact Path.parent?_ofBody (hsegments ▸ allStep_segments _)

/-- The directory is the place of the spelling without its last component, and the current directory if it has none. -/
theorem directory_eq_ofPath_parent (m : ModulePath) : m.directory = ofPath (m.toPath.parent?.getD ⟨[]⟩) := by
  obtain ⟨anchor, names⟩ := m
  cases names using List.reverseRecOn with
  | append_singleton names name =>
    rw [directory_concat, parent?_toPath_concat, Option.getD_some, ofPath_draft]
  | nil =>
    cases anchor with
    | root => rfl
    | current ups =>
      cases ups with
      | zero => rfl
      | succ ups =>
        rw [parent?_toPath_up, Option.getD_some, ofPath_draft]
        rfl

/-- **To resolve is to join to the directory and to normalize.** -/
theorem resolve_eq_ofPath_join (requester : ModulePath) (specifier : String) :
    requester.resolve specifier =
      ofPath ((requester.toPath.parent?.getD ⟨[]⟩).join (.ofString specifier)) := by
  rw [resolve, directory_eq_ofPath_parent, follow_ofPath]

end ModulePath

/-! ## Texts -/

/-- The bytes are those of a text. -/
def IsText (bytes : List UInt8) : Prop :=
  ∃ text, Utf8.encode text = bytes

/-- Only the character `/` has the byte of a slash: in no other one is it a part. -/
theorem slash_notMem_utf8EncodeChar {c : Char} (h : c ≠ '/') : slash ∉ String.utf8EncodeChar c := by
  intro hslash
  obtain ⟨before, after, hbytes⟩ := List.append_of_mem hslash
  have hscan := Utf8.scan_utf8EncodeChar c []
  rw [List.append_nil, hbytes, Utf8.scan_append_cons slash_lt] at hscan
  have hmem : some (Char.ofNat slash.toNat) ∈ some c :: Utf8.scan [] := hscan ▸ List.mem_append_right _ List.mem_cons_self
  rw [Utf8.scan, List.mem_singleton, Option.some.injEq] at hmem
  exact h hmem.symm

namespace IsText

theorem append {front back : List UInt8} (h : IsText front) (h' : IsText back) : IsText (front ++ back) := by
  obtain ⟨text, rfl⟩ := h
  obtain ⟨text', rfl⟩ := h'
  exact ⟨text ++ text', by simp [Utf8.encode]⟩

theorem utf8EncodeChar (c : Char) : IsText (String.utf8EncodeChar c) :=
  ⟨String.ofList [c], by simp [Utf8.encode]⟩

theorem intercalate_slash {pieces : List (List UInt8)} (h : ∀ piece ∈ pieces, IsText piece) :
    IsText ([slash].intercalate pieces) := by
  induction pieces with
  | nil => exact ⟨"", rfl⟩
  | cons first pieces ih =>
    obtain ⟨hfirst, hpieces⟩ := List.forall_mem_cons.mp h
    cases pieces with
    | nil => simpa using hfirst
    | cons second pieces =>
      rw [List.intercalate_cons_cons]
      exact (hfirst.append ⟨"/", rfl⟩).append (ih hpieces)

end IsText

namespace Path

/-- What holds no slash is not cut. -/
theorem split_append_of_notMem {front back piece : List UInt8} {pieces : List (List UInt8)} (h : slash ∉ front)
    (hback : split back = piece :: pieces) : split (front ++ back) = (front ++ piece) :: pieces := by
  induction front with
  | nil => exact hback
  | cons b front ih =>
    rw [List.mem_cons, not_or] at h
    rw [List.cons_append, split, if_neg (Ne.symm h.1), ih h.2]
    rfl

/-- The pieces of a text are texts. -/
theorem isText_of_mem_split (chars : List Char) :
    ∀ piece ∈ split (chars.flatMap String.utf8EncodeChar), IsText piece := by
  induction chars with
  | nil => exact List.forall_mem_singleton.mpr ⟨"", rfl⟩
  | cons c chars ih =>
    rw [List.flatMap_cons]
    by_cases hc : c = '/'
    · rw [hc]
      exact List.forall_mem_cons.mpr ⟨⟨"", rfl⟩, ih⟩
    · cases hsplit : split (chars.flatMap String.utf8EncodeChar) with
      | nil =>
        rw [split_eq_splitOn] at hsplit
        exact absurd hsplit (List.splitOnP_ne_nil _ _)
      | cons piece pieces =>
        rw [hsplit, List.forall_mem_cons] at ih
        rw [split_append_of_notMem (slash_notMem_utf8EncodeChar hc) hsplit]
        exact List.forall_mem_cons.mpr ⟨(IsText.utf8EncodeChar c).append ih.1, ih.2⟩

/-- A path is a text exactly if its names are texts. -/
theorem isText_iff {p : Path} : IsText p.bytes ↔ ∀ name, Component.name name ∈ p.components → IsText name.bytes := by
  constructor
  · rintro ⟨text, htext⟩ name hname
    refine isText_of_mem_split text.toList name.bytes ?_
    rw [name_mem_components_iff, segments, ← htext] at hname
    exact hname
  · intro h
    rw [bytes_eq_intercalate]
    refine IsText.intercalate_slash fun segment hsegment => ?_
    by_cases hempty : segment = []
    · exact hempty ▸ ⟨"", rfl⟩
    by_cases hhere : segment = [dot]
    · exact hhere ▸ ⟨".", rfl⟩
    by_cases hup : segment = [dot, dot]
    · exact hup ▸ ⟨"..", rfl⟩
    exact h ⟨segment, isName_of_mem_segments hsegment hempty hhere hup⟩ (name_mem_components_iff.mpr hsegment)

/-- The canonical spelling of a text is a text. -/
theorem isText_normalize {p : Path} (h : IsText p.bytes) : IsText p.normalize.bytes := by
  rw [isText_iff] at h ⊢
  intro name hname
  rw [normalize_eq_toPath, ModulePath.components_toPath, ModulePath.name_mem_components_iff] at hname
  rcases ModulePath.names_moves hname with horigin | hstep
  · exact absurd horigin List.not_mem_nil
  · exact h name hstep

theorem ofString_display {p : Path} (h : IsText p.bytes) : ofString p.display = p := by
  obtain ⟨bytes⟩ := p
  obtain ⟨text, rfl⟩ := h
  exact congrArg ofString (display_ofString text)

end Path

/-! ## Resolving -/

namespace ModulePath

/-- The last component of a module path is a name: it is neither the root nor the current directory or one above. -/
def EndsInName (m : ModulePath) : Prop :=
  ∃ name, m.toPath.components.getLast? = some (.name name)

/-- The directory of such a module path is where it leads without its last name. -/
theorem location_directory {m : ModulePath} (h : m.EndsInName) (directory : List Name) :
    m.directory.location directory = (m.toPath.location directory).dropLast := by
  obtain ⟨anchor, names⟩ := m
  rw [location_toPath]
  cases names using List.reverseRecOn with
  | nil =>
    obtain ⟨last, hlast⟩ := h
    rw [components_toPath] at hlast
    cases anchor with
    | root => simp [components] at hlast
    | current ups => cases ups <;> simp [components, List.getLast?_replicate] at hlast
  | append_singleton names name =>
    rw [directory_concat]
    cases anchor with
    | root => exact List.dropLast_concat.symm
    | current ups =>
      show _ = (directory.rdrop ups ++ (names ++ [name])).dropLast
      rw [← List.append_assoc, List.dropLast_concat]
      rfl

/-- A specifier leads to its location from the directory of the requester. -/
theorem location_toPath_resolve {requester : ModulePath} (h : requester.EndsInName) (specifier : String)
    (directory : List Name) :
    (requester.resolve specifier).toPath.location directory =
      (Path.ofString specifier).location (requester.toPath.location directory).dropLast := by
  rw [location_toPath, resolve, location_follow, location_directory h]

theorem follow_normalize (m : ModulePath) (p : Path) : m.follow p.normalize = m.follow p := by
  refine eq_of_location_eq fun directory => ?_
  rw [location_follow, location_follow, Path.normalize_eq_toPath, location_toPath, location_ofPath]

theorem follow_of_isAbsolute {p : Path} (h : p.isAbsolute = true) (m n : ModulePath) : m.follow p = n.follow p := by
  refine eq_of_location_eq fun directory => ?_
  rw [location_follow, location_follow]
  exact Path.location_of_isAbsolute h _ _

end ModulePath

/--
**A specifier is relative to the directory of the requester.**

What resolves is the directory of the requester joined with the specifier, in its canonical spelling. If the requester ends
in a name, this leads from every directory to the location of the specifier from where the requester leads without its
last name. The specifier in its canonical spelling, which is a text again, resolves to the same. Two requesters that end
in names resolve every specifier alike exactly if they are always in the same directory. An absolute specifier resolves
alike for all requesters.
-/
theorem resolve_from_directory (requester : ModulePath) :
    (∀ specifier, requester.resolve specifier =
      ModulePath.ofPath ((requester.toPath.parent?.getD ⟨[]⟩).join (.ofString specifier))) ∧
    (∀ specifier, Path.ofString (Path.ofString specifier).normalize.display = (Path.ofString specifier).normalize ∧
      requester.resolve (Path.ofString specifier).normalize.display = requester.resolve specifier) ∧
    (∀ specifier, (Path.ofString specifier).isAbsolute = true →
      ∀ other : ModulePath, other.resolve specifier = requester.resolve specifier) ∧
    (requester.EndsInName →
      (∀ specifier directory, (requester.resolve specifier).toPath.location directory =
        (Path.ofString specifier).location (requester.toPath.location directory).dropLast) ∧
      ∀ other : ModulePath, other.EndsInName →
        ((∀ specifier, other.resolve specifier = requester.resolve specifier) ↔
          ∀ directory, (other.toPath.location directory).dropLast = (requester.toPath.location directory).dropLast)) := by
  refine ⟨requester.resolve_eq_ofPath_join, fun specifier => ?_, fun specifier habsolute other => ?_, fun hname => ?_⟩
  · have htext := Path.ofString_display (Path.isText_normalize (p := .ofString specifier) ⟨specifier, rfl⟩)
    refine ⟨htext, ?_⟩
    rw [ModulePath.resolve, htext, ModulePath.follow_normalize]
    rfl
  · exact ModulePath.follow_of_isAbsolute habsolute _ _
  · refine ⟨ModulePath.location_toPath_resolve hname, fun other hother => ⟨fun halike directory => ?_, fun hsame => ?_⟩⟩
    · -- the empty specifier stays in the directory
      have hempty := ModulePath.location_toPath_resolve hother "" directory
      rw [halike, ModulePath.location_toPath_resolve hname] at hempty
      exact hempty.symm
    · intro specifier
      refine ModulePath.eq_of_location_eq fun directory => ?_
      rw [← ModulePath.location_toPath, ← ModulePath.location_toPath, ModulePath.location_toPath_resolve hother,
        ModulePath.location_toPath_resolve hname, hsame]

theorem resolve_from_directory_above :
    ∃ requester other : ModulePath, requester = .ofPath (.ofString "../app/./main.js") ∧
      other = .ofPath (.ofString "../app/views/../home.js") ∧ requester.EndsInName ∧ other.EndsInName ∧
      requester.resolve "../../..//x.js" = .ofPath (.ofString "../../../x.js") ∧
      (∀ directory, (Path.ofString "../../../x.js").location directory =
        (Path.ofString "../../..//x.js").location (requester.toPath.location directory).dropLast) ∧
      ∀ specifier, other.resolve specifier = requester.resolve specifier := by
  have hname : ModulePath.EndsInName (.ofPath (.ofString "../app/./main.js")) :=
    ⟨⟨Utf8.encode "main.js", by decide⟩, by decide⟩
  have hother : ModulePath.EndsInName (.ofPath (.ofString "../app/views/../home.js")) :=
    ⟨⟨Utf8.encode "home.js", by decide⟩, by decide⟩
  have hresolve : (ModulePath.ofPath (.ofString "../app/./main.js")).resolve "../../..//x.js" =
      .ofPath (.ofString "../../../x.js") := by decide
  obtain ⟨-, -, -, hnamed⟩ := resolve_from_directory (.ofPath (.ofString "../app/./main.js"))
  obtain ⟨hlocation, halike⟩ := hnamed hname
  refine ⟨_, _, rfl, rfl, hname, hother, hresolve, fun directory => ?_, (halike _ hother).mpr fun directory => ?_⟩
  · rw [← hlocation, hresolve, ModulePath.location_toPath, ModulePath.location_ofPath]
  · have hdirectory : (ModulePath.ofPath (.ofString "../app/views/../home.js")).directory =
        (ModulePath.ofPath (.ofString "../app/./main.js")).directory := by decide
    rw [← ModulePath.location_directory hother, ← ModulePath.location_directory hname, hdirectory]

end Bundler
