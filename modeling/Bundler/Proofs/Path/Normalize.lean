import Bundler.Proofs.Path.Spelling

/-!
# Normalization spells the place

The path under construction always spells a module path: the place where the components lead that were taken so far. Each
component that is added moves this place (`ModulePath.fold_draft`), so what comes out in the end is the spelling of the place
where the path leads (`Path.normalize_eq_toPath`).

The current directory is spelled by nothing at all while the path is under construction, and by `.` only at the end.
-/

namespace Bundler

namespace Path

/-! ## Segments behind a start -/

/-- The component of a start. -/
def Start.steps : Start → List Component
  | .root => [.root]
  | .here => [.here]
  | .bare => []

/-- The segment of a start. -/
def Start.segments : Start → List (List UInt8)
  | .root => [[]]
  | .here => [[dot]]
  | .bare => []

theorem segments_eq (p : Path) : p.segments = p.start.segments ++ p.body := by
  obtain ⟨bytes⟩ := p
  unfold body start
  split
  · next h =>
    cases bytes with
    | nil => simp [isAbsolute] at h
    | cons b bytes =>
      obtain rfl : b = slash := by simpa [isAbsolute] using h
      rfl
  · split
    · next h => exact (List.cons_head?_tail h).symm
    · rfl

theorem components_eq (p : Path) : p.components = p.start.steps ++ p.body.filterMap Component.ofSegment? := by
  have hsteps : p.segments.filterMap Component.ofSegment? = p.body.filterMap Component.ofSegment? := by
    rw [segments_eq, List.filterMap_append]
    cases p.start <;> rfl
  unfold components
  rw [hsteps]
  unfold start
  split
  · rfl
  · split <;> rfl

variable {s : Start} {segments : List (List UInt8)} {last : List UInt8}

/-- Segments that are found again behind a start: they are not cut, and the first of them is not taken for the start. -/
structure IsBody (s : Start) (segments : List (List UInt8)) : Prop where
  ne_nil : segments ≠ []
  uncut : ∀ segment ∈ segments, slash ∉ segment
  first : s = .bare → ∀ segment ∈ segments.head?, staysPut segment = false

theorem segments_ofBody (h : IsBody s segments) : (ofBody s segments).segments = s.segments ++ segments := by
  have hsplit : ∀ pieces : List (List UInt8), pieces ≠ [] → (∀ piece ∈ pieces, slash ∉ piece) →
      split ([slash].intercalate pieces) = pieces := by
    intro pieces hne hpieces
    rw [split_eq_splitOn]
    exact List.splitOn_intercalate slash hpieces hne
  cases s with
  | root =>
    show split (slash :: [slash].intercalate segments) = [] :: segments
    rw [split, if_pos rfl, hsplit _ h.ne_nil h.uncut]
  | here => exact hsplit _ (by simp) (List.forall_mem_cons.mpr ⟨by decide, h.uncut⟩)
  | bare => exact hsplit _ h.ne_nil h.uncut

theorem start_ofBody (h : IsBody s segments) : (ofBody s segments).start = s := by
  have hsegments := segments_ofBody h
  cases s with
  | root => rfl
  | here =>
    have hrelative : (ofBody .here segments).isAbsolute = false :=
      isAbsolute_eq_false (by rw [hsegments]; simp [Start.segments])
    rw [start, hrelative, hsegments]
    rfl
  | bare =>
    obtain ⟨first, rest, rfl⟩ := List.exists_cons_of_ne_nil h.ne_nil
    have hfirst := h.first rfl first rfl
    have hrelative : (ofBody .bare (first :: rest)).isAbsolute = false := by
      refine isAbsolute_eq_false ?_
      rw [hsegments]
      rintro hempty
      obtain rfl : first = [] := by simpa [Start.segments] using hempty
      exact absurd hfirst (by decide)
    rw [start, hrelative, hsegments, if_neg Bool.false_ne_true, if_neg]
    intro hhere
    obtain rfl : first = [dot] := by simpa [Start.segments] using hhere
    exact absurd hfirst (by decide)

theorem body_ofBody (h : IsBody s segments) : (ofBody s segments).body = segments := by
  have hsegments := segments_eq (ofBody s segments)
  rw [segments_ofBody h, start_ofBody h] at hsegments
  exact (List.append_cancel_left hsegments).symm

theorem bytes_ofBody_ne_nil (h : IsBody s segments) : (ofBody s segments).bytes ≠ [] := by
  intro hnil
  have hempty : ofBody s segments = ⟨[]⟩ := congrArg mk hnil
  have hstart := start_ofBody h
  have hbody := body_ofBody h
  rw [hempty] at hstart hbody
  exact absurd (h.first hstart.symm [] (hbody ▸ rfl)) (by decide)

/-- Only an empty segment and `.` take no step. -/
theorem eq_of_staysPut {segment : List UInt8} (h : staysPut segment = true) (huncut : slash ∉ segment) :
    segment = [] ∨ segment = [dot] := by
  by_contra hother
  rw [not_or] at hother
  by_cases hup : segment = [dot, dot]
  · subst hup
    exact absurd h (by decide)
  · rw [staysPut, Component.ofSegment?_name ⟨segment, hother.1, hother.2, hup, huncut⟩] at h
    cases h

/-- An empty first segment that is not the root is alone. -/
theorem eq_nil_of_bare {p : Path} (hbare : p.start = .bare) (h : p.segments = [] :: segments) : segments = [] := by
  obtain ⟨bytes⟩ := p
  cases bytes with
  | nil => exact (List.cons.inj h).2.symm
  | cons b bytes =>
    have hb : b ≠ slash := by
      rintro rfl
      simp [start, isAbsolute] at hbare
    rw [Path.segments, split, if_neg hb] at h
    split at h <;> simp at h

/-! ## Steps behind a start -/

/-- Each segment takes a step and is not cut. -/
def AllStep (segments : List (List UInt8)) : Prop :=
  ∀ segment ∈ segments, staysPut segment = false ∧ slash ∉ segment

theorem AllStep.isBody (h : AllStep segments) (hne : segments ≠ []) : IsBody s segments :=
  ⟨hne, fun segment hsegment => (h segment hsegment).2, fun _ segment hsegment =>
    (h segment (List.mem_of_mem_head? hsegment)).1⟩

theorem AllStep.dropWhile_reverse (h : AllStep segments) : segments.reverse.dropWhile staysPut = segments.reverse := by
  cases hreverse : segments.reverse with
  | nil => rfl
  | cons last before =>
    have hlast : last ∈ segments := List.mem_reverse.mp (hreverse ▸ List.mem_cons_self)
    exact List.dropWhile_cons_of_neg (by simp [(h last hlast).1])

/-- The last of the steps is cut off. -/
theorem parent?_ofBody (h : AllStep (segments ++ [last])) :
    (ofBody s (segments ++ [last])).parent? = some (ofBody s segments) := by
  have hbody := h.isBody (s := s) (by simp)
  have hbefore : AllStep segments := fun segment hsegment => h segment (List.mem_append_left _ hsegment)
  rw [parent?, body_ofBody hbody, start_ofBody hbody, h.dropWhile_reverse, List.reverse_concat]
  simp only [hbefore.dropWhile_reverse, List.reverse_reverse]

theorem pop_ofBody (h : AllStep (segments ++ [last])) : (ofBody s (segments ++ [last])).pop = ofBody s segments := by
  rw [pop, parent?_ofBody h, Option.getD_some]

theorem getLast?_components_ofBody (h : AllStep (segments ++ [last])) :
    (ofBody s (segments ++ [last])).components.getLast? = Component.ofSegment? last := by
  have hbody := h.isBody (s := s) (by simp)
  have hlast := (h last (by simp)).1
  obtain ⟨step, hstep⟩ := Option.isSome_iff_exists.mp (by simpa [staysPut] using hlast)
  rw [components_eq, body_ofBody hbody, List.filterMap_append, List.filterMap_cons_some hstep, hstep]
  simp

theorem intercalate_concat (hne : segments ≠ []) :
    [slash].intercalate (segments ++ [last]) = [slash].intercalate segments ++ slash :: last := by
  induction segments with
  | nil => exact absurd rfl hne
  | cons first segments ih =>
    cases segments with
    | nil => simp [List.intercalate_cons_cons]
    | cons second segments =>
      rw [List.cons_append, List.cons_append, List.intercalate_cons_cons, ← List.cons_append, ih (by simp),
        List.intercalate_cons_cons]
      simp

/-- What takes steps does not end in a slash. -/
theorem getLast?_intercalate (hne : segments ≠ []) (h : AllStep segments) :
    ∃ b, b ≠ slash ∧ ([slash].intercalate segments).getLast? = some b := by
  obtain ⟨before, last, rfl⟩ := List.eq_nil_or_concat' segments |>.resolve_left hne
  obtain ⟨hstep, hslash⟩ := h last (by simp)
  have hlast : last ≠ [] := by
    rintro rfl
    exact absurd hstep (by decide)
  refine ⟨last.getLast hlast, fun heq => hslash (heq ▸ List.getLast_mem hlast), ?_⟩
  rw [← List.getLast?_eq_getLast_of_ne_nil]
  by_cases hbefore : before = []
  · rw [hbefore, List.nil_append, List.intercalate_singleton]
  · rw [intercalate_concat hbefore, List.getLast?_append_of_ne_nil _ (by simp), List.getLast?_cons_of_ne_nil hlast]

/-- One more step is written behind the others. -/
theorem join_ofBody (hs : s ≠ .here) (h : AllStep (segments ++ [last])) :
    (ofBody s segments).join ⟨last⟩ = ofBody s (segments ++ [last]) := by
  have hrelative : isAbsolute ⟨last⟩ = false := by
    obtain ⟨-, hslash⟩ := h last (by simp)
    cases last with
    | nil => rfl
    | cons b last => simpa [isAbsolute] using (List.ne_of_not_mem_cons hslash).symm
  unfold join
  rw [hrelative, if_neg Bool.false_ne_true]
  by_cases hne : segments = []
  · subst hne
    cases s with
    | root => simp [ofBody]
    | here => exact absurd rfl hs
    | bare => simp [ofBody, ofSegments]
  · obtain ⟨b, hb, hlast⟩ := getLast?_intercalate hne fun segment hsegment => h segment (List.mem_append_left _ hsegment)
    have hsome : [slash].intercalate segments ≠ [] := by
      rintro hnil
      simp [hnil] at hlast
    cases s with
    | root => simp [ofBody, intercalate_concat hne, List.getLast?_cons_of_ne_nil hsome, hlast, hb]
    | here => exact absurd rfl hs
    | bare => simp [ofBody, ofSegments, intercalate_concat hne, hsome, hlast, hb]

end Path

/-! ## The path under construction -/

namespace ModulePath

theorem toPath_root (names : List Name) :
    toPath ⟨.root, names⟩ = ⟨slash :: [slash].intercalate (names.map Name.bytes)⟩ := by
  cases names with
  | nil => rfl
  | cons name names =>
    have hsegments : (components ⟨.root, name :: names⟩).map Component.segment = [] :: (name :: names).map Name.bytes := by
      simp [components, Component.segment]
    show Path.ofSegments ((components ⟨.root, name :: names⟩).map Component.segment) = _
    rw [hsegments, Path.ofSegments, List.map_cons, List.intercalate_cons_cons]
    rfl

theorem toPath_current {ups : Nat} {names : List Name} (hsome : ups ≠ 0 ∨ names ≠ []) :
    toPath ⟨.current ups, names⟩ =
      ⟨[slash].intercalate (List.replicate ups [dot, dot] ++ names.map Name.bytes)⟩ := by
  have hsteps : components ⟨.current ups, names⟩ = List.replicate ups .up ++ names.map .name := by
    cases ups with
    | succ ups => rfl
    | zero =>
      cases names with
      | nil => simp at hsome
      | cons name names => rfl
  have hsegments : (components ⟨.current ups, names⟩).map Component.segment =
      List.replicate ups [dot, dot] ++ names.map Name.bytes := by
    rw [hsteps, List.map_append, List.map_replicate, List.map_map]
    rfl
  -- only the root alone is not written as its segments
  have hroot : components ⟨.current ups, names⟩ ≠ [.root] := by
    rw [hsteps]
    intro heq
    have hmem : Component.root ∈ List.replicate ups Component.up ++ names.map .name := heq ▸ List.mem_singleton_self _
    simp at hmem
  rw [← hsegments, toPath, Path.ofComponents_eq hroot, Path.ofSegments]

/-- How the spelling of a module path starts. -/
def start (m : ModulePath) : Path.Start :=
  match m.anchor with
  | .root => .root
  | .current _ => .bare

/-- The segments of the spelling behind its start. -/
def segments (m : ModulePath) : List (List UInt8) :=
  match m.anchor with
  | .root => m.names.map Name.bytes
  | .current ups => List.replicate ups [dot, dot] ++ m.names.map Name.bytes

/-- The spelling while it is under construction: that of the current directory has no segment yet. -/
def draft (m : ModulePath) : Path :=
  .ofBody m.start m.segments

theorem allStep_segments (m : ModulePath) : Path.AllStep m.segments := by
  have hname : ∀ segment ∈ m.names.map Name.bytes, Path.staysPut segment = false ∧ slash ∉ segment := by
    intro segment hsegment
    obtain ⟨name, -, rfl⟩ := List.mem_map.mp hsegment
    exact ⟨by rw [Path.staysPut, Component.ofSegment?_name]; rfl, name.isName.2.2.2⟩
  obtain ⟨anchor, names⟩ := m
  cases anchor with
  | root => exact hname
  | current ups =>
    intro segment hsegment
    rcases List.mem_append.mp hsegment with hup | hnamed
    · rw [List.eq_of_mem_replicate hup]
      decide
    · exact hname segment hnamed

theorem segments_concat (anchor : Anchor) (names : List Name) (name : Name) :
    segments ⟨anchor, names ++ [name]⟩ = segments ⟨anchor, names⟩ ++ [name.bytes] := by
  cases anchor <;> simp [segments]

theorem segments_up (ups : Nat) : segments ⟨.current (ups + 1), []⟩ = segments ⟨.current ups, []⟩ ++ [[dot, dot]] := by
  simp [segments, List.replicate_succ']

theorem draft_concat (anchor : Anchor) (names : List Name) (name : Name) :
    draft ⟨anchor, names ++ [name]⟩ = .ofBody (start ⟨anchor, names⟩) (segments ⟨anchor, names⟩ ++ [name.bytes]) := by
  rw [← segments_concat]
  rfl

theorem draft_up (ups : Nat) :
    draft ⟨.current (ups + 1), []⟩ = .ofBody .bare (segments ⟨.current ups, []⟩ ++ [[dot, dot]]) := by
  rw [← segments_up]
  rfl

/-- A name is written behind the others. -/
theorem join_draft_name (m : ModulePath) (name : Name) : m.draft.join ⟨name.bytes⟩ = (m.move (.name name)).draft := by
  have hsteps := segments_concat m.anchor m.names name ▸ allStep_segments ⟨m.anchor, m.names ++ [name]⟩
  have hstart : m.start ≠ .here := by
    unfold start
    split <;> simp
  exact (Path.join_ofBody hstart hsteps).trans (draft_concat m.anchor m.names name).symm

/-- `..` is written behind others of its kind. -/
theorem join_draft_up (ups : Nat) : (draft ⟨.current ups, []⟩).join ⟨[dot, dot]⟩ = draft ⟨.current (ups + 1), []⟩ := by
  have hsteps := segments_up ups ▸ allStep_segments ⟨.current (ups + 1), []⟩
  exact (Path.join_ofBody Path.Start.noConfusion hsteps).trans (draft_up ups).symm

/-- **One more component moves the place that is spelled.** -/
theorem fold_draft (m : ModulePath) (step : Component) : m.draft.fold step = (m.move step).draft := by
  obtain ⟨anchor, names⟩ := m
  cases step with
  | root => rfl
  | here => rfl
  | name name => exact join_draft_name _ name
  | up =>
    cases names using List.reverseRecOn with
    | append_singleton names name =>
      have hsteps := segments_concat anchor names name ▸ allStep_segments ⟨anchor, names ++ [name]⟩
      have hlast : (draft ⟨anchor, names ++ [name]⟩).components.getLast? = some (.name name) := by
        rw [draft_concat, Path.getLast?_components_ofBody hsteps, Component.ofSegment?_name]
      have hmove : move ⟨anchor, names ++ [name]⟩ .up = ⟨anchor, names⟩ := by
        cases names with
        | nil => rfl
        | cons first names => exact congrArg (mk anchor) List.dropLast_concat
      rw [Path.fold, hlast, hmove]
      exact (congrArg Path.pop (draft_concat anchor names name)).trans (Path.pop_ofBody hsteps)
    | nil =>
      cases anchor with
      | root => rfl
      | current ups =>
        have hlast : (draft ⟨.current ups, []⟩).components.getLast? = if ups = 0 then none else some .up := by
          cases ups with
          | zero => rfl
          | succ ups =>
            have hsteps := segments_up ups ▸ allStep_segments ⟨.current (ups + 1), []⟩
            rw [draft_up, Path.getLast?_components_ofBody hsteps]
            rfl
        rw [Path.fold, hlast]
        cases ups <;> exact join_draft_up _

theorem foldl_draft (m : ModulePath) (steps : List Component) : steps.foldl Path.fold m.draft = (m.moves steps).draft := by
  induction steps generalizing m with
  | nil => rfl
  | cons step steps ih =>
    rw [List.foldl_cons, fold_draft, ih]
    rfl

/-- With a segment or more the spelling is done. -/
theorem toPath_eq_draft {m : ModulePath} (hne : m.segments ≠ []) : m.toPath = m.draft := by
  obtain ⟨anchor, names⟩ := m
  cases anchor with
  | root => exact toPath_root names
  | current ups => exact toPath_current (by simpa [segments, ← not_and_or] using hne)

theorem bytes_draft_ne_nil {m : ModulePath} (hne : m.segments ≠ []) : m.draft.bytes ≠ [] := by
  obtain ⟨b, -, hlast⟩ := Path.getLast?_intercalate hne m.allStep_segments
  obtain ⟨anchor, names⟩ := m
  cases anchor with
  | root => exact List.cons_ne_nil _ _
  | current ups =>
    intro hnil
    rw [show [slash].intercalate (segments ⟨.current ups, names⟩) = [] from hnil] at hlast
    simp at hlast

theorem eq_of_segments_eq_nil {m : ModulePath} (h : m.segments = []) : m = ⟨.root, []⟩ ∨ m = origin := by
  obtain ⟨anchor, names⟩ := m
  cases anchor with
  | root =>
    obtain rfl : names = [] := by simpa [segments] using h
    exact .inl rfl
  | current ups =>
    obtain ⟨rfl, rfl⟩ : ups = 0 ∧ names = [] := by simpa [segments] using h
    exact .inr rfl

/-- Without any, only the current directory is still to be written. -/
theorem toPath_eq (m : ModulePath) : m.toPath = if m.draft.bytes = [] then m.draft.join ⟨[dot]⟩ else m.draft := by
  by_cases hne : m.segments = []
  · rcases eq_of_segments_eq_nil hne with rfl | rfl <;> rfl
  · rw [if_neg (bytes_draft_ne_nil hne), toPath_eq_draft hne]

/-- A spelling under construction leads to the place as well. -/
theorem ofPath_draft (m : ModulePath) : ofPath m.draft = m := by
  by_cases hne : m.segments = []
  · rcases eq_of_segments_eq_nil hne with rfl | rfl <;> rfl
  · rw [← toPath_eq_draft hne, ofPath_toPath]

end ModulePath

/-- **To normalize a path is to spell the place where it leads.** -/
theorem Path.normalize_eq_toPath (p : Path) : p.normalize = (ModulePath.ofPath p).toPath := by
  have hfolded : p.components.foldl Path.fold ⟨[]⟩ = (ModulePath.ofPath p).draft := ModulePath.foldl_draft .origin p.components
  rw [ModulePath.toPath_eq, ← hfolded]
  rfl

end Bundler
