import Bundler.Proofs.Path.Normalize
import Bundler.Store.DirectoryTree

/-!
# The directories on the way to a file

Before a file is written, its parent is made, the parent of that, and so on (`enclosing_eq`). Each of these paths is cut off
from the path of the file and not written anew, so a slash or a `.` too many is kept where it stands. Its components begin
those of the path (`exists_of_mem_enclosing`).
-/

namespace Bundler.DirectoryTree

variable {p q : Path} {start : Path.Start} {last segment : List UInt8} {reversed : List (List UInt8)}

theorem beginnings_cons_of_staysPut (h : Path.staysPut last = true) :
    beginnings start (last :: reversed) = beginnings start reversed := by
  rw [beginnings, outward, List.filter_cons_of_neg (by simp [endsInStep, h])]
  rfl

theorem beginnings_cons (h : Path.staysPut last = false) :
    beginnings start (last :: reversed) =
      .ofBody start (last :: reversed).reverse :: beginnings start reversed := by
  rw [beginnings, outward, List.filter_cons_of_pos (by simp [endsInStep, h])]
  rfl

/-- What stays put at the end makes no difference. -/
theorem beginnings_dropWhile (reversed : List (List UInt8)) :
    beginnings start (reversed.dropWhile Path.staysPut) = beginnings start reversed := by
  induction reversed with
  | nil => rfl
  | cons last reversed ih =>
    cases hlast : Path.staysPut last with
    | true => rw [List.dropWhile_cons_of_pos hlast, ih, beginnings_cons_of_staysPut hlast]
    | false => rw [List.dropWhile_cons_of_neg (by simp [hlast])]

theorem mem_beginnings (h : q ∈ beginnings start reversed) :
    q ∈ alone start ∨ ∃ segments last after, reversed.reverse = segments ++ last :: after ∧
      Path.staysPut last = false ∧ q = .ofBody start (segments ++ [last]) := by
  induction reversed with
  | nil => exact .inl h
  | cons last before ih =>
    have hlonger : (∃ segments other after, before.reverse = segments ++ other :: after ∧
        Path.staysPut other = false ∧ q = .ofBody start (segments ++ [other])) →
        ∃ segments other after, (last :: before).reverse = segments ++ other :: after ∧
          Path.staysPut other = false ∧ q = .ofBody start (segments ++ [other]) := by
      rintro ⟨segments, other, after, hreverse, hstep⟩
      exact ⟨segments, other, after ++ [last], by simp [hreverse], hstep⟩
    cases hlast : Path.staysPut last with
    | true => exact (ih (beginnings_cons_of_staysPut hlast ▸ h)).imp_right hlonger
    | false =>
      rcases List.mem_cons.mp (beginnings_cons hlast ▸ h) with rfl | hbefore
      · exact .inr ⟨before.reverse, last, [], List.reverse_cons, hlast, by rw [List.reverse_cons]⟩
      · exact (ih hbefore).imp_right hlonger

/-- What begins a path is found again behind the start. -/
theorem isBody_of_prefix {segments : List (List UInt8)} (hbegins : segments <+: p.body) (hmem : segment ∈ segments)
    (hstep : Path.staysPut segment = false) : Path.IsBody p.start segments := by
  have huncut : ∀ other ∈ segments, slash ∉ other := by
    intro other hother
    have hsegment : other ∈ p.segments := by
      rw [p.segments_eq]
      exact List.mem_append_right _ (hbegins.subset hother)
    exact Path.slash_notMem_of_mem_split hsegment
  refine ⟨List.ne_nil_of_mem hmem, huncut, fun hbare first hfirst => ?_⟩
  obtain ⟨rest, rfl⟩ : ∃ rest, segments = first :: rest := List.head?_eq_some_iff.mp hfirst
  obtain ⟨after, hafter⟩ := hbegins
  have hsegments : p.segments = first :: (rest ++ after) := by rw [p.segments_eq, hbare, ← hafter]; rfl
  by_contra hstays
  rw [Bool.not_eq_false] at hstays
  rcases Path.eq_of_staysPut hstays (huncut first List.mem_cons_self) with rfl | rfl
  · -- an empty first segment is all there is of a path that does not start at the root
    obtain ⟨rfl, -⟩ := List.append_eq_nil_iff.mp (Path.eq_nil_of_bare hbare hsegments)
    rw [List.mem_singleton.mp hmem] at hstep
    exact absurd hstep (by decide)
  · simp only [Path.start, hsegments, List.head?_cons, if_true] at hbare
    split at hbare <;> cases hbare

/-- What is left of a body when what stays put at its end is left out. -/
theorem body_eq_of_dropWhile (h : p.body.reverse.dropWhile Path.staysPut = last :: reversed) :
    Path.staysPut last = false ∧ ∃ after, p.body = reversed.reverse ++ last :: after := by
  obtain ⟨after, hafter⟩ := List.dropWhile_suffix (l := p.body.reverse) Path.staysPut
  rw [h] at hafter
  refine ⟨?_, after.reverse, ?_⟩
  · have hhead := List.head_dropWhile_not Path.staysPut (l := p.body.reverse) (by simp [h])
    simpa [h] using hhead
  · rw [← List.reverse_reverse p.body, ← hafter]
    simp

/-- **The directories on the way are the parent, its parent, and so on as far as there is something left.** -/
theorem enclosing_eq (p : Path) :
    enclosing p =
      match p.parent? with
      | none => []
      | some parent => if parent.bytes = [] then [] else parent :: enclosing parent := by
  rw [enclosing, ← beginnings_dropWhile, Path.parent?]
  cases hreversed : p.body.reverse.dropWhile Path.staysPut with
  | nil => cases p.start <;> rfl
  | cons last before =>
    obtain ⟨hlast, after, hbody⟩ := body_eq_of_dropWhile hreversed
    rw [beginnings_cons hlast, List.tail_cons, ← beginnings_dropWhile]
    dsimp only
    cases hbefore : before.dropWhile Path.staysPut with
    | nil => cases p.start <;> rfl
    | cons second others =>
      -- what begins the path here is the parent itself, and is taken apart as it was put together
      have hsecond : Path.staysPut second = false := by
        simpa [hbefore] using List.head_dropWhile_not Path.staysPut (l := before) (by simp [hbefore])
      have hbegins : (second :: others).reverse <+: p.body := by
        rw [hbody, ← hbefore]
        exact (List.reverse_prefix.mpr (List.dropWhile_suffix _)).trans (List.prefix_append _ _)
      have hparent := isBody_of_prefix hbegins (List.mem_reverse.mpr List.mem_cons_self) hsecond
      rw [enclosing, Path.start_ofBody hparent, Path.body_ofBody hparent, List.reverse_reverse, beginnings_cons hsecond,
        if_neg (Path.bytes_ofBody_ne_nil hparent)]
      rfl

theorem filterMap_ne_nil {segments : List (List UInt8)} (hmem : segment ∈ segments)
    (hstep : Path.staysPut segment = false) : segments.filterMap Component.ofSegment? ≠ [] := by
  obtain ⟨step, hstep⟩ := Option.isSome_iff_exists.mp (by simpa [Path.staysPut] using hstep)
  exact List.ne_nil_of_mem (List.mem_filterMap.mpr ⟨segment, hmem, hstep⟩)

theorem components_of_mem_alone (h : q ∈ alone start) : q.components = start.steps ∧ q.components ≠ [] := by
  cases start with
  | root => exact List.mem_singleton.mp h ▸ ⟨rfl, by decide⟩
  | here => exact List.mem_singleton.mp h ▸ ⟨rfl, by decide⟩
  | bare => exact absurd h List.not_mem_nil

/-- The directories on the way have a beginning of the components, which is not empty and not all of them. -/
theorem exists_of_mem_enclosing (h : q ∈ enclosing p) :
    ∃ after, p.components = q.components ++ after ∧ q.components ≠ [] ∧ after ≠ [] := by
  rw [enclosing, ← beginnings_dropWhile] at h
  cases hreversed : p.body.reverse.dropWhile Path.staysPut with
  | nil =>
    rw [hreversed] at h
    cases hstart : p.start <;> rw [hstart] at h <;> exact absurd h List.not_mem_nil
  | cons last before =>
    obtain ⟨hlast, after, hbody⟩ := body_eq_of_dropWhile hreversed
    rw [hreversed, beginnings_cons hlast, List.tail_cons] at h
    rcases mem_beginnings h with halone | ⟨segments, other, others, hbefore, hother, rfl⟩
    · obtain ⟨hsteps, hne⟩ := components_of_mem_alone halone
      refine ⟨p.body.filterMap Component.ofSegment?, by rw [hsteps, p.components_eq], hne, ?_⟩
      exact filterMap_ne_nil (hbody ▸ List.mem_append_right _ List.mem_cons_self) hlast
    · have hsplit : p.body = (segments ++ [other]) ++ (others ++ last :: after) := by rw [hbody, hbefore]; simp
      have hparent := isBody_of_prefix ⟨_, hsplit.symm⟩ (by simp) hother
      have hsteps := Path.components_eq (.ofBody p.start (segments ++ [other]))
      rw [Path.start_ofBody hparent, Path.body_ofBody hparent] at hsteps
      refine ⟨(others ++ last :: after).filterMap Component.ofSegment?, ?_, ?_, filterMap_ne_nil (by simp) hlast⟩
      · rw [hsteps, p.components_eq, hsplit, List.filterMap_append, List.append_assoc]
      · rw [hsteps]
        exact List.append_ne_nil_of_right_ne_nil _ (filterMap_ne_nil (by simp) hother)

end Bundler.DirectoryTree
