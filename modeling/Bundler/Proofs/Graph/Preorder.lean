import Bundler.Graph.Walk
import Bundler.Proofs.Graph.Precedence
import Mathlib.Tactic.Tauto

/-!
# Depth-first pre-order

A graph is given by the successors of each vertex, in order. `DepthFirst` says in which order a depth-first search lists
the vertices it finds: a vertex stands before everything found through it, and what is found through an earlier
successor stands before what is found through a later one. Vertices that were seen before the search are left out.

* `DepthFirst.unique` — there is at most one such list
* `DepthFirst.mem_iff` — it holds exactly what is reached outside what was seen, each once (`DepthFirst.nodup`)
* `DepthFirst.mem_roots_or_found` — what is listed is a root, or it stands behind a vertex through which it was found
* `exists_depthFirst` — there is one if only finitely many vertices have successors

No vertex is lost when a search passes over what it has seen: once a vertex is listed, its successors are listed or seen
too (`DepthFirst.closed`), and this alone carries every path on.
-/

namespace Bundler

variable {α : Type}

/-- The order in which a depth-first search from the roots finds the vertices that were not seen before. -/
inductive DepthFirst (next : α → List α) : List α → List α → List α → Prop
  | nil {seen : List α} : DepthFirst next seen [] []
  | seen {seen roots order : List α} {x : α} (hseen : x ∈ seen) (hrest : DepthFirst next seen roots order) :
      DepthFirst next seen (x :: roots) order
  | found {seen roots below later : List α} {x : α} (hnew : x ∉ seen)
      (hbelow : DepthFirst next (seen ++ [x]) (next x) below)
      (hlater : DepthFirst next (seen ++ x :: below) roots later) :
      DepthFirst next seen (x :: roots) (x :: below ++ later)

/-- What can be reached from a vertex along successors, all of it outside what was seen. -/
inductive ReachedOutside (next : α → List α) (seen : List α) (start : α) : α → Prop
  | start (hnew : start ∉ seen) : ReachedOutside next seen start start
  | step {x y : α} (hx : ReachedOutside next seen start x) (hxy : y ∈ next x) (hnew : y ∉ seen) :
      ReachedOutside next seen start y

namespace ReachedOutside

variable {next : α → List α} {seen seen' : List α} {start x y : α}

/-- With fewer vertices seen before, more is reached. -/
theorem mono (hsub : ∀ z ∈ seen, z ∈ seen') (h : ReachedOutside next seen' start x) :
    ReachedOutside next seen start x := by
  induction h with
  | start hnew => exact .start fun hc => hnew (hsub _ hc)
  | step _ hxy hnew ih => exact .step ih hxy fun hc => hnew (hsub _ hc)

/-- A path that begins one step earlier. -/
theorem head (hstart : start ∉ seen) (hx : x ∈ next start) (h : ReachedOutside next seen x y) :
    ReachedOutside next seen start y := by
  induction h with
  | start hnew => exact .step (.start hstart) hx hnew
  | step _ hxy hnew ih => exact .step ih hxy hnew

end ReachedOutside

namespace DepthFirst

variable {next : α → List α} {seen roots order : List α} {x y : α}

/-! ## What is listed -/

theorem not_mem_seen (h : DepthFirst next seen roots order) : ∀ x ∈ order, x ∉ seen := by
  induction h with
  | nil => intro x hx; simp at hx
  | seen _ _ ih => exact ih
  | found hnew _ _ ihbelow ihlater =>
    intro x hx
    rcases List.mem_append.mp hx with hx | hx
    · rcases List.mem_cons.mp hx with rfl | hx
      · exact hnew
      · exact fun hc => ihbelow x hx (List.mem_append_left _ hc)
    · exact fun hc => ihlater x hx (List.mem_append_left _ hc)

theorem nodup (h : DepthFirst next seen roots order) : order.Nodup := by
  induction h with
  | nil => exact List.nodup_nil
  | seen _ _ ih => exact ih
  | found hnew hbelow hlater ihbelow ihlater =>
    refine List.nodup_append.mpr ⟨List.nodup_cons.mpr ⟨?_, ihbelow⟩, ihlater, ?_⟩
    · exact fun hc => hbelow.not_mem_seen _ hc (List.mem_append_right _ (List.mem_singleton.mpr rfl))
    · rintro y hy z hz rfl
      exact hlater.not_mem_seen y hz (List.mem_append_right _ hy)

/-- Every root is listed or was seen. -/
theorem covers (h : DepthFirst next seen roots order) : ∀ x ∈ roots, x ∈ seen ∨ x ∈ order := by
  induction h with
  | nil => intro x hx; simp at hx
  | seen hseen _ ih =>
    intro y hy
    rcases List.mem_cons.mp hy with rfl | hy
    · exact Or.inl hseen
    · exact ih y hy
  | found hnew _ _ _ ihlater =>
    intro y hy
    rcases List.mem_cons.mp hy with rfl | hy
    · exact Or.inr (by simp)
    · rcases ihlater y hy with hy | hy
      · rcases List.mem_append.mp hy with hy | hy
        · exact Or.inl hy
        · exact Or.inr (List.mem_append_left _ hy)
      · exact Or.inr (List.mem_append_right _ hy)

/-- Every successor of what is listed is listed or was seen. -/
theorem closed (h : DepthFirst next seen roots order) :
    ∀ x ∈ order, ∀ y ∈ next x, y ∈ seen ∨ y ∈ order := by
  induction h with
  | nil => intro x hx; simp at hx
  | seen _ _ ih => exact ih
  | @found seen roots below later root hnew hbelow hlater ihbelow ihlater =>
    -- seen in a part of the search means seen before it all, or listed by an earlier part
    have hfrom : ∀ y, y ∈ seen ++ [root] ∨ y ∈ below → y ∈ seen ∨ y ∈ root :: below ++ later := by
      intro y hy
      simp only [List.mem_append, List.mem_cons, List.not_mem_nil, or_false] at hy ⊢
      tauto
    intro x hx y hxy
    rcases List.mem_append.mp hx with hx | hx
    · rcases List.mem_cons.mp hx with rfl | hx
      · exact hfrom y (hbelow.covers y hxy)
      · exact hfrom y (ihbelow x hx y hxy)
    · rcases ihlater x hx y hxy with hy | hy
      · rcases List.mem_append.mp hy with hy | hy
        · exact Or.inl hy
        · exact Or.inr (List.mem_append_left _ hy)
      · exact Or.inr (List.mem_append_right _ hy)

theorem reached (h : DepthFirst next seen roots order) :
    ∀ x ∈ order, ∃ root ∈ roots, ReachedOutside next seen root x := by
  induction h with
  | nil => intro x hx; simp at hx
  | seen _ _ ih =>
    intro x hx
    obtain ⟨root, hroot, hreached⟩ := ih x hx
    exact ⟨root, List.mem_cons_of_mem _ hroot, hreached⟩
  | @found seen roots below later first hnew _ _ ihbelow ihlater =>
    intro x hx
    rcases List.mem_append.mp hx with hx | hx
    · refine ⟨first, List.mem_cons_self, ?_⟩
      rcases List.mem_cons.mp hx with rfl | hx
      · exact .start hnew
      · obtain ⟨y, hy, hreached⟩ := ihbelow x hx
        exact .head hnew hy (hreached.mono fun z hz => List.mem_append_left _ hz)
    · obtain ⟨root, hroot, hreached⟩ := ihlater x hx
      exact ⟨root, List.mem_cons_of_mem _ hroot, hreached.mono fun z hz => List.mem_append_left _ hz⟩

/-- What is listed is a root, or the successor of a vertex that stands before it. -/
theorem mem_roots_or_found (h : DepthFirst next seen roots order) :
    ∀ x ∈ order, x ∈ roots ∨ ∃ y, x ∈ next y ∧ Precedes order y x := by
  induction h with
  | nil => intro x hx; simp at hx
  | seen _ _ ih => exact fun x hx => (ih x hx).imp_left (List.mem_cons_of_mem _)
  | @found seen roots below later root hnew _ _ ihbelow ihlater =>
    have hfront : (root :: below).Sublist (root :: below ++ later) := List.sublist_append_left _ _
    intro x hx
    rcases List.mem_append.mp hx with hx | hx
    · rcases List.mem_cons.mp hx with rfl | hx
      · exact Or.inl List.mem_cons_self
      · right
        rcases ihbelow x hx with hroot | ⟨y, hyx, hprec⟩
        · exact ⟨root, hroot, (precedes_cons_of_mem hx).mono hfront⟩
        · exact ⟨y, hyx, (hprec.mono (List.sublist_cons_self _ _)).mono hfront⟩
    · rcases ihlater x hx with hroot | ⟨y, hyx, hprec⟩
      · exact Or.inl (List.mem_cons_of_mem _ hroot)
      · exact Or.inr ⟨y, hyx, hprec.mono (List.sublist_append_right _ _)⟩

/-- **From one root exactly what is reached outside what was seen is listed.** -/
theorem mem_iff (h : DepthFirst next seen [x] order) : y ∈ order ↔ ReachedOutside next seen x y := by
  constructor
  · intro hy
    obtain ⟨root, hroot, hreached⟩ := h.reached y hy
    rw [List.mem_singleton] at hroot
    exact hroot ▸ hreached
  · intro hreached
    induction hreached with
    | start hnew => exact (h.covers x (List.mem_singleton.mpr rfl)).resolve_left hnew
    | step _ hxy hnew ih => exact (h.closed _ ih _ hxy).resolve_left hnew

/-! ## There is one list -/

theorem unique {order' : List α} (h : DepthFirst next seen roots order) (h' : DepthFirst next seen roots order') :
    order = order' := by
  induction h generalizing order' with
  | nil => cases h'; rfl
  | seen hseen _ ih =>
    cases h' with
    | seen _ hrest' => exact ih hrest'
    | found hnew' => exact absurd hseen hnew'
  | found hnew _ _ ihbelow ihlater =>
    cases h' with
    | seen hseen' => exact absurd hseen' hnew
    | found _ hbelow' hlater' =>
      obtain rfl := ihbelow hbelow'
      rw [ihlater hlater']

/-- The list from several roots is made of the list from the first one and of what the others add to it. -/
theorem cons_iff : DepthFirst next seen (x :: roots) order ↔
    ∃ first later, order = first ++ later ∧ DepthFirst next seen [x] first ∧
      DepthFirst next (seen ++ first) roots later := by
  constructor
  · intro h
    cases h with
    | seen hseen hrest => exact ⟨[], order, rfl, .seen hseen .nil, by rwa [List.append_nil]⟩
    | @found _ _ below later _ hnew hbelow hlater =>
      refine ⟨x :: below, later, rfl, ?_, hlater⟩
      simpa using DepthFirst.found hnew hbelow .nil
  · rintro ⟨first, later, rfl, hfirst, hlater⟩
    cases hfirst with
    | seen hseen hrest =>
      cases hrest
      exact .seen hseen (by rwa [List.append_nil] at hlater)
    | found hnew hbelow hrest =>
      cases hrest
      rw [List.append_nil] at hlater ⊢
      exact .found hnew hbelow hlater

theorem singleton_iff (hnew : x ∉ seen) : DepthFirst next seen [x] order ↔
    ∃ below, order = x :: below ∧ DepthFirst next (seen ++ [x]) (next x) below := by
  constructor
  · intro h
    cases h with
    | seen hseen => exact absurd hseen hnew
    | @found _ _ below _ _ _ hbelow hrest =>
      cases hrest
      exact ⟨below, by rw [List.append_nil], hbelow⟩
  · rintro ⟨below, rfl, hbelow⟩
    simpa using DepthFirst.found hnew hbelow .nil

end DepthFirst

/-! ## It exists -/

/-- **A search ends if only finitely many vertices have successors.** -/
theorem exists_depthFirst [DecidableEq α] {next : α → List α} {candidates : List α}
    (hfinite : ∀ x, next x ≠ [] → x ∈ candidates) (seen roots : List α) :
    ∃ order, DepthFirst next seen roots order := by
  match roots with
  | [] => exact ⟨[], .nil⟩
  | x :: roots =>
    by_cases hseen : x ∈ seen
    · obtain ⟨order, horder⟩ := exists_depthFirst hfinite seen roots
      exact ⟨order, .seen hseen horder⟩
    · by_cases hnext : next x = []
      · have hle : unseen candidates (seen ++ [x]) ≤ unseen candidates seen :=
          unseen_mono candidates fun y hy => List.mem_append_left _ hy
        obtain ⟨later, hlater⟩ := exists_depthFirst hfinite (seen ++ [x]) roots
        exact ⟨x :: [] ++ later, .found hseen (by rw [hnext]; exact .nil) hlater⟩
      · have hlt : unseen candidates (seen ++ [x]) < unseen candidates seen :=
          unseen_lt (fun y hy => List.mem_append_left _ hy) (hfinite x hnext) hseen (by simp)
        obtain ⟨below, hbelow⟩ := exists_depthFirst hfinite (seen ++ [x]) (next x)
        have hlt' : unseen candidates (seen ++ x :: below) < unseen candidates seen :=
          unseen_lt (fun y hy => List.mem_append_left _ hy) (hfinite x hnext) hseen (by simp)
        obtain ⟨later, hlater⟩ := exists_depthFirst hfinite (seen ++ x :: below) roots
        exact ⟨x :: below ++ later, .found hseen hbelow hlater⟩
termination_by (unseen candidates seen, roots.length)
decreasing_by
  · exact Prod.Lex.right _ (by simp)
  · exact Prod.Lex.right' _ hle (by simp)
  · exact Prod.Lex.left _ _ hlt
  · exact Prod.Lex.left _ _ hlt'

end Bundler
