/-!
# What stands before what in a list

`Precedes` compares the places of two elements of a list. In a list that holds each element once it is a strict order of
the elements, in which any two of them can be compared.
-/

namespace Bundler

variable {α : Type} {l l' : List α} {x y z : α}

/-- The first element stands somewhere before the second one. -/
def Precedes (l : List α) (x y : α) : Prop :=
  [x, y].Sublist l

theorem precedes_iff_append : Precedes l x y ↔ ∃ front back, l = front ++ back ∧ x ∈ front ∧ y ∈ back := by
  simp only [Precedes, List.cons_sublist_iff (a := x), List.singleton_sublist]

theorem precedes_cons_of_mem (h : y ∈ l) : Precedes (x :: l) x y :=
  (List.singleton_sublist.mpr h).cons_cons x

theorem precedes_reverse : Precedes l.reverse x y ↔ Precedes l y x := by
  show [y, x].reverse.Sublist l.reverse ↔ [y, x].Sublist l
  exact List.reverse_sublist

namespace Precedes

theorem left_mem (h : Precedes l x y) : x ∈ l :=
  h.subset (by simp)

theorem mono (h : Precedes l x y) (hsub : l.Sublist l') : Precedes l' x y :=
  List.Sublist.trans h hsub

theorem ne (h : Precedes l x y) (hl : l.Nodup) : x ≠ y := by
  obtain ⟨front, back, rfl, hx, hy⟩ := precedes_iff_append.mp h
  exact (List.nodup_append.mp hl).2.2 x hx y hy

theorem trans (h : Precedes l x y) (h' : Precedes l y z) (hl : l.Nodup) : Precedes l x z := by
  obtain ⟨front, back, rfl, hx, hy⟩ := precedes_iff_append.mp h
  obtain ⟨front', back', hcut, hy', hz⟩ := precedes_iff_append.mp h'
  rcases List.append_eq_append_iff.mp hcut with ⟨middle, rfl, rfl⟩ | ⟨middle, rfl, rfl⟩
  · exact precedes_iff_append.mpr ⟨front, middle ++ back', rfl, hx, List.mem_append_right _ hz⟩
  · -- the second cut comes first, but the element between is on its left and on the right of the first cut
    exact absurd rfl ((List.nodup_append.mp hl).2.2 y (List.mem_append_left _ hy') y hy)

end Precedes

/-- Of two elements of a list one stands before the other. -/
theorem precedes_or_precedes (hx : x ∈ l) (hy : y ∈ l) (hne : x ≠ y) : Precedes l x y ∨ Precedes l y x := by
  obtain ⟨front, back, rfl⟩ := List.append_of_mem hx
  rcases List.mem_append.mp hy with hfront | hback
  · exact Or.inr (precedes_iff_append.mpr ⟨front, x :: back, rfl, hfront, List.mem_cons_self⟩)
  · have hback : y ∈ back := (List.mem_cons.mp hback).resolve_left hne.symm
    exact Or.inl ((precedes_cons_of_mem hback).mono (List.sublist_append_right _ _))

/-- Of the elements with a property one stands before all others. -/
theorem exists_first {p : α → Prop} (hy : y ∈ l) (hp : p y) :
    ∃ x ∈ l, p x ∧ ∀ z ∈ l, p z → z = x ∨ Precedes l x z := by
  induction l with
  | nil => simp at hy
  | cons head tail ih =>
    by_cases hhead : p head
    · refine ⟨head, List.mem_cons_self, hhead, fun z hz _ => ?_⟩
      exact (List.mem_cons.mp hz).imp_right precedes_cons_of_mem
    · have hother : ∀ z ∈ head :: tail, p z → z ∈ tail := fun z hz hpz =>
        (List.mem_cons.mp hz).resolve_left fun heq => hhead (heq ▸ hpz)
      obtain ⟨x, hx, hpx, hfirst⟩ := ih (hother y hy hp)
      refine ⟨x, List.mem_cons_of_mem _ hx, hpx, fun z hz hpz => ?_⟩
      exact (hfirst z (hother z hz hpz) hpz).imp_right (·.mono (List.sublist_cons_self _ _))

end Bundler
