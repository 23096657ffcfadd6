import Mathlib.Order.Lattice

/-!
# Repetitions in a row

Where equal entries of a list stand next to each other, all but one are dropped. Nothing else is
lost, and a list that does not descend ascends strictly afterwards.
-/

set_option autoImplicit false

namespace StrategyDesk

variable {α κ : Type} (same : α → α → Bool)

theorem eraseReps_loop (a : α) (list kept : List α) :
    List.eraseRepsBy.loop same a list kept =
      kept.reverse ++ List.eraseRepsBy.loop same a list [] := by
  induction list generalizing a kept with
  | nil => simp [List.eraseRepsBy.loop]
  | cons b list hypothesis =>
      rw [List.eraseRepsBy.loop, List.eraseRepsBy.loop]
      cases same a b with
      | true => exact hypothesis a kept
      | false =>
          dsimp only
          rw [hypothesis b (a :: kept), hypothesis b [a], List.reverse_cons, List.append_assoc]
          rfl

theorem eraseReps_cons_cons (a b : α) (list : List α) :
    (a :: b :: list).eraseRepsBy same =
      if same a b then (a :: list).eraseRepsBy same
      else a :: (b :: list).eraseRepsBy same := by
  rw [List.eraseRepsBy, List.eraseRepsBy.loop]
  cases same a b with
  | true => rfl
  | false =>
      dsimp only
      rw [eraseReps_loop]
      rfl

theorem mem_of_mem_eraseReps {a : α} {list : List α} (kept : a ∈ list.eraseRepsBy same) :
    a ∈ list := by
  match list with
  | [] => exact kept
  | [b] => exact kept
  | b :: c :: list =>
      rw [eraseReps_cons_cons] at kept
      by_cases alike : same b c = true
      · rw [if_pos alike] at kept
        rcases List.mem_cons.mp (mem_of_mem_eraseReps kept) with first | later
        · exact first ▸ List.mem_cons_self
        · exact List.mem_cons_of_mem _ (List.mem_cons_of_mem _ later)
      · rw [if_neg alike] at kept
        rcases List.mem_cons.mp kept with first | later
        · exact first ▸ List.mem_cons_self
        · exact List.mem_cons_of_mem _ (mem_of_mem_eraseReps later)

/-- Each key of the list is left, if entries are dropped for the sake of entries with their key. -/
theorem mem_map_eraseReps {key : α → κ} (alike : ∀ a b, same a b = true → key a = key b) {k : κ}
    {list : List α} (held : k ∈ list.map key) : k ∈ (list.eraseRepsBy same).map key := by
  match list with
  | [] => exact held
  | [a] => exact held
  | a :: b :: list =>
      rw [eraseReps_cons_cons]
      rw [List.map_cons, List.map_cons, List.mem_cons, List.mem_cons] at held
      by_cases repeated : same a b = true
      · rw [if_pos repeated]
        refine mem_map_eraseReps alike ?_
        rw [List.map_cons, List.mem_cons]
        rcases held with first | second | later
        · exact Or.inl first
        · exact Or.inl (second.trans (alike a b repeated).symm)
        · exact Or.inr later
      · rw [if_neg repeated, List.map_cons, List.mem_cons]
        rcases held with first | later
        · exact Or.inl first
        · refine Or.inr (mem_map_eraseReps alike ?_)
          rw [List.map_cons, List.mem_cons]
          exact later

/-- Where no key is below one before it and no key is kept twice, those that are left ascend. -/
theorem eraseReps_ascend [LinearOrder κ] {key : α → κ} {list : List α}
    (apart : ∀ a ∈ list, ∀ b ∈ list, key a = key b → same a b = true)
    (ordered : list.Pairwise fun a b => key a ≤ key b) :
    (list.eraseRepsBy same).Pairwise fun a b => key a < key b := by
  match list with
  | [] => exact .nil
  | [a] => exact List.pairwise_singleton _ a
  | a :: b :: list =>
      rw [eraseReps_cons_cons]
      obtain ⟨above, later⟩ := List.pairwise_cons.mp ordered
      by_cases repeated : same a b = true
      · rw [if_pos repeated]
        have fewer : a :: list ⊆ a :: b :: list :=
          List.cons_subset_cons a (List.subset_cons_self b list)
        refine eraseReps_ascend (fun c inside d within => ?_)
          (List.pairwise_cons.mpr ⟨fun c inside => ?_, (List.pairwise_cons.mp later).2⟩)
        · exact apart c (fewer inside) d (fewer within)
        · exact above c (List.mem_cons_of_mem _ inside)
      · rw [if_neg repeated, List.pairwise_cons]
        refine ⟨?_, eraseReps_ascend (fun c inside d within => ?_) later⟩
        · intro c kept
          have differ : key a ≠ key b := fun equal =>
            repeated (apart a List.mem_cons_self b (by simp) equal)
          have below : key a < key b := lt_of_le_of_ne (above b List.mem_cons_self) differ
          rcases List.mem_cons.mp (mem_of_mem_eraseReps _ kept) with rfl | inside
          · exact below
          · exact lt_of_lt_of_le below ((List.pairwise_cons.mp later).1 c inside)
        · exact apart c (List.mem_cons_of_mem _ inside) d (List.mem_cons_of_mem _ within)

end StrategyDesk
