import Mathlib.Data.List.Induction

/-!
# First occurrences

`List.eraseDups` keeps each item where it comes first. Read from the end of the list, one more item
stands last, or nowhere when it was there before.

* `eraseDups_append_of_subset`: items that were there before change nothing;
* `eraseDups_concat_of_not_mem`: an item that was not stands last;
* `idxOf_eraseDups_lt_iff`: of two items, that one comes first that occurs first;
* `idxOf_filter_lt_iff`: items that are kept by a filter keep their order.
-/

namespace InterfaceSchema

variable {α : Type} [BEq α] [LawfulBEq α] {xs ys : List α}

theorem eraseDups_append_of_subset (h : ys ⊆ xs) : (xs ++ ys).eraseDups = xs.eraseDups := by
  have hnone : ys.removeAll xs = [] := by
    rw [List.removeAll, List.filter_eq_nil_iff]
    exact fun y hy => by simpa using h hy
  rw [List.eraseDups_append, hnone, List.eraseDups_nil, List.append_nil]

theorem eraseDups_concat_of_not_mem {y : α} (h : y ∉ xs) :
    (xs ++ [y]).eraseDups = xs.eraseDups ++ [y] := by
  have hone : [y].removeAll xs = [y] := by simp [List.removeAll, h]
  rw [List.eraseDups_append, hone, List.eraseDups_cons]
  rfl

/-- **The items stand in the order of their first occurrences**; what does not occur stands behind
    everything else, in both lists. -/
theorem idxOf_eraseDups_lt_iff (xs : List α) (a b : α) :
    xs.eraseDups.idxOf a < xs.eraseDups.idxOf b ↔ xs.idxOf a < xs.idxOf b := by
  induction xs using List.reverseRecOn with
  | nil => rfl
  | append_singleton xs y ih =>
    have before : ∀ c ∈ xs, xs.idxOf c < xs.length ∧ xs.eraseDups.idxOf c < xs.eraseDups.length :=
      fun c hc => ⟨List.idxOf_lt_length_of_mem hc,
        List.idxOf_lt_length_of_mem (List.mem_eraseDups.2 hc)⟩
    have behind : ∀ c, c ∉ xs → xs.eraseDups.idxOf c = xs.eraseDups.length :=
      fun c hc => List.idxOf_eq_length fun h => hc (List.mem_eraseDups.1 h)
    -- the item that is added moves only itself, and only among what stood behind everything
    by_cases hy : y ∈ xs
    · rw [eraseDups_append_of_subset (by simpa using hy), List.idxOf_append, List.idxOf_append]
      by_cases ha : a ∈ xs <;> by_cases hb : b ∈ xs <;> simp only [ha, hb, if_true, if_false]
      · exact ih
      · have := before a ha
        have := behind b hb
        omega
      · have := before b hb
        have := behind a ha
        omega
      · have other : ∀ c, c ∉ xs → [y].idxOf c = 1 := fun c hc =>
          List.idxOf_eq_length fun h => hc (List.mem_singleton.1 h ▸ hy)
        rw [behind a ha, behind b hb, other a ha, other b hb]
        simp
    · rw [eraseDups_concat_of_not_mem hy, List.idxOf_append, List.idxOf_append, List.idxOf_append,
        List.idxOf_append]
      simp only [List.mem_eraseDups]
      by_cases ha : a ∈ xs <;> by_cases hb : b ∈ xs <;> simp only [ha, hb, if_true, if_false]
      · exact ih
      · have := before a ha
        omega
      · have := before b hb
        omega
      · omega

/-- **Items that are kept by a filter stand in the order in which they stood.** -/
theorem idxOf_filter_lt_iff {p : α → Bool} {a b : α} (ha : p a = true) (hb : p b = true) :
    ∀ xs : List α, (xs.filter p).idxOf a < (xs.filter p).idxOf b ↔ xs.idxOf a < xs.idxOf b
  | [] => Iff.rfl
  | x :: rest => by
    have ih := idxOf_filter_lt_iff ha hb rest
    cases hx : p x with
    | false =>
      -- what is left out is neither of the two, and moves both by one place
      have hne : ∀ c, p c = true → (x == c) = false := by
        intro c hc
        refine beq_false_of_ne fun e => ?_
        rw [e, hc] at hx
        cases hx
      rw [List.filter_cons_of_neg (by simp [hx]), List.idxOf_cons, List.idxOf_cons, hne a ha,
        hne b hb, cond_false, cond_false, Nat.add_lt_add_iff_right, ih]
    | true =>
      rw [List.filter_cons_of_pos hx]
      simp only [List.idxOf_cons]
      cases x == a <;> cases x == b
      · simp only [cond_false, Nat.add_lt_add_iff_right, ih]
      · simp
      · simp
      · simp

end InterfaceSchema
