import InterfaceSchema.Proofs.Resolution.Culprits

/-!
# The verdict on a list of types

Whether a list of types has an order depends on three conditions, and an error tells which of them
is broken. All three speak of the types that are declared and not of where they stand, so they hold
of a rearranged list as well; which error is met first does not.

* `resolveOrder_error_breaks`: what an error says of the list (`SchemaError.Breaks`);
* `conditions_of_resolveOrder`: what an order says of it;
* `WellNamed.of_perm`, `Complete.of_perm`, `Acyclic.of_perm`: the conditions of a rearranged list.
-/

namespace InterfaceSchema

variable {types types' : List TypeDef} {order : List Nat} {error : SchemaError} {w : Walk}

/-! ## 1. What an outcome says of the list -/

/-- **An error is met only where the condition it speaks of is broken.** -/
theorem resolveOrder_error_breaks (h : resolveOrder types = .error error) :
    error.Breaks types := by
  rcases resolveOrder_error_cases h with ⟨_, hname⟩ | ⟨_, hn, _, _, _, _, hstop⟩
  · have hbad : ¬ WellNamed types := by
      rw [← nameError?_eq_none_iff_wellNamed, hname]
      exact Option.some_ne_none _
    obtain ⟨name, rfl | rfl⟩ := nameError?_eq_some types [] hname <;> exact hbad
  · exact hstop.blocked.fault.breaks hn hstop.blocked.good

/-- Where there is an order, no condition is broken. -/
theorem conditions_of_resolveOrder (h : resolveOrder types = .ok order) :
    WellNamed types ∧ Complete types ∧ Acyclic types := by
  obtain ⟨hn, hs, hall⟩ := settled_of_resolveOrder h
  exact ⟨hn, hs.complete hall, hs.acyclic hn hall⟩

/-- An error of a reference is met only where the names are all right. -/
theorem SchemaError.Breaks.wellNamed_iff (h : error.Breaks types) :
    WellNamed types ↔ error.isOfReference = true := by
  cases error with
  | reservedName name => exact iff_of_false h Bool.false_ne_true
  | duplicateType name => exact iff_of_false h Bool.false_ne_true
  | danglingReference referrer reference => exact iff_of_true h.1 rfl
  | cycle path => exact iff_of_true h.1 rfl

theorem SchemaError.Breaks.dangling (h : error.Breaks types) (href : error.isOfReference = true)
    (ha : Acyclic types) : ∃ referrer reference, error = .danglingReference referrer reference := by
  cases error with
  | reservedName name => cases href
  | duplicateType name => cases href
  | danglingReference referrer reference => exact ⟨referrer, reference, rfl⟩
  | cycle path => exact absurd ha h.2

theorem SchemaError.Breaks.cycle (h : error.Breaks types) (href : error.isOfReference = true)
    (hc : Complete types) : ∃ path, error = .cycle path := by
  cases error with
  | reservedName name => cases href
  | duplicateType name => cases href
  | danglingReference referrer reference => exact absurd hc h.2
  | cycle path => exact ⟨path, rfl⟩

/-! ## 2. Rearranged lists -/

section Rearranged

variable (h : types'.Perm types)

include h

theorem declared_perm (name : String) : Declared types' name ↔ Declared types name :=
  exists_congr fun _ => and_congr_left' h.mem_iff

/-- The reference steps are those of the declared types, wherever these stand. -/
theorem step_perm : Step types' = Step types := by
  funext a b
  have href : RefersTo types' a b ↔ RefersTo types a b :=
    exists_congr fun _ => and_congr_left' h.mem_iff
  exact propext (and_congr href (and_congr_left' (declared_perm h b)))

theorem WellNamed.of_perm (hn : WellNamed types) : WellNamed types' where
  notBase t ht := hn.notBase t (h.subset ht)
  nodup := (h.map _).nodup_iff.2 hn.nodup

theorem Complete.of_perm (hc : Complete types) : Complete types' := by
  intro t ht r hr
  exact (hc t (h.subset ht) r hr).imp_right (declared_perm h r).2

theorem Acyclic.of_perm (ha : Acyclic types) : Acyclic types' := by
  intro t ht
  rw [step_perm h]
  exact ha t (h.subset ht)

end Rearranged

end InterfaceSchema
