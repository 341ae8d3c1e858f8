import InterfaceSchema.Proofs.Resolution.Extension

/-!
# What holds throughout a walk

A walk changes in three ways only: a name is entered, a position is emitted, and where a visit has
failed all visits under way are given up. What these keep holds of every walk that is ever seen, of
a finished one and of one that an error has stopped.

* `visit_keeps`, `resolveAt_keeps`, `resolve_keeps`: what these changes keep holds throughout a
  visit, the visit of a declaration and the whole resolution;
* `StopsAt.walkTo_eq`: a run stops with the walk in which the visit of a declaration has stopped,
  its visits given up;
* `resolve_error_cases`: so this is the walk of every error of references, and an error of names
  comes before any walk.
-/

namespace InterfaceSchema

variable {types : List TypeDef} {position count : Nat}

/-! ## 1. Kept properties -/

section Kept

variable {kept : Walk → Prop} (henter : ∀ w name, kept w → kept (w.enter name))
  (hemit : ∀ w name position, DeclaredAt types position name → kept w →
    kept (w.emit name position))

include henter hemit

/-- **What entering and emitting keep, a visit keeps**, whether it comes to its end or stops. -/
theorem visit_keeps : ∀ (room : Nat) (name : String) (position : Nat) (w : Walk),
    DeclaredAt types position name → kept w →
    Yields kept (fun stop => kept stop.walk) (visit types room name position w)
  | 0, _, _, _, _, hw => hw
  | room + 1, name, position, w, hat, hw => by
    cases hm : w.mark? name with
    | some mark =>
      cases mark with
      | resolved =>
        rw [visit_of_resolved room position hm]
        exact hw
      | visiting =>
        rw [visit_of_visiting room position hm]
        exact hw
    | none =>
      obtain ⟨t, ht, rfl⟩ := hat
      rw [visit_of_unmarked room hm ht]
      refine (foldlM_yields (fun _ => kept) t.references [] (w.enter t.name)
        (fun _ w' r _ hkept => ?_) (henter w t.name hw)).bind fun last hlast => ?_
      · unfold follow
        by_cases hb : isBaseName r = true
        · rw [if_pos hb]
          exact hkept
        · rw [if_neg hb]
          cases hp : positionOf? types r with
          | none => exact hkept
          | some p => exact visit_keeps room r p w' (positionOf?_name hp) hkept
      · exact hemit last t.name position ⟨t, ht, rfl⟩ hlast

variable (habandon : ∀ w : Walk, kept w → kept w.abandon)

include habandon

theorem resolveAt_keeps (position : Nat) {w : Walk} (hw : kept w) :
    Yields kept (fun stop => kept stop.walk) (resolveAt types w position) := by
  cases ht : types[position]? with
  | none =>
    unfold resolveAt
    rw [ht]
    exact hw
  | some t =>
    have hvisit := visit_keeps henter hemit (types.length + 1) t.name position w ⟨t, ht, rfl⟩ hw
    cases hv : visit types (types.length + 1) t.name position w with
    | ok next =>
      rw [resolveAt_of_ok ht hv]
      exact hvisit.of_ok hv
    | error stop =>
      rw [resolveAt_of_error ht hv]
      exact habandon stop.walk (hvisit.of_error hv)

/-- **What entering, emitting and giving up keep, the resolution keeps** from the start on. -/
theorem resolve_keeps (hstart : kept .start) :
    Yields kept (fun stop => kept stop.walk) (resolve types) := by
  unfold resolve
  cases nameError? [] types with
  | some error => exact hstart
  | none =>
    exact foldlM_yields (fun _ => kept) (List.range types.length) [] .start
      (fun _ _ position _ hw => resolveAt_keeps henter hemit habandon position hw) hstart

end Kept

/-! ## 2. Where a resolution stops -/

/-- **A run stops with the walk in which the visit of a declaration has stopped**, its visits given
    up. -/
theorem StopsAt.walkTo_eq {before after : Walk} {error : SchemaError}
    (hstop : StopsAt types position before after error) (hwalk : walkTo types position = .ok before)
    (hlt : position < count) : walkTo types count = .error ⟨error, after.abandon⟩ := by
  obtain ⟨t, ht, hvisit⟩ := hstop.visit_eq
  have hnext : walkTo types (position + 1) = .error ⟨error, after.abandon⟩ := by
    rw [walkTo_succ, hwalk]
    exact resolveAt_of_error ht hvisit
  obtain ⟨more, rfl⟩ := Nat.exists_eq_add_of_lt hlt
  rw [Nat.add_right_comm]
  exact walkTo_add_of_error hnext more

/-- **An error of names comes before any walk; any other stops the walk at a fault.** -/
theorem resolve_error_cases {stop : Stop} (h : resolve types = .error stop) :
    (stop.error.isOfReference = false ∧ stop.walk = .start) ∨
    (stop.error.isOfReference = true ∧ WellNamed types ∧ ∃ after, Good types after ∧
      Fault types after stop.error ∧ stop.walk = after.abandon) := by
  unfold resolve at h
  cases hname : nameError? [] types with
  | some error =>
    rw [hname] at h
    cases h
    exact Or.inl ⟨isOfReference_of_nameError hname, rfl⟩
  | none =>
    rw [hname] at h
    have hn : WellNamed types := nameError?_eq_none_iff_wellNamed.1 hname
    have hall : walkTo types types.length = .error stop := h
    obtain ⟨position, hlt, before, after, hwalk, hstop⟩ := walkTo_stops hn (Nat.le_refl _) hall
    rw [hstop.walkTo_eq hwalk hlt] at hall
    have hfault : Fault types after stop.error := hstop.blocked.fault
    refine Or.inr ⟨hfault.isOfReference, hn, after, hstop.blocked.good, hfault, ?_⟩
    exact (congrArg Stop.walk (Except.error.inj hall)).symm

end InterfaceSchema
