import InterfaceSchema.Proofs.Resolution.References

/-!
# Settled orders

A list of positions is settled when it can be written down one position after the other, each new
and each after everything its type refers to. This is what a walk emits.

* `Settled.nodup`, `Settled.lt`: the positions are distinct positions of the list of types;
* `Settled.of_prefix`: the beginnings of a settled order are settled;
* `Settled.reference_earlier`: what a type refers to stands before it;
* `Settled.reaches`: the names of a settled order are closed under reference steps;
* `Settled.not_reaches_self`: none of them lies on a loop.
-/

namespace InterfaceSchema

variable {types : List TypeDef} {order order' : List Nat} {a b : String} {position : Nat}

/-! ## 1. Names of an order -/

/-- One of the positions declares the name. -/
def Emitted (types : List TypeDef) (order : List Nat) (name : String) : Prop :=
  ∃ position ∈ order, DeclaredAt types position name

theorem not_emitted_nil : ¬ Emitted types [] a := by
  rintro ⟨_, h, _⟩
  cases h

theorem Emitted.mono (h : Emitted types order a) (hsub : order ⊆ order') :
    Emitted types order' a := by
  obtain ⟨p, hp, ha⟩ := h
  exact ⟨p, hsub hp, ha⟩

/-- An order that leaves out no position emits every declared name. -/
theorem Declared.emitted (h : Declared types a) (hall : ∀ p < types.length, p ∈ order) :
    Emitted types order a := by
  obtain ⟨p, hp⟩ := h.exists_at
  exact ⟨p, hall p hp.lt, hp⟩

theorem emitted_append_singleton :
    Emitted types (order ++ [position]) a ↔
      Emitted types order a ∨ DeclaredAt types position a := by
  constructor
  · rintro ⟨p, hp, ha⟩
    rcases List.mem_append.1 hp with hp | hp
    · exact Or.inl ⟨p, hp, ha⟩
    · rw [List.mem_singleton] at hp
      exact Or.inr (hp ▸ ha)
  · rintro (⟨p, hp, ha⟩ | ha)
    · exact ⟨p, List.mem_append_left _ hp, ha⟩
    · exact ⟨position, by simp, ha⟩

/-- Under distinct names a name is emitted exactly with its position. -/
theorem WellNamed.emitted_iff_mem (hn : WellNamed types) (ha : DeclaredAt types position a) :
    Emitted types order a ↔ position ∈ order := by
  constructor
  · rintro ⟨p, hp, hpa⟩
    exact hn.at_inj hpa ha ▸ hp
  · exact fun hp => ⟨position, hp, ha⟩

/-! ## 2. Settled orders -/

/-- Each position is new, and everything its type refers to is a base type or stands before it. -/
inductive Settled (types : List TypeDef) : List Nat → Prop where
  | nil : Settled types []
  | snoc {order : List Nat} {position : Nat} {t : TypeDef} (before : Settled types order)
      (ht : types[position]? = some t) (fresh : position ∉ order)
      (references : ∀ r ∈ t.references, isBaseName r = true ∨ Emitted types order r) :
      Settled types (order ++ [position])

namespace Settled

theorem nodup (h : Settled types order) : order.Nodup := by
  induction h with
  | nil => exact List.nodup_nil
  | snoc _ _ fresh _ ih =>
    refine List.nodup_append.2 ⟨ih, by simp, fun p hp q hq e => ?_⟩
    rw [List.mem_singleton] at hq
    exact fresh (hq ▸ e ▸ hp)

theorem lt (h : Settled types order) : ∀ p ∈ order, p < types.length := by
  induction h with
  | nil => simp
  | snoc _ ht _ _ ih =>
    intro p hp
    rcases List.mem_append.1 hp with hp | hp
    · exact ih p hp
    · rw [List.mem_singleton] at hp
      exact hp ▸ (List.getElem?_eq_some_iff.1 ht).1

/-- Where a settled order is broken off, it is settled. -/
theorem of_prefix (h : Settled types order) (hp : order' <+: order) : Settled types order' := by
  induction h with
  | nil => exact List.prefix_nil.1 hp ▸ .nil
  | snoc before ht fresh references ih =>
    rcases List.prefix_concat_iff.1 hp with rfl | hp
    · exact .snoc before ht fresh references
    · exact ih hp

/-- A settled order that leaves out no position is a rearrangement of all positions. -/
theorem perm_range (h : Settled types order) (hall : ∀ p < types.length, p ∈ order) :
    order.Perm (List.range types.length) := by
  refine (List.perm_ext_iff_of_nodup h.nodup List.nodup_range).2 fun p => ?_
  rw [List.mem_range]
  exact ⟨h.lt p, hall p⟩

/-- **What a type refers to is a base type or stands before it.** -/
theorem reference_earlier (h : Settled types order) :
    ∀ (k p : Nat) (t : TypeDef), order[k]? = some p → types[p]? = some t → ∀ r ∈ t.references,
      isBaseName r = true ∨ ∃ j < k, ∃ q, order[j]? = some q ∧ DeclaredAt types q r := by
  induction h with
  | nil => simp
  | @snoc order position t _ ht _ references ih =>
    intro k p u hk hu r hr
    rcases Nat.lt_trichotomy k order.length with hlt | heq | hgt
    · rw [List.getElem?_append_left hlt] at hk
      rcases ih k p u hk hu r hr with hb | ⟨j, hj, q, hq, hqr⟩
      · exact Or.inl hb
      · exact Or.inr ⟨j, hj, q, by rw [List.getElem?_append_left (by omega), hq], hqr⟩
    · subst heq
      rw [List.getElem?_concat_length] at hk
      cases hk
      rw [ht] at hu
      cases hu
      rcases references r hr with hb | ⟨q, hq, hqr⟩
      · exact Or.inl hb
      · obtain ⟨j, hj⟩ := List.getElem?_of_mem hq
        have hlt : j < order.length := (List.getElem?_eq_some_iff.1 hj).1
        exact Or.inr ⟨j, hlt, q, by rw [List.getElem?_append_left hlt, hj], hqr⟩
    · rw [List.getElem?_eq_none (by simp; omega)] at hk
      cases hk

theorem reference_declared (h : Settled types order) (hp : position ∈ order) {t : TypeDef}
    (ht : types[position]? = some t) {r : String} (hr : r ∈ t.references) :
    isBaseName r = true ∨ Declared types r := by
  obtain ⟨k, hk⟩ := List.getElem?_of_mem hp
  rcases h.reference_earlier k position t hk ht r hr with hb | ⟨_, _, _, _, hat⟩
  · exact Or.inl hb
  · exact Or.inr hat.declared

/-! ## 3. Steps stay inside -/

/-- A step from a name of a settled order leads to one that stands before the last. -/
theorem step_snoc (hn : WellNamed types) {t : TypeDef} (ht : types[position]? = some t)
    (references : ∀ r ∈ t.references, isBaseName r = true ∨ Emitted types order r)
    (h : Step types t.name b) : Emitted types order b := by
  obtain ⟨href, _, hbase⟩ := h
  rcases references b (hn.mem_references ht href) with hb | hb
  · rw [hb] at hbase
    cases hbase
  · exact hb

theorem step (hn : WellNamed types) (h : Settled types order) (ha : Emitted types order a)
    (hstep : Step types a b) : Emitted types order b := by
  induction h with
  | nil => exact absurd ha not_emitted_nil
  | snoc _ ht _ references ih =>
    rcases emitted_append_singleton.1 ha with ha | ⟨u, hu, rfl⟩
    · exact (ih ha).mono (List.subset_append_left _ _)
    · rw [ht] at hu
      cases hu
      exact (step_snoc hn ht references hstep).mono (List.subset_append_left _ _)

/-- **The names of a settled order are closed under reference steps.** -/
theorem reaches (hn : WellNamed types) (h : Settled types order) (ha : Emitted types order a)
    (hab : Relation.ReflTransGen (Step types) a b) : Emitted types order b := by
  induction hab with
  | refl => exact ha
  | tail _ hstep ih => exact step hn h ih hstep

/-- **No name of a settled order lies on a loop**: the steps of a loop through the last name would
    stay among the names before it. -/
theorem not_reaches_self (hn : WellNamed types) (h : Settled types order)
    (ha : Emitted types order a) : ¬ Relation.TransGen (Step types) a a := by
  induction h with
  | nil => exact absurd ha not_emitted_nil
  | @snoc order position t before ht fresh references ih =>
    rcases emitted_append_singleton.1 ha with ha | hat
    · exact ih ha
    · intro hloop
      obtain ⟨b, hstep, hba⟩ := Relation.TransGen.head'_iff.1 hloop
      have e : a = t.name := hat.name_inj ⟨t, ht, rfl⟩
      have hb : Emitted types order b := step_snoc hn ht references (e ▸ hstep)
      exact fresh ((hn.emitted_iff_mem hat).1 (reaches hn before hb hba))

end Settled

end InterfaceSchema
