import InterfaceSchema.Proofs.Resolution.Loops

/-!
# When there is an order, and what it is

The resolution order of a list of declared types holds each of them once, each after everything it
refers to (`resolveOrder_perm_reference_earlier`). There is one exactly when no name is reserved or
declared twice, every reference leads somewhere, and no type reaches itself
(`resolveOrder_ok_iff`).
-/

namespace InterfaceSchema

variable {types : List TypeDef} {order : List Nat}

/-! ## 1. What the order is -/

/-- An order that is found is settled and leaves out no position. -/
theorem settled_of_resolveOrder (h : resolveOrder types = .ok order) :
    WellNamed types ∧ Settled types order ∧ ∀ p < types.length, p ∈ order := by
  obtain ⟨hn, w, hw, rfl⟩ := resolveOrder_ok h
  have hr := walkTo_reached hn (Nat.le_refl _) hw
  exact ⟨hn, hr.good.settled, hr.emitted⟩

/-- **The order holds every position once, and each type after everything it refers to.** -/
theorem resolveOrder_perm_reference_earlier (h : resolveOrder types = .ok order) :
    order.Perm (List.range types.length) ∧
    ∀ (k p : Nat) (t : TypeDef), order[k]? = some p → types[p]? = some t → ∀ r ∈ t.references,
      isBaseName r = true ∨
        ∃ j < k, ∃ q u, order[j]? = some q ∧ types[q]? = some u ∧ u.name = r := by
  obtain ⟨_, hs, hall⟩ := settled_of_resolveOrder h
  refine ⟨hs.perm_range hall, fun k p t hk ht r hr => ?_⟩
  rcases hs.reference_earlier k p t hk ht r hr with hb | ⟨j, hj, q, hq, u, hu, hname⟩
  · exact Or.inl hb
  · exact Or.inr ⟨j, hj, q, u, hq, hu, hname⟩

/-- A shared dependency, a supertype and both parts of a map, all of them declared too late. -/
theorem resolveOrder_perm_reference_earlier_late :
    let types : List TypeDef :=
      [⟨⟨"Route", "Map", none⟩, .map "Key" "Line"⟩,
        ⟨⟨"Line", "Shape", none⟩, .struct [.new "ends" (.array "Point"), .new "at" (.named "Point")]⟩,
        ⟨⟨"Key", "String", none⟩, .synonym⟩, ⟨⟨"Shape", "Struct", none⟩, .struct []⟩,
        ⟨⟨"Point", "Struct", none⟩, .struct [.new "x" (.named "Int32")]⟩]
    resolveOrder types = .ok [3, 4, 1, 2, 0] ∧
      [3, 4, 1, 2, 0].Perm (List.range types.length) ∧
      ∀ r ∈ ["Map", "Line", "Key"], isBaseName r = true ∨
        ∃ j < 4, ∃ q u, [3, 4, 1, 2, 0][j]? = some q ∧ types[q]? = some u ∧ u.name = r := by
  intro types
  have h : resolveOrder types = .ok [3, 4, 1, 2, 0] := rfl
  obtain ⟨hperm, hearlier⟩ := resolveOrder_perm_reference_earlier h
  exact ⟨h, hperm, hearlier 4 0 types[0] rfl rfl⟩

/-! ## 2. When there is one -/

namespace Settled

/-- Where everything is emitted, every reference leads somewhere. -/
theorem complete (hs : Settled types order) (hall : ∀ p < types.length, p ∈ order) :
    Complete types := by
  intro t ht r hr
  obtain ⟨p, hp⟩ := List.getElem?_of_mem ht
  exact hs.reference_declared (hall p (List.getElem?_eq_some_iff.1 hp).1) hp hr

/-- Where everything is emitted, nothing reaches itself. -/
theorem acyclic (hn : WellNamed types) (hs : Settled types order)
    (hall : ∀ p < types.length, p ∈ order) : Acyclic types := by
  intro t ht
  have hd : Declared types t.name := ⟨t, ht, rfl⟩
  exact hs.not_reaches_self hn (hd.emitted hall)

end Settled

/-- The condition of an order that an error says is broken. References are only followed where the
    names are all right. -/
def SchemaError.Breaks (types : List TypeDef) : SchemaError → Prop
  | reservedName _ | duplicateType _ => ¬ WellNamed types
  | danglingReference _ _ => WellNamed types ∧ ¬ Complete types
  | cycle _ => WellNamed types ∧ ¬ Acyclic types

/-- A fault breaks the condition that its error speaks of. -/
theorem Fault.breaks (hn : WellNamed types) {w : Walk} {error : SchemaError} (hg : Good types w)
    (h : Fault types w error) : error.Breaks types := by
  cases h with
  | dangling htop href hbase hdecl =>
    obtain ⟨t, ht, _, hr⟩ := href
    refine ⟨hn, fun hc => ?_⟩
    rcases hc t ht _ hr with hb | hd
    · rw [hb] at hbase
      cases hbase
    · exact hdecl hd
  | @cycle top name htop href hmem =>
    obtain ⟨t, ht, rfl⟩ := hg.declared name hmem
    exact ⟨hn, fun ha => ha t ht (Good.reaches_self hn hg htop href hmem)⟩

theorem SchemaError.Breaks.elim {error : SchemaError} (h : error.Breaks types)
    (hn : WellNamed types) (hc : Complete types) (ha : Acyclic types) : False := by
  cases error with
  | reservedName name => exact h hn
  | duplicateType name => exact h hn
  | danglingReference referrer reference => exact h.2 hc
  | cycle path => exact h.2 ha

/-- Where every condition of an order holds, there is no fault. -/
theorem Fault.elim (hn : WellNamed types) (hc : Complete types) (ha : Acyclic types) {w : Walk}
    {error : SchemaError} (hg : Good types w) (h : Fault types w error) : False :=
  (h.breaks hn hg).elim hn hc ha

/-- **There is an order exactly where no name is reserved or declared twice, every reference leads
    to a base type or a declaration, and no declared type reaches itself.** -/
theorem resolveOrder_ok_iff (types : List TypeDef) :
    (∃ order, resolveOrder types = .ok order) ↔
      (∀ t ∈ types, isBaseName t.name = false) ∧ (types.map (·.name)).Nodup ∧
      (∀ t ∈ types, ∀ r ∈ t.references, isBaseName r = true ∨ ∃ u ∈ types, u.name = r) ∧
      ∀ t ∈ types, ¬ Relation.TransGen (Step types) t.name t.name := by
  constructor
  · rintro ⟨order, h⟩
    obtain ⟨hn, hs, hall⟩ := settled_of_resolveOrder h
    exact ⟨hn.notBase, hn.nodup, hs.complete hall, hs.acyclic hn hall⟩
  · rintro ⟨hbase, hnodup, hc, ha⟩
    have hn : WellNamed types := ⟨hbase, hnodup⟩
    cases h : resolveOrder types with
    | ok order => exact ⟨order, rfl⟩
    | error e =>
      exfalso
      rcases resolveOrder_error h with hname | ⟨_, position, before, after, _, hstop⟩
      · rw [nameError?_eq_none_iff_wellNamed.2 hn] at hname
        cases hname
      · exact Fault.elim hn hc ha hstop.blocked.good hstop.blocked.fault

end InterfaceSchema
