import InterfaceSchema.Proofs.Resolution.Order
import InterfaceSchema.Schema

/-!
# What finalizing does to the types

Finalizing takes the types out of their slots at the positions of the order and leaves the rest of
the draft alone. The order is a rearrangement of all positions, so no slot is found empty and none
is left full.

* `takeSlots_eq_arrange`: where no position comes twice, taking types out is reading them off;
* `finalize_ok_iff`, `finalize_error_iff`: the outcome is that of the order;
* `map_some_arrange`, `getElem?_arrange`: the type at a place of the schema is the one at the
  position that stands there in the order;
* `arrange_perm`: a finished schema has the types of its draft;
* `types_build`: a draft has the types that were declared, in the order of declaration.
-/

namespace InterfaceSchema

variable {types : List TypeDef} {order : List Nat} {d : Draft} {s : Schema} {error : SchemaError}

/-! ## 1. Types at positions -/

/-- The types at the positions. -/
abbrev arrange (types : List TypeDef) (order : List Nat) : List TypeDef :=
  order.filterMap (types[·]?)

/-- Where every position is one of the list, none is dropped. -/
theorem map_some_arrange : ∀ order : List Nat, (∀ p ∈ order, p < types.length) →
    (arrange types order).map some = order.map (types[·]?)
  | [], _ => rfl
  | p :: rest, h => by
    have ih := map_some_arrange rest fun q hq => h q (List.mem_cons_of_mem _ hq)
    have hlt : p < types.length := h p List.mem_cons_self
    have hp : types[p]? = some types[p] := List.getElem?_eq_getElem hlt
    show (List.filterMap (types[·]?) (p :: rest)).map some = _
    rw [List.filterMap_cons_some hp, List.map_cons, List.map_cons, ih, hp]

theorem getElem?_arrange (h : ∀ p ∈ order, p < types.length) (k : Nat) :
    (arrange types order)[k]? = order[k]?.bind (types[·]?) := by
  have hk := congrArg (·[k]?) (map_some_arrange order h)
  simp only [List.getElem?_map] at hk
  cases ha : (arrange types order)[k]? with
  | none =>
    rw [ha, Option.map_none] at hk
    rw [Option.map_eq_none_iff.1 hk.symm]
    rfl
  | some t =>
    rw [ha, Option.map_some] at hk
    obtain ⟨p, hp, ht⟩ := Option.map_eq_some_iff.1 hk.symm
    rw [hp]
    exact ht.symm

/-- All positions in a row give the types back. -/
theorem arrange_range (types : List TypeDef) : arrange types (List.range types.length) = types := by
  refine List.ext_getElem? fun k => ?_
  rw [getElem?_arrange fun p hp => List.mem_range.1 hp]
  rcases Nat.lt_or_ge k types.length with hlt | hge
  · rw [List.getElem?_range hlt]
    rfl
  · rw [List.getElem?_eq_none hge, List.getElem?_eq_none (by simpa using hge)]
    rfl

/-- **A rearrangement of all positions gives a rearrangement of all types.** -/
theorem arrange_perm (h : order.Perm (List.range types.length)) :
    (arrange types order).Perm types := by
  have hp : (arrange types order).Perm (arrange types (List.range types.length)) := h.filterMap _
  rwa [arrange_range] at hp

/-- **Where no position comes twice, no slot is found empty**: what is taken out is what stands
    there. -/
theorem takeSlots_eq_arrange : ∀ (order : List Nat) (slots : List (Option TypeDef)), order.Nodup →
    (∀ p ∈ order, slots[p]?.join = types[p]?) → Draft.takeSlots slots order = arrange types order
  | [], _, _, _ => rfl
  | p :: rest, slots, hnodup, hslots => by
    obtain ⟨hnew, hrest⟩ := List.nodup_cons.1 hnodup
    have hp : slots[p]?.join = types[p]? := hslots p List.mem_cons_self
    have hleft : ∀ q ∈ rest, slots[q]?.join = types[q]? :=
      fun q hq => hslots q (List.mem_cons_of_mem _ hq)
    unfold Draft.takeSlots
    rw [hp]
    cases ht : types[p]? with
    | none =>
      rw [arrange, List.filterMap_cons_none ht]
      exact takeSlots_eq_arrange rest slots hrest hleft
    | some t =>
      rw [arrange, List.filterMap_cons_some ht]
      refine congrArg (t :: ·) (takeSlots_eq_arrange rest (slots.set p none) hrest fun q hq => ?_)
      have hne : p ≠ q := fun e => hnew (e ▸ hq)
      rw [List.getElem?_set_ne hne]
      exact hleft q hq

/-- From full slots the types of an order without repetition are taken as they stand. -/
theorem takeSlots_map_some (h : order.Nodup) :
    Draft.takeSlots (types.map some) order = arrange types order := by
  refine takeSlots_eq_arrange order (types.map some) h fun p _ => ?_
  rw [List.getElem?_map]
  cases types[p]? <;> rfl

/-! ## 2. Outcomes -/

/-- **A draft is finished exactly when its types have an order**, and then the schema is the draft
    with its types in that order. -/
theorem finalize_ok_iff : d.finalize = .ok s ↔ ∃ order, resolveOrder d.types = .ok order ∧
    s = ⟨d.header, arrange d.types order, d.resources⟩ := by
  unfold Draft.finalize
  cases horder : resolveOrder d.types with
  | ok order =>
    obtain ⟨_, hs, _⟩ := settled_of_resolveOrder horder
    simp only [takeSlots_map_some hs.nodup]
    constructor
    · intro h
      cases h
      exact ⟨order, rfl, rfl⟩
    · rintro ⟨_, hsame, rfl⟩
      cases hsame
      rfl
  | error e =>
    constructor
    · intro h
      cases h
    · rintro ⟨_, horder, _⟩
      cases horder

/-- **A draft fails with the error of its types.** -/
theorem finalize_error_iff :
    d.finalize = .error error ↔ resolveOrder d.types = .error error := by
  unfold Draft.finalize
  cases resolveOrder d.types <;> simp

/-- A finished schema has the types of its draft. -/
theorem types_perm_of_finalize (h : d.finalize = .ok s) : s.types.Perm d.types := by
  obtain ⟨order, horder, rfl⟩ := finalize_ok_iff.1 h
  obtain ⟨_, hs, hall⟩ := settled_of_resolveOrder horder
  exact arrange_perm (hs.perm_range hall)

/-! ## 3. Declarations -/

/-- The type that a call declares. -/
def Draft.Call.type? : Draft.Call → Option TypeDef
  | .type t => some t
  | .namespaceName _ | .version _ | .base _ | .comment _ | .resource _ => none

theorem Draft.types_apply (d : Draft) (call : Draft.Call) :
    (d.apply call).types = d.types ++ call.type?.toList := by
  cases call with
  | type t => rfl
  | _ => exact (List.append_nil _).symm

/-- **A draft has the types that were declared, in the order of declaration.** -/
theorem Draft.types_build (name : String) (calls : List Draft.Call) :
    (Draft.build name calls).types = calls.filterMap Draft.Call.type? :=
  foldl_collects Draft.types_apply calls (Draft.new name)

end InterfaceSchema
