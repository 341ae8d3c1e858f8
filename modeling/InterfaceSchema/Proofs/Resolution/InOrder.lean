import InterfaceSchema.Proofs.Resolution.Order

/-!
# Lists that are in order already

A list of types is in order when each type refers only to base types and to types that stand before
it. The walk over such a list never goes down: whatever a declaration refers to is emitted when its
turn comes, so it is emitted at once and where it stands.

* `follow_of_emitted`, `visit_of_emitted`: references to what is emitted are skipped;
* `walkTo_of_inOrder`: the walk over the first declarations emits exactly these, in order;
* `resolveOrder_of_inOrder`, `inOrder_of_resolveOrder`: the lists that are kept as they are.
-/

namespace InterfaceSchema

variable {types : List TypeDef} {w : Walk} {name reference : String} {position : Nat}

/-- Every type refers only to base types and to types that stand before it. -/
def InOrder (types : List TypeDef) : Prop :=
  ∀ (i : Nat) (t : TypeDef), types[i]? = some t → ∀ r ∈ t.references,
    isBaseName r = true ∨ ∃ j < i, ∃ u, types[j]? = some u ∧ u.name = r

/-! ## 1. References to what is emitted -/

theorem Good.mark?_eq_none (hg : Good types w) (hs : name ∉ w.stack) (hb : isBaseName name = false)
    (he : ¬ Emitted types w.ordered name) : w.mark? name = none := by
  cases hm : w.mark? name with
  | none => rfl
  | some mark =>
    cases mark with
    | visiting => exact absurd ((hg.visiting_iff name).1 hm) hs
    | resolved =>
      rcases (hg.resolved_iff name).1 hm with hbase | hem
      · rw [hb] at hbase
        cases hbase
      · exact absurd hem he

/-- A reference to a base type or to an emitted type leaves the walk as it is. -/
theorem follow_of_emitted (hn : WellNamed types) (hg : Good types w) (room : Nat) (top : String)
    (h : isBaseName reference = true ∨ Emitted types w.ordered reference) :
    follow types (visit types (room + 1)) top w reference = .ok w := by
  unfold follow
  rcases h with hb | hem
  · rw [if_pos hb]
  · obtain ⟨p, hp, hat⟩ := hem
    have hm : w.mark? reference = some .resolved :=
      (hg.resolved_iff reference).2 (Or.inr ⟨p, hp, hat⟩)
    rw [if_neg (hn.ne_base hat.declared), hn.positionOf?_eq_some_iff.2 hat]
    exact visit_of_resolved room p hm

theorem foldlM_follow_of_emitted (hn : WellNamed types) (hg : Good types w) (room : Nat)
    (top : String) : ∀ references : List String,
    (∀ r ∈ references, isBaseName r = true ∨ Emitted types w.ordered r) →
    references.foldlM (follow types (visit types (room + 1)) top) w = .ok w
  | [], _ => rfl
  | r :: rest, h => by
    rw [List.foldlM_cons, follow_of_emitted hn hg room top (h r List.mem_cons_self)]
    exact foldlM_follow_of_emitted hn hg room top rest fun s hs => h s (List.mem_cons_of_mem _ hs)

/-- **A type that refers only to what is emitted is emitted at once.** -/
theorem visit_of_emitted (hn : WellNamed types) (hg : Good types w) {t : TypeDef}
    (ht : types[position]? = some t) (hm : w.mark? t.name = none) (hc : Called types w t.name)
    (h : ∀ r ∈ t.references, isBaseName r = true ∨ Emitted types w.ordered r) (room : Nat)
    (hroom : 0 < room) :
    visit types (room + 1) t.name position w = .ok ((w.enter t.name).emit t.name position) := by
  have hd : Declared types t.name := ⟨t, List.mem_of_getElem? ht, rfl⟩
  obtain ⟨less, rfl⟩ := Nat.exists_eq_add_of_lt hroom
  rw [visit_of_unmarked _ hm ht, Nat.zero_add,
    foldlM_follow_of_emitted hn (hg.enter hm hd hc) less t.name t.references h]
  rfl

/-! ## 2. Lists in order -/

/-- **The walk over a list in order emits the declarations where they stand.** -/
theorem walkTo_of_inOrder (hn : WellNamed types) (ho : InOrder types) : ∀ count ≤ types.length,
    ∃ w, walkTo types count = .ok w ∧ w.ordered = List.range count
  | 0, _ => ⟨.start, rfl, rfl⟩
  | count + 1, hle => by
    obtain ⟨w, hw, hordered⟩ := walkTo_of_inOrder hn ho count (by omega)
    have hr : Reached types count w := walkTo_reached hn (by omega) hw
    have ht : types[count]? = some types[count] := List.getElem?_eq_getElem (by omega)
    have hat : DeclaredAt types count types[count].name := ⟨_, ht, rfl⟩
    have hrefs : ∀ r ∈ types[count].references,
        isBaseName r = true ∨ Emitted types w.ordered r := by
      intro r hmem
      rcases ho count _ ht r hmem with hb | ⟨j, hj, hdecl⟩
      · exact Or.inl hb
      · exact Or.inr ⟨j, hr.emitted j hj, hdecl⟩
    have hm : w.mark? types[count].name = none := by
      refine hr.good.mark?_eq_none (by simp [hr.idle]) (hn.not_base hat.declared) ?_
      rw [hn.emitted_iff_mem hat, hordered, List.mem_range]
      exact Nat.lt_irrefl count
    have hvisit := visit_of_emitted hn hr.good ht hm (called_of_idle hr.idle _) hrefs
      types.length (by omega)
    refine ⟨(w.enter types[count].name).emit types[count].name count, ?_, ?_⟩
    · rw [walkTo_succ, hw]
      exact resolveAt_of_ok ht hvisit
    · show w.ordered ++ [count] = List.range (count + 1)
      rw [hordered, List.range_succ]

/-- A well-named list in order is kept as it is. -/
theorem resolveOrder_of_inOrder (hn : WellNamed types) (ho : InOrder types) :
    resolveOrder types = .ok (List.range types.length) := by
  obtain ⟨w, hw, hordered⟩ := walkTo_of_inOrder hn ho types.length (Nat.le_refl _)
  rw [hn.resolveOrder_eq, hw]
  show Except.ok w.ordered = _
  rw [hordered]

/-- A list that is kept as it is has been in order. -/
theorem inOrder_of_resolveOrder (h : resolveOrder types = .ok (List.range types.length)) :
    WellNamed types ∧ InOrder types := by
  obtain ⟨hn, hs, _⟩ := settled_of_resolveOrder h
  refine ⟨hn, fun i t ht r hr => ?_⟩
  have hi : (List.range types.length)[i]? = some i :=
    List.getElem?_range (List.getElem?_eq_some_iff.1 ht).1
  rcases hs.reference_earlier i i t hi ht r hr with hb | ⟨j, hj, q, hq, hat⟩
  · exact Or.inl hb
  · have e : q = j := by
      obtain ⟨_, hget⟩ := List.getElem?_eq_some_iff.1 hq
      rw [List.getElem_range] at hget
      exact hget.symm
    exact Or.inr ⟨j, hj, e ▸ hat⟩

end InterfaceSchema
