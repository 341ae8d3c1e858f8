import InterfaceSchema.Proofs.Resolution.Order

/-!
# Who is to blame

An error of references blames the names that stand in the way: the type with the dangling reference,
or all the types of a loop. This file shows that the blame is never misplaced and never late.

* `SchemaError.culprits`: the names that an error blames;
* `StopsAt.entered`: where the visit of a declaration stops, that declaration is the bottom of the
  stack, so everything on the stack is reached from it (`Good.reaches_of_head`);
* `Blocked.culprit`: the names that are blamed are being visited, and nothing emitted is among them;
* `Reached.faultless`: whatever the declarations behind reach is emitted and without a fault;
* `resolveOrder_first_offender`: so an error of references is genuine, and it is that of the first
  declaration from which any fault is reached.
-/

namespace InterfaceSchema

variable {types : List TypeDef} {w : Walk} {order : List Nat} {error : SchemaError} {name : String}
  {count position : Nat}

/-! ## 1. Errors of references -/

namespace SchemaError

/-- Is the defect in a reference, and not in a name? -/
def isOfReference : SchemaError → Bool
  | danglingReference _ _ | cycle _ => true
  | duplicateType _ | reservedName _ => false

/-- The names whose references are to blame. -/
def culprits : SchemaError → List String
  | danglingReference referrer _ => [referrer]
  | cycle path => path
  | duplicateType _ | reservedName _ => []

end SchemaError

namespace Fault

theorem isOfReference (h : Fault types w error) : error.isOfReference = true := by
  cases h <;> rfl

theorem culprits_ne_nil (h : Fault types w error) : error.culprits ≠ [] := by
  cases h with
  | dangling => exact List.cons_ne_nil _ _
  | cycle => exact List.append_ne_nil_of_right_ne_nil _ (List.cons_ne_nil _ _)

/-- Whoever is blamed is being visited. -/
theorem mem_stack (h : Fault types w error) (hname : name ∈ error.culprits) : name ∈ w.stack := by
  cases h with
  | dangling htop =>
    rw [List.mem_singleton.1 hname]
    exact List.mem_of_getLast? htop
  | @cycle _ met _ _ hmem =>
    rcases List.mem_append.1 hname with hin | hlast
    · exact List.mem_of_mem_drop hin
    · exact List.mem_singleton.1 hlast ▸ hmem

end Fault

/-- A check that refuses a name reports no reference. -/
theorem isOfReference_of_nameError (h : nameError? [] types = some error) :
    error.isOfReference = false := by
  obtain ⟨name, rfl | rfl⟩ := nameError?_eq_some types [] h <;> rfl

/-- **An error is that of a name, or that of the declaration whose visit stops at a fault.** -/
theorem resolveOrder_error_cases (h : resolveOrder types = .error error) :
    (error.isOfReference = false ∧ nameError? [] types = some error) ∨
    (error.isOfReference = true ∧ WellNamed types ∧ ∃ position before after,
      Reached types position before ∧ StopsAt types position before after error) := by
  rcases resolveOrder_error h with hname | ⟨hn, position, before, after, hwalk, hstop⟩
  · exact Or.inl ⟨isOfReference_of_nameError hname, hname⟩
  · obtain ⟨t, ht, _⟩ := hstop.visit_eq
    have hlt : position < types.length := (List.getElem?_eq_some_iff.1 ht).1
    exact Or.inr ⟨hstop.blocked.fault.isOfReference, hn, position, before, after,
      walkTo_reached hn (Nat.le_of_lt hlt) hwalk, hstop⟩

/-! ## 2. The stack where a visit stops -/

/-- In a well-named list the stack is a chain of reference steps. -/
theorem Good.isChain_step (hn : WellNamed types) (hg : Good types w) :
    w.stack.IsChain (Step types) :=
  hg.chain.imp_of_mem_tail_imp fun _ b _ hb hab =>
    hn.step hab (hg.declared b (List.mem_of_mem_tail hb))

/-- **Everything on the stack is reached from its bottom.** -/
theorem Good.reaches_of_head (hn : WellNamed types) (hg : Good types w) {bottom : String}
    (hhead : w.stack.head? = some bottom) (hname : name ∈ w.stack) :
    Relation.ReflTransGen (Step types) bottom name := by
  obtain ⟨rest, hs⟩ := List.head?_eq_some_iff.1 hhead
  have hchain := hg.isChain_step hn
  rw [hs] at hchain hname
  have hpairs := (hchain.imp fun _ _ h => Relation.ReflTransGen.single h).pairwise
  rcases List.mem_cons.1 hname with rfl | hin
  · exact .refl
  · exact List.rel_of_pairwise_cons hpairs hin

/-- **Where the visit of an unmarked name stops, the name is still being visited.** -/
theorem visit_blocked_of_unmarked (hn : WellNamed types) (hg : Good types w) {t : TypeDef}
    (ht : types[position]? = some t) (hm : w.mark? t.name = none) (hc : Called types w t.name)
    {room : Nat} (hroom : types.length ≤ room + w.stack.length) {stop : Stop}
    (h : visit types (room + 1) t.name position w = .error stop) :
    Blocked types (w.enter t.name) stop := by
  have hd : Declared types t.name := ⟨t, List.mem_of_getElem? ht, rfl⟩
  have hrun := foldlM_follow_yields (visit types room) hn ht (hg.enter hm hd hc)
    (visits_of_entered hn hroom)
  rw [visit_of_unmarked room hm ht] at h
  cases hfold : t.references.foldlM (follow types (visit types room) t.name) (w.enter t.name) with
  | ok last =>
    rw [hfold] at h
    cases h
  | error halted =>
    rw [hfold] at h
    cases h
    exact hrun.of_error hfold

/-- **Where the visit of a declaration stops, that declaration is the bottom of the stack.** -/
theorem StopsAt.entered (hn : WellNamed types) {before after : Walk}
    (hr : Reached types position before) (hstop : StopsAt types position before after error) :
    ∃ t, types[position]? = some t ∧ after.stack.head? = some t.name := by
  obtain ⟨t, ht, hvisit⟩ := hstop.visit_eq
  refine ⟨t, ht, ?_⟩
  have hm : before.mark? t.name = none := by
    cases hmark : before.mark? t.name with
    | none => rfl
    | some mark =>
      cases mark with
      | resolved =>
        rw [visit_of_resolved types.length position hmark] at hvisit
        cases hvisit
      | visiting =>
        have hmem := (hr.good.visiting_iff _).1 hmark
        rw [hr.idle] at hmem
        cases hmem
  have hblocked := visit_blocked_of_unmarked hn hr.good ht hm (called_of_idle hr.idle _)
    (Nat.le_add_right _ _) hvisit
  obtain ⟨above, habove⟩ := hblocked.stack
  have hbottom : (before.enter t.name).stack = [t.name] := by simp [Walk.enter, hr.idle]
  rw [hbottom] at habove
  show after.stack.head? = some t.name
  rw [← habove]
  rfl

/-! ## 3. What is emitted is blameless -/

/-- The name refers to base types and declarations only, and does not lie on a loop. -/
structure Faultless (types : List TypeDef) (name : String) : Prop where
  complete : ∀ r, RefersTo types name r → isBaseName r = true ∨ Declared types r
  acyclic : ¬ Relation.TransGen (Step types) name name

/-- The names of a settled order are without a fault. -/
theorem Settled.faultless (hn : WellNamed types) (hs : Settled types order)
    (h : Emitted types order name) : Faultless types name := by
  refine ⟨fun r href => ?_, hs.not_reaches_self hn h⟩
  obtain ⟨p, hp, t, ht, rfl⟩ := h
  exact hs.reference_declared hp ht (hn.mem_references ht href)

/-- What the declarations behind a walk reach is emitted. -/
theorem Reached.emitted_of_reaches (hn : WellNamed types) (hr : Reached types count w)
    {j : Nat} (hj : j < count) {u : TypeDef} (hu : types[j]? = some u)
    (h : Relation.ReflTransGen (Step types) u.name name) : Emitted types w.ordered name :=
  hr.good.settled.reaches hn ⟨j, hr.emitted j hj, u, hu, rfl⟩ h

/-- **Whoever is blamed is declared, and was not emitted before.** -/
theorem Blocked.culprit {stop : Stop} (h : Blocked types w stop)
    (hname : name ∈ stop.error.culprits) :
    Declared types name ∧ ¬ Emitted types w.ordered name := by
  have hmem : name ∈ stop.walk.stack := h.fault.mem_stack hname
  exact ⟨h.good.declared name hmem,
    fun he => h.good.not_emitted hmem (he.mono h.ordered.subset)⟩

/-! ## 4. The first offender -/

/-- **An error of references is genuine and comes from the first offender**: a dangling reference is
    one, and there is a declaration that reaches whoever is blamed, while the declarations before it
    reach nobody who is blamed and nothing that is at fault. -/
theorem resolveOrder_first_offender (h : resolveOrder types = .error error)
    (href : error.isOfReference = true) :
    (∀ referrer reference, error = .danglingReference referrer reference →
      RefersTo types referrer reference ∧ isBaseName reference = false ∧
        ¬ Declared types reference) ∧
    ∃ (k : Nat) (t : TypeDef), types[k]? = some t ∧ error.culprits ≠ [] ∧
      (∀ name ∈ error.culprits, Relation.ReflTransGen (Step types) t.name name) ∧
      ∀ j < k, ∀ u : TypeDef, types[j]? = some u →
        ∀ name, Relation.ReflTransGen (Step types) u.name name →
          name ∉ error.culprits ∧ Faultless types name := by
  rcases resolveOrder_error_cases h with ⟨hname, _⟩ | ⟨_, hn, k, before, after, hr, hstop⟩
  · rw [href] at hname
    cases hname
  · have hblocked := hstop.blocked
    refine ⟨fun referrer reference e => ?_, ?_⟩
    · have hfault : Fault types after (.danglingReference referrer reference) :=
        e ▸ hblocked.fault
      cases hfault with
      | dangling _ hrefers hbase hdecl => exact ⟨hrefers, hbase, hdecl⟩
    · obtain ⟨t, ht, hbottom⟩ := hstop.entered hn hr
      refine ⟨k, t, ht, hblocked.fault.culprits_ne_nil, fun name hc => ?_,
        fun j hj u hu name hreach => ?_⟩
      · exact hblocked.good.reaches_of_head hn hbottom (hblocked.fault.mem_stack hc)
      · have hem := hr.emitted_of_reaches hn hj hu hreach
        exact ⟨fun hc => (hblocked.culprit hc).2 hem, hr.good.settled.faultless hn hem⟩

/-- `Inner` dangles and loops, and `Last` loops as well: the first reference at fault is reported,
    and `Pair` and `Point`, which are declared before it, have nothing to do with it. -/
theorem resolveOrder_first_offender_of_three :
    let types : List TypeDef :=
      [⟨⟨"Pair", "Struct", none⟩, .struct [.new "first" (.named "Point")]⟩,
        ⟨⟨"Point", "Int32", none⟩, .synonym⟩, ⟨⟨"Outer", "Array", none⟩, .array "Inner"⟩,
        ⟨⟨"Inner", "Union", none⟩, .union ["Point", "Gone", "Inner"]⟩,
        ⟨⟨"Last", "Last", none⟩, .synonym⟩]
    resolveOrder types = .error (.danglingReference "Inner" "Gone") ∧
      (RefersTo types "Inner" "Gone" ∧ isBaseName "Gone" = false ∧ ¬ Declared types "Gone") ∧
      ∃ (k : Nat) (t : TypeDef), types[k]? = some t ∧
        Relation.ReflTransGen (Step types) t.name "Inner" ∧
        ∀ j < k, ∀ u : TypeDef, types[j]? = some u →
          ∀ name, Relation.ReflTransGen (Step types) u.name name →
            name ∉ ["Inner"] ∧ Faultless types name := by
  intro types
  have h : resolveOrder types = .error (.danglingReference "Inner" "Gone") := rfl
  obtain ⟨hgenuine, k, t, ht, _, hreach, hbefore⟩ := resolveOrder_first_offender h rfl
  exact ⟨h, hgenuine "Inner" "Gone" rfl, k, t, ht, hreach "Inner" (List.mem_singleton_self _),
    hbefore⟩

end InterfaceSchema
