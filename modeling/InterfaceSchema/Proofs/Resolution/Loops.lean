import InterfaceSchema.Proofs.Resolution.Runs

/-!
# Loops

A name that is met while it is being visited closes a loop: the part of the stack from that name on,
and the name once more. Because the stack is a chain of references without repetition, the loop is
one as well, and what led into it is left out.

* `Good.stack_split`: the stack at a name on it;
* `Good.loopAt_simple`: the path that is reported is a simple loop (`SimpleLoop`);
* `Good.reaches_self`: the name reaches itself;
* `resolveOrder_cycle_simple`: so every cycle that is reported is real and simple.
-/

namespace InterfaceSchema

variable {types : List TypeDef} {w : Walk} {top name : String} {path : List String}

/-! ## 1. Closing the stack -/

/-- A path of references that comes back to where it began and meets no other name twice. -/
structure SimpleLoop (types : List TypeDef) (path : List String) : Prop where
  two_le : 2 ≤ path.length
  closed : path.head? = path.getLast?
  declared : ∀ name ∈ path, Declared types name
  /-- Each name is among the references of the one before it. -/
  chain : path.IsChain (RefersTo types)
  simple : path.dropLast.Nodup
  length_le : path.length ≤ types.length + 1

namespace Good

/-- **The stack at a name on it**: what led to the name, and a chain from the name to the top. -/
theorem stack_split (hg : Good types w) (htop : top ∈ w.stack.getLast?) (hmem : name ∈ w.stack) :
    ∃ before after, w.stack = before ++ name :: after ∧ name ∉ before ∧
      (name :: after).Nodup ∧ (name :: after).IsChain (RefersTo types) ∧
      (name :: after).getLast? = some top := by
  obtain ⟨before, after, hs⟩ := List.append_of_mem hmem
  have hnodup := hg.nodup
  have hchain := hg.chain
  rw [hs] at hnodup hchain
  refine ⟨before, after, hs, fun h => ?_, (List.nodup_append.1 hnodup).2.1,
    hchain.right_of_append, ?_⟩
  · exact (List.nodup_append.1 hnodup).2.2 name h name List.mem_cons_self rfl
  · rw [hs] at htop
    simpa using htop

/-- A name on the stack is found there, and the path that is reported starts at its place. -/
theorem loopAt_eq {before after : List String} (hs : w.stack = before ++ name :: after)
    (hnew : name ∉ before) :
    w.placeOf? name = some before.length ∧ w.loopAt name = (name :: after) ++ [name] := by
  have hplace : w.placeOf? name = some before.length := by
    unfold Walk.placeOf?
    rw [hs, List.idxOf?_eq_some_iff]
    refine ⟨by simp, by simp, fun j hj => ?_⟩
    rw [List.getElem_append_left hj]
    exact fun e => hnew (e ▸ List.getElem_mem hj)
  refine ⟨hplace, ?_⟩
  unfold Walk.loopAt
  rw [hplace, hs]
  simp

/-- **Where the top refers to a name on the stack, the path that is reported is a simple loop.** -/
theorem loopAt_simple (hg : Good types w) (htop : top ∈ w.stack.getLast?)
    (href : RefersTo types top name) (hmem : name ∈ w.stack) :
    SimpleLoop types (w.loopAt name) := by
  obtain ⟨before, after, hs, hnew, hnodup, hchain, hlast⟩ := hg.stack_split htop hmem
  have hlen := hg.length_stack_le
  rw [hs, List.length_append, List.length_cons] at hlen
  have hon : ∀ key ∈ name :: after, key ∈ w.stack :=
    fun key hk => hs ▸ List.mem_append_right _ hk
  rw [(loopAt_eq hs hnew).2]
  refine ⟨by simp, ?_, fun key hk => ?_, ?_, ?_, ?_⟩
  · rw [List.getLast?_concat]
    rfl
  · rcases List.mem_append.1 hk with hk | hk
    · exact hg.declared key (hon key hk)
    · rw [List.mem_singleton] at hk
      exact hk ▸ hg.declared name hmem
  · refine List.isChain_append.2 ⟨hchain, List.isChain_singleton _, fun last hl first hf => ?_⟩
    rw [hlast] at hl
    cases hl
    cases hf
    exact href
  · rw [List.dropLast_concat]
    exact hnodup
  · rw [List.length_append, List.length_cons, List.length_singleton]
    omega

/-- **A name on the stack that the top refers to reaches itself.** -/
theorem reaches_self (hn : WellNamed types) (hg : Good types w) (htop : top ∈ w.stack.getLast?)
    (href : RefersTo types top name) (hmem : name ∈ w.stack) :
    Relation.TransGen (Step types) name name := by
  obtain ⟨before, after, hs, _, _, hchain, hlast⟩ := hg.stack_split htop hmem
  have hsteps : (name :: after).IsChain (Step types) := by
    refine hchain.imp_of_mem_tail_imp fun a b ha hb hab => hn.step hab (hg.declared b ?_)
    exact hs ▸ List.mem_append_right _ (List.mem_of_mem_tail hb)
  have htopEq : (name :: after).getLast (List.cons_ne_nil _ _) = top := by
    rw [List.getLast?_eq_some_getLast (List.cons_ne_nil _ _)] at hlast
    exact Option.some.inj hlast
  exact .tail' (List.relationReflTransGen_of_exists_isChain_cons after hsteps htopEq)
    (hn.step href (hg.declared name hmem))

end Good

/-! ## 2. Reported cycles -/

/-- **Every cycle that is reported is a real and simple one**, and it is read off the stack from the
    place of the name that was met again: the whole stack is never reported for want of a place. -/
theorem resolveOrder_cycle_simple (h : resolveOrder types = .error (.cycle path)) :
    SimpleLoop types path ∧
    ∃ position t before after name start, walkTo types position = .ok before ∧
      types[position]? = some t ∧
      visit types (types.length + 1) t.name position before = .error ⟨.cycle path, after⟩ ∧
      after.placeOf? name = some start ∧ path = after.stack.drop start ++ [name] := by
  rcases resolveOrder_error h with hname | ⟨_, position, before, after, hwalk, hstop⟩
  · obtain ⟨name, e | e⟩ := nameError?_eq_some types [] hname <;> cases e
  · obtain ⟨t, ht, hvisit⟩ := hstop.visit_eq
    have hg : Good types after := hstop.blocked.good
    have hfault : Fault types after (.cycle path) := hstop.blocked.fault
    cases hfault with
    | @cycle top name htop href hmem =>
      obtain ⟨led, rest, hs, hnew, _⟩ := hg.stack_split htop hmem
      have hplace := (Good.loopAt_eq hs hnew).1
      refine ⟨hg.loopAt_simple htop href hmem,
        position, t, before, after, name, led.length, hwalk, ht, hvisit, hplace, ?_⟩
      unfold Walk.loopAt
      rw [hplace]
      rfl

/-- A loop that is entered from outside: `A` leads into it and is left out. -/
theorem resolveOrder_cycle_simple_entered :
    let types : List TypeDef :=
      [⟨⟨"A", "Struct", none⟩, .struct [.new "b" (.named "B")]⟩,
        ⟨⟨"B", "Union", none⟩, .union ["Int32", "D", "C"]⟩,
        ⟨⟨"C", "Map", none⟩, .map "String" "B"⟩, ⟨⟨"D", "Int64", none⟩, .synonym⟩]
    resolveOrder types = .error (.cycle ["B", "C", "B"]) ∧ SimpleLoop types ["B", "C", "B"] ∧
      ∃ position t before after name start, walkTo types position = .ok before ∧
        types[position]? = some t ∧ visit types (types.length + 1) t.name position before =
          .error ⟨.cycle ["B", "C", "B"], after⟩ ∧
        after.placeOf? name = some start ∧ ["B", "C", "B"] = after.stack.drop start ++ [name] :=
  ⟨rfl, resolveOrder_cycle_simple rfl⟩

end InterfaceSchema
