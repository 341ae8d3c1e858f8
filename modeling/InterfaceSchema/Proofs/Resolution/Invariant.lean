import InterfaceSchema.Proofs.Folds
import InterfaceSchema.Proofs.Resolution.Settled
import Mathlib.Data.List.Chain
import Mathlib.Data.List.Perm.Subperm

/-!
# The invariant of the walk

What holds of a walk at every moment, inside of every visit and also where an error stops it
(`Good`): the stack is a chain of references without repetition, its names are exactly those marked
as being visited, the names marked as resolved are the base types and the emitted ones, and what is
emitted is settled.

* `good_start`, `Good.enter`, `Good.emit`: each operation keeps it;
* `visit_yields`: a visit gives its stack back and emits its name, or it stops at a fault of the
  declarations (`Fault`), with its own stack still at the bottom of the stack;
* `extends_of_follow`: what has become of a reference that was followed.
-/

namespace InterfaceSchema

variable {types : List TypeDef} {w w' : Walk} {name key : String} {position : Nat}

/-! ## 1. The invariant -/

/-- What holds of a walk at every moment. -/
structure Good (types : List TypeDef) (w : Walk) : Prop where
  settled : Settled types w.ordered
  nodup : w.stack.Nodup
  /-- Each name is referred to by the one below it. -/
  chain : w.stack.IsChain (RefersTo types)
  declared : ∀ name ∈ w.stack, Declared types name
  visiting_iff : ∀ name, w.mark? name = some .visiting ↔ name ∈ w.stack
  resolved_iff : ∀ name, w.mark? name = some .resolved ↔
    isBaseName name = true ∨ Emitted types w.ordered name

theorem good_start (types : List TypeDef) : Good types .start where
  settled := .nil
  nodup := List.nodup_nil
  chain := List.isChain_nil
  declared _ h := absurd h List.not_mem_nil
  visiting_iff name := by
    rw [Walk.mark?_start]
    show _ ↔ name ∈ []
    split <;> simp
  resolved_iff name := by
    rw [Walk.mark?_start]
    have hnil : ¬ Emitted types Walk.start.ordered name := not_emitted_nil
    by_cases hb : isBaseName name = true <;> simp [hb, hnil]

namespace Good

/-- The names on the stack are not emitted. -/
theorem not_emitted (hg : Good types w) (h : name ∈ w.stack) : ¬ Emitted types w.ordered name := by
  intro he
  have hv := (hg.visiting_iff name).2 h
  rw [(hg.resolved_iff name).2 (Or.inr he)] at hv
  cases hv

/-- The stack never outgrows the declarations. -/
theorem length_stack_le (hg : Good types w) : w.stack.length ≤ types.length := by
  have hsub : w.stack ⊆ types.map (·.name) :=
    fun name h => declared_iff_mem_map.1 (hg.declared name h)
  have hle := (List.subperm_of_subset hg.nodup hsub).length_le
  rwa [List.length_map] at hle

end Good

/-- The innermost name being visited, if there is any, refers to the name. -/
def Called (types : List TypeDef) (w : Walk) (name : String) : Prop :=
  ∀ top ∈ w.stack.getLast?, RefersTo types top name

namespace Good

/-- **To begin a visit keeps the invariant.** -/
theorem enter (hg : Good types w) (hm : w.mark? name = none) (hd : Declared types name)
    (hc : Called types w name) : Good types (w.enter name) := by
  have hnew : name ∉ w.stack := by
    intro h
    rw [(hg.visiting_iff name).2 h] at hm
    cases hm
  have hne : ¬ (isBaseName name = true ∨ Emitted types w.ordered name) := by
    intro h
    rw [(hg.resolved_iff name).2 h] at hm
    cases hm
  refine ⟨hg.settled, ?_, ?_, ?_, fun key => ?_, fun key => ?_⟩
  · refine List.nodup_append.2 ⟨hg.nodup, by simp, fun a ha b hb e => ?_⟩
    rw [List.mem_singleton] at hb
    exact hnew (hb ▸ e ▸ ha)
  · refine List.isChain_append.2 ⟨hg.chain, List.isChain_singleton _, fun top htop b hb => ?_⟩
    cases hb
    exact hc top htop
  · intro key hk
    rcases List.mem_append.1 hk with hk | hk
    · exact hg.declared key hk
    · rw [List.mem_singleton] at hk
      exact hk ▸ hd
  · rw [Walk.mark?_enter]
    show _ ↔ key ∈ w.stack ++ [name]
    by_cases hk : key = name
    · simp [hk]
    · simp [hk, hg.visiting_iff key]
  · rw [Walk.mark?_enter]
    show _ ↔ isBaseName key = true ∨ Emitted types w.ordered key
    by_cases hk : key = name
    · simp [hk, hne]
    · simp [hk, hg.resolved_iff key]

/-- **To end the innermost visit keeps the invariant**, once everything the type refers to is
    emitted. -/
theorem emit (hg : Good types w) {rest : List String} {t : TypeDef}
    (hs : w.stack = rest ++ [t.name]) (ht : types[position]? = some t)
    (hr : ∀ r ∈ t.references, isBaseName r = true ∨ Emitted types w.ordered r) :
    Good types (w.emit t.name position) := by
  have hmem : t.name ∈ w.stack := by simp [hs]
  have hdrop : (w.emit t.name position).stack = rest := by simp [Walk.emit, hs]
  have hnotin : t.name ∉ rest := by
    have hnd := hg.nodup
    rw [hs] at hnd
    exact fun h => (List.nodup_append.1 hnd).2.2 _ h _ (by simp) rfl
  have hfresh : position ∉ w.ordered :=
    fun h => hg.not_emitted hmem ⟨position, h, t, ht, rfl⟩
  refine ⟨.snoc hg.settled ht hfresh hr, ?_, ?_, ?_, fun key => ?_, fun key => ?_⟩
  · exact hg.nodup.sublist (List.dropLast_sublist _)
  · exact hg.chain.dropLast
  · exact fun key hk => hg.declared key ((List.dropLast_sublist _).subset hk)
  · rw [Walk.mark?_emit, hdrop]
    by_cases hk : key = t.name
    · simp [hk, hnotin]
    · simp [hk, hg.visiting_iff key, hs]
  · rw [Walk.mark?_emit]
    show _ ↔ isBaseName key = true ∨ Emitted types (w.ordered ++ [position]) key
    rw [emitted_append_singleton]
    by_cases hk : key = t.name
    · have hat : DeclaredAt types position key := ⟨t, ht, hk.symm⟩
      simp [hk, hk ▸ hat]
    · have hat : ¬ DeclaredAt types position key :=
        fun h => hk (h.name_inj ⟨t, ht, rfl⟩)
      simp [hk, hat, hg.resolved_iff key]

end Good

/-! ## 2. What a visit does -/

/-- A later moment of a walk, with the same visits under way. -/
structure Extends (types : List TypeDef) (w w' : Walk) : Prop where
  good : Good types w'
  stack : w'.stack = w.stack
  ordered : w.ordered <+: w'.ordered

theorem Extends.refl (hg : Good types w) : Extends types w w :=
  ⟨hg, rfl, List.prefix_refl _⟩

theorem Extends.trans {w'' : Walk} (h : Extends types w w') (h' : Extends types w' w'') :
    Extends types w w'' :=
  ⟨h'.good, h'.stack.trans h.stack, h.ordered.trans h'.ordered⟩

/-- As long as a visit is the innermost one, its name is the top of the stack. -/
theorem Extends.mem_getLast? (h : Extends types (w.enter name) w') : name ∈ w'.stack.getLast? := by
  rw [h.stack]
  simp [Walk.enter]

theorem Extends.called (h : Extends types (w.enter name) w') {reference : String}
    (href : RefersTo types name reference) : Called types w' reference := by
  intro top htop
  cases h.mem_getLast?.symm.trans htop
  exact href

theorem Extends.length_stack (h : Extends types (w.enter name) w') :
    w'.stack.length = w.stack.length + 1 := by
  rw [h.stack]
  simp [Walk.enter]

/-- What the innermost name being visited refers to that cannot be resolved. -/
inductive Fault (types : List TypeDef) (w : Walk) : SchemaError → Prop where
  /-- A name that is neither declared nor a base type's. -/
  | dangling {top reference : String} (htop : top ∈ w.stack.getLast?)
      (href : RefersTo types top reference) (hbase : isBaseName reference = false)
      (hdecl : ¬ Declared types reference) : Fault types w (.danglingReference top reference)
  /-- A name that is being visited already. -/
  | cycle {top name : String} (htop : top ∈ w.stack.getLast?) (href : RefersTo types top name)
      (hmem : name ∈ w.stack) : Fault types w (.cycle (w.loopAt name))

/-- A later moment of a walk, at which it stops at a fault. -/
structure Blocked (types : List TypeDef) (w : Walk) (stop : Stop) : Prop where
  good : Good types stop.walk
  stack : w.stack <+: stop.walk.stack
  ordered : w.ordered <+: stop.walk.ordered
  fault : Fault types stop.walk stop.error

theorem Extends.blocked {stop : Stop} (h : Extends types w w') (h' : Blocked types w' stop) :
    Blocked types w stop :=
  ⟨h'.good, h.stack ▸ h'.stack, h.ordered.trans h'.ordered, h'.fault⟩

/-- A visit of the name gives the stack back with the name emitted, or stops at a fault. -/
abbrev Visits (types : List TypeDef) (w : Walk) (name : String) (answer : Except Stop Walk) : Prop :=
  Yields (fun w' => Extends types w w' ∧ Emitted types w'.ordered name) (Blocked types w) answer

/-- To follow a reference of the innermost name is to visit it, unless it is a base type's. -/
theorem follow_yields {visit : String → Nat → Walk → Except Stop Walk} {top reference : String}
    (hn : WellNamed types) (hg : Good types w) (htop : top ∈ w.stack.getLast?)
    (href : RefersTo types top reference)
    (hvisit : ∀ position, DeclaredAt types position reference →
      Visits types w reference (visit reference position w)) :
    Yields (fun w' => Extends types w w' ∧
        (isBaseName reference = true ∨ Emitted types w'.ordered reference))
      (Blocked types w) (follow types visit top w reference) := by
  unfold follow
  by_cases hb : isBaseName reference = true
  · rw [if_pos hb]
    exact ⟨.refl hg, Or.inl hb⟩
  · rw [if_neg hb]
    cases hp : positionOf? types reference with
    | none =>
      exact ⟨hg, List.prefix_refl _, List.prefix_refl _,
        .dangling htop href (by simpa using hb) (not_declared_of_positionOf?_eq_none hp)⟩
    | some position =>
      have h := hvisit position (hn.positionOf?_eq_some_iff.1 hp)
      exact h.imp (fun next hnext => ⟨hnext.1, Or.inr hnext.2⟩) fun stop hstop => hstop

/-- The references of the type that was entered last, one after the other. -/
theorem foldlM_follow_yields (visit : String → Nat → Walk → Except Stop Walk) {t : TypeDef}
    (hn : WellNamed types) (ht : types[position]? = some t) (hg : Good types (w.enter t.name))
    (hvisit : ∀ w' reference position, Extends types (w.enter t.name) w' →
      RefersTo types t.name reference → DeclaredAt types position reference →
      Visits types w' reference (visit reference position w')) :
    Yields (fun w' => Extends types (w.enter t.name) w' ∧
        ∀ r ∈ t.references, isBaseName r = true ∨ Emitted types w'.ordered r)
      (Blocked types (w.enter t.name))
      (t.references.foldlM (follow types visit t.name) (w.enter t.name)) := by
  refine foldlM_yields (fun done w' => Extends types (w.enter t.name) w' ∧
      ∀ r ∈ done, isBaseName r = true ∨ Emitted types w'.ordered r)
    t.references [] (w.enter t.name) (fun done w' r hr hkept => ?_) ⟨.refl hg, by simp⟩
  obtain ⟨hext, hdone⟩ := hkept
  have href : RefersTo types t.name r := refersTo_of_mem ht hr
  have h := follow_yields hn hext.good hext.mem_getLast? href
    (fun position hp => hvisit w' r position hext href hp)
  refine h.imp (fun next hnext => ⟨hext.trans hnext.1, fun s hs => ?_⟩) fun stop => hext.blocked
  rcases List.mem_append.1 hs with hs | hs
  · exact (hdone s hs).imp_right fun he => he.mono hnext.1.ordered.subset
  · rw [List.mem_singleton] at hs
    exact hs ▸ hnext.2

/-- **A visit from a good walk**: it succeeds with its stack given back and its name emitted, or it
    stops at a fault. The room never runs out: the stack holds distinct declared names. -/
theorem visit_yields (hn : WellNamed types) : ∀ (room : Nat) (name : String) (position : Nat)
    (w : Walk), Good types w → DeclaredAt types position name → Called types w name →
    types.length < room + w.stack.length →
    Visits types w name (visit types room name position w)
  | 0, name, position, w, hg, _, _, hroom => by
    have := hg.length_stack_le
    omega
  | room + 1, name, position, w, hg, hat, hc, hroom => by
    cases hm : w.mark? name with
    | some mark =>
      cases mark with
      | resolved =>
        rw [visit_of_resolved room position hm]
        exact ⟨.refl hg, ((hg.resolved_iff name).1 hm).resolve_left (hn.ne_base hat.declared)⟩
      | visiting =>
        have hmem : name ∈ w.stack := (hg.visiting_iff name).1 hm
        have htop := List.getLast?_eq_some_getLast (List.ne_nil_of_mem hmem)
        rw [visit_of_visiting room position hm]
        exact ⟨hg, List.prefix_refl _, List.prefix_refl _, .cycle htop (hc _ htop) hmem⟩
    | none =>
      obtain ⟨t, ht, rfl⟩ := hat
      have hd : Declared types t.name := ⟨t, List.mem_of_getElem? ht, rfl⟩
      have hin : w.stack <+: (w.enter t.name).stack := List.prefix_append _ _
      have h := foldlM_follow_yields (visit types room) hn ht (hg.enter hm hd hc)
        (fun w' r q hext href hq => by
          have hlen := hext.length_stack
          exact visit_yields hn room r q w' hext.good hq (hext.called href) (by omega))
      rw [visit_of_unmarked room hm ht]
      refine (h.imp (fun _ hlast => hlast) fun stop hstop => ?_).bind fun last hlast => ?_
      · exact ⟨hstop.good, hin.trans hstop.stack, hstop.ordered, hstop.fault⟩
      · obtain ⟨hext, hrefs⟩ := hlast
        have hstack : last.stack = w.stack ++ [t.name] := hext.stack
        refine ⟨⟨hext.good.emit hstack ht hrefs, by simp [Walk.emit, hstack], ?_⟩,
          position, by simp [Walk.emit], t, ht, rfl⟩
        exact hext.ordered.trans (List.prefix_append _ _)

/-- While a name is the innermost one being visited, whatever it refers to can be visited. -/
theorem visits_of_entered (hn : WellNamed types) {room : Nat}
    (hroom : types.length ≤ room + w.stack.length) (w' : Walk) (reference : String)
    (position : Nat) (hext : Extends types (w.enter name) w')
    (href : RefersTo types name reference) (hat : DeclaredAt types position reference) :
    Visits types w' reference (visit types room reference position w') := by
  have hlen := hext.length_stack
  exact visit_yields hn room reference position w' hext.good hat (hext.called href) (by omega)

/-- **A reference that was followed** leaves its visits under way and all that was emitted, and has
    emitted its own name, unless that is a base type's. -/
theorem extends_of_follow (hn : WellNamed types) {room : Nat}
    (hroom : types.length ≤ room + w.stack.length) {t : TypeDef} (ht : types[position]? = some t)
    (hext : Extends types (w.enter t.name) w') {reference : String}
    (hr : reference ∈ t.references) {next : Walk}
    (h : follow types (visit types room) t.name w' reference = .ok next) :
    Extends types (w.enter t.name) next ∧ w'.ordered <+: next.ordered ∧
      (isBaseName reference = true ∨ Emitted types next.ordered reference) := by
  have href : RefersTo types t.name reference := refersTo_of_mem ht hr
  have hfollow := follow_yields hn hext.good hext.mem_getLast? href fun p hp =>
    visits_of_entered hn hroom w' reference p hext href hp
  obtain ⟨hlater, hem⟩ := hfollow.of_ok h
  exact ⟨hext.trans hlater, hlater.ordered, hem⟩

end InterfaceSchema
