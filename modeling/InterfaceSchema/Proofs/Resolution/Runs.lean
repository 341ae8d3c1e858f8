import InterfaceSchema.Proofs.Resolution.Invariant

/-!
# Runs over the declarations

The declarations are visited one after the other, each from an empty stack. `walkTo` is the run over
the first of them; a well-named list is resolved by the run over all (`WellNamed.resolveOrder_eq`).

* `walkTo_reached`: after the first `count` declarations the walk is good, idle, and has emitted
  them all;
* `walkTo_stops`: a run that fails has reached one of its declarations, whose visit stops at a
  fault;
* `foldlM_resolveAt_sameUnless`: another run that does the same with each declaration;
* `resolveOrder_ok`, `resolveOrder_error`: what the answer says of the run.
-/

namespace InterfaceSchema

variable {types : List TypeDef} {w : Walk} {order : List Nat} {error : SchemaError}
  {count position : Nat}

/-! ## 1. Runs -/

/-- The walk over the first `count` declarations. -/
def walkTo (types : List TypeDef) (count : Nat) : Except Stop Walk :=
  (List.range count).foldlM (resolveAt types) .start

theorem walkTo_succ (types : List TypeDef) (count : Nat) :
    walkTo types (count + 1) = walkTo types count >>= fun w => resolveAt types w count := by
  unfold walkTo
  rw [List.range_succ, List.foldlM_append]
  refine bind_congr fun w => ?_
  rw [List.foldlM_cons]
  exact bind_pure _

/-- The visit of the declaration at `position` stops at a fault; `after` is the walk there. -/
structure StopsAt (types : List TypeDef) (position : Nat) (before after : Walk)
    (error : SchemaError) : Prop where
  visit_eq : ∃ t, types[position]? = some t ∧
    visit types (types.length + 1) t.name position before = .error ⟨error, after⟩
  blocked : Blocked types before ⟨error, after⟩

/-- With no visit under way any name may be visited. -/
theorem called_of_idle (h : w.stack = []) (name : String) : Called types w name := by
  intro top htop
  rw [h] at htop
  cases htop

/-- **One declaration of a run.** -/
theorem resolveAt_yields (hn : WellNamed types) (hg : Good types w) (hidle : w.stack = [])
    (hlt : position < types.length) :
    Yields (fun w' => Extends types w w' ∧ position ∈ w'.ordered)
      (fun stop => ∃ after, StopsAt types position w after stop.error)
      (resolveAt types w position) := by
  have ht := List.getElem?_eq_getElem hlt
  have hat : DeclaredAt types position types[position].name := ⟨_, ht, rfl⟩
  have hvisit := visit_yields hn (types.length + 1) types[position].name position w hg hat
    (called_of_idle hidle _) (by omega)
  cases ha : visit types (types.length + 1) types[position].name position w with
  | error stop =>
    rw [resolveAt_of_error ht ha]
    exact ⟨stop.walk, ⟨_, ht, ha⟩, hvisit.of_error ha⟩
  | ok next =>
    rw [resolveAt_of_ok ht ha]
    obtain ⟨hext, hem⟩ := hvisit.of_ok ha
    exact ⟨hext, (hn.emitted_iff_mem hat).1 hem⟩

/-- The walk stands between two visits, with the first `count` declarations emitted. -/
structure Reached (types : List TypeDef) (count : Nat) (w : Walk) : Prop where
  good : Good types w
  idle : w.stack = []
  emitted : ∀ p < count, p ∈ w.ordered

theorem reached_zero (types : List TypeDef) : Reached types 0 .start where
  good := good_start types
  idle := rfl
  emitted _ h := absurd h (Nat.not_lt_zero _)

theorem Reached.succ {w' : Walk} (h : Reached types count w) (hext : Extends types w w')
    (hmem : count ∈ w'.ordered) : Reached types (count + 1) w' where
  good := hext.good
  idle := hext.stack.trans h.idle
  emitted p hp := by
    rcases Nat.lt_succ_iff_lt_or_eq.1 hp with hp | rfl
    · exact hext.ordered.subset (h.emitted p hp)
    · exact hmem

/-- **What a run of any length has reached, or where it has stopped.** -/
theorem walkTo_yields (hn : WellNamed types) : ∀ count ≤ types.length,
    Yields (Reached types count)
      (fun stop => ∃ position < count, ∃ before after, walkTo types position = .ok before ∧
        StopsAt types position before after stop.error)
      (walkTo types count)
  | 0, _ => reached_zero types
  | count + 1, hle => by
    have ih := walkTo_yields hn count (by omega)
    rw [walkTo_succ]
    cases hw : walkTo types count with
    | error stop =>
      obtain ⟨position, hlt, hstop⟩ := ih.of_error hw
      exact ⟨position, by omega, hstop⟩
    | ok w =>
      have hr : Reached types count w := ih.of_ok hw
      refine (resolveAt_yields hn hr.good hr.idle (by omega)).imp
        (fun w' h => hr.succ h.1 h.2) fun stop hstop => ?_
      obtain ⟨after, hstop⟩ := hstop
      exact ⟨count, by omega, w, after, hw, hstop⟩

theorem walkTo_reached (hn : WellNamed types) (hle : count ≤ types.length)
    (h : walkTo types count = .ok w) : Reached types count w :=
  (walkTo_yields hn count hle).of_ok h

theorem walkTo_stops (hn : WellNamed types) (hle : count ≤ types.length) {stop : Stop}
    (h : walkTo types count = .error stop) : ∃ position < count, ∃ before after,
      walkTo types position = .ok before ∧ StopsAt types position before after stop.error :=
  (walkTo_yields hn count hle).of_error h

/-- **Where the steps between two declarations are the same, the runs are.** -/
theorem foldlM_resolveAt_sameUnless (hn : WellNamed types) {excused : Stop → Prop}
    {step : Walk → Nat → Except Stop Walk} (hle : count ≤ types.length)
    (hsame : ∀ w position, Good types w → w.stack = [] → position < types.length →
      SameUnless excused (resolveAt types w position) (step w position)) :
    SameUnless excused (walkTo types count) ((List.range count).foldlM step .start) := by
  refine foldlM_sameUnless (fun w => Good types w ∧ w.stack = []) (List.range count) .start
    (fun w position hp hkept => ?_) ⟨good_start types, rfl⟩
  obtain ⟨hg, hidle⟩ := hkept
  have hlt : position < types.length := Nat.lt_of_lt_of_le (List.mem_range.1 hp) hle
  refine ⟨hsame w position hg hidle hlt, fun next hnext => ?_⟩
  obtain ⟨hext, _⟩ := (resolveAt_yields hn hg hidle hlt).of_ok hnext
  exact ⟨hext.good, hext.stack.trans hidle⟩

/-! ## 2. Answers -/

/-- The check of the names reports nothing but names that are reserved or declared twice. -/
theorem nameError?_eq_some : ∀ (types : List TypeDef) (seen : List String),
    nameError? seen types = some error →
      ∃ name, error = .reservedName name ∨ error = .duplicateType name
  | [], _, h => by cases h
  | t :: rest, seen, h => by
    unfold nameError? at h
    split at h
    · cases h
      exact ⟨t.name, Or.inl rfl⟩
    · split at h
      · cases h
        exact ⟨t.name, Or.inr rfl⟩
      · exact nameError?_eq_some rest (t.name :: seen) h

theorem resolveOrder_of_nameError (h : nameError? [] types = some error) :
    resolveOrder types = .error error := by
  unfold resolveOrder resolve
  rw [h]

/-- What a walk answers: the positions it has emitted, or the error that has stopped it. -/
def answer : Except Stop Walk → Except SchemaError (List Nat)
  | .ok w => .ok w.ordered
  | .error stop => .error stop.error

/-- A well-named list is resolved by the walk over all declarations. -/
theorem WellNamed.resolveOrder_eq (hn : WellNamed types) :
    resolveOrder types = answer (walkTo types types.length) := by
  unfold resolveOrder resolve
  rw [nameError?_eq_none_iff_wellNamed.2 hn]
  show _ = answer ((List.range types.length).foldlM (resolveAt types) .start)
  cases (List.range types.length).foldlM (resolveAt types) .start <;> rfl

/-- Either a name is refused, or the list is well-named. -/
theorem nameError_or_wellNamed (types : List TypeDef) :
    (∃ error, nameError? [] types = some error) ∨ WellNamed types := by
  cases h : nameError? [] types with
  | some error => exact Or.inl ⟨error, rfl⟩
  | none => exact Or.inr (nameError?_eq_none_iff_wellNamed.1 h)

theorem resolveOrder_ok (h : resolveOrder types = .ok order) :
    WellNamed types ∧ ∃ w, walkTo types types.length = .ok w ∧ w.ordered = order := by
  rcases nameError_or_wellNamed types with ⟨e, he⟩ | hn
  · rw [resolveOrder_of_nameError he] at h
    cases h
  · rw [hn.resolveOrder_eq] at h
    cases hw : walkTo types types.length with
    | error stop =>
      rw [hw] at h
      cases h
    | ok w =>
      rw [hw] at h
      cases h
      exact ⟨hn, w, rfl, rfl⟩

theorem resolveOrder_error (h : resolveOrder types = .error error) :
    nameError? [] types = some error ∨ WellNamed types ∧
      ∃ position before after, walkTo types position = .ok before ∧
        StopsAt types position before after error := by
  rcases nameError_or_wellNamed types with ⟨e, he⟩ | hn
  · rw [resolveOrder_of_nameError he] at h
    cases h
    exact Or.inl he
  · rw [hn.resolveOrder_eq] at h
    cases hw : walkTo types types.length with
    | ok w =>
      rw [hw] at h
      cases h
    | error stop =>
      rw [hw] at h
      cases h
      obtain ⟨position, _, hstop⟩ := walkTo_stops hn (Nat.le_refl _) hw
      exact Or.inr ⟨hn, position, hstop⟩

end InterfaceSchema
