import InterfaceSchema.Proofs.Resolution.Extension
import Mathlib.Data.Nat.Find

/-!
# The frontier of an order

How far has the order come when the first declarations are all there? A walk that goes down from
each declaration in turn has then emitted what these declarations reach, and nothing else: no type
is moved up without need.

* `visit_emits`, `walkTo_emits`: what a visit adds is reached from its name, so what a run has
  emitted is reached from the declarations behind it;
* `Frontier`: where the order holds the first `k + 1` positions for the first time
  (`exists_frontier`);
* `Frontier.mem_iff`: up to there it holds exactly what the first `k + 1` declarations reach;
* `resolveOrder_frontier`: so it is with every order that is found, and what stands before a
  declaration that it follows in the list is needed.
-/

namespace InterfaceSchema

variable {types : List TypeDef} {w w' : Walk} {order : List Nat} {name : String} {i k n p : Nat}

/-! ## 1. What is emitted is reached -/

/-- The type declared at `p` is reached from the one declared at `i`, in no step or more. -/
def Reaches (types : List TypeDef) (i p : Nat) : Prop :=
  ∃ a b, DeclaredAt types i a ∧ DeclaredAt types p b ∧ Relation.ReflTransGen (Step types) a b

/-- The second walk has emitted what the first has, and otherwise only what the name reaches. -/
def EmitsReached (types : List TypeDef) (name : String) (w w' : Walk) : Prop :=
  ∀ p ∈ w'.ordered, p ∈ w.ordered ∨
    ∃ b, DeclaredAt types p b ∧ Relation.ReflTransGen (Step types) name b

/-- What the reference of a name reaches, the name reaches. -/
theorem EmitsReached.trans_step {reference : String} {w'' : Walk} (h : EmitsReached types name w w')
    (hstep : Step types name reference) (h' : EmitsReached types reference w' w'') :
    EmitsReached types name w w'' := by
  intro p hp
  rcases h' p hp with hp | ⟨b, hb, hreach⟩
  · exact h p hp
  · exact Or.inr ⟨b, hb, hreach.head hstep⟩

/-- **A visit emits only what its name reaches**, whatever walk it starts from. -/
theorem visit_emits (hn : WellNamed types) : ∀ (room : Nat) (name : String) (position : Nat)
    (w : Walk), DeclaredAt types position name →
    Yields (EmitsReached types name w) (fun _ => True) (visit types room name position w)
  | 0, _, _, _, _ => trivial
  | room + 1, name, position, w, hat => by
    cases hm : w.mark? name with
    | some mark =>
      cases mark with
      | resolved =>
        rw [visit_of_resolved room position hm]
        exact fun p hp => Or.inl hp
      | visiting =>
        rw [visit_of_visiting room position hm]
        trivial
    | none =>
      obtain ⟨t, ht, rfl⟩ := hat
      have hrun : Yields (EmitsReached types t.name w) (fun _ => True)
          (t.references.foldlM (follow types (visit types room) t.name) (w.enter t.name)) := by
        refine foldlM_yields (fun _ => EmitsReached types t.name w) t.references []
          (w.enter t.name) (fun _ w' r hr hkept => ?_) fun p hp => Or.inl hp
        unfold follow
        by_cases hb : isBaseName r = true
        · rw [if_pos hb]
          exact hkept
        · rw [if_neg hb]
          cases hp : positionOf? types r with
          | none => trivial
          | some p =>
            have hat : DeclaredAt types p r := hn.positionOf?_eq_some_iff.1 hp
            have hstep : Step types t.name r := hn.step (refersTo_of_mem ht hr) hat.declared
            exact (visit_emits hn room r p w' hat).imp (fun w'' h => hkept.trans_step hstep h)
              fun _ h => h
      rw [visit_of_unmarked room hm ht]
      refine hrun.bind fun last hlast p hp => ?_
      rcases List.mem_append.1 hp with hp | hp
      · exact hlast p hp
      · rw [List.mem_singleton] at hp
        subst hp
        exact Or.inr ⟨t.name, ⟨t, ht, rfl⟩, .refl⟩

/-- **A run emits only what the declarations behind it reach.** -/
theorem walkTo_emits (hn : WellNamed types) : ∀ count ≤ types.length, ∀ w,
    walkTo types count = .ok w → ∀ p ∈ w.ordered, ∃ j < count, Reaches types j p
  | 0, _, w, hw, p, hp => by
    cases hw
    cases hp
  | count + 1, hle, w', hw', p, hp => by
    rw [walkTo_succ] at hw'
    cases hw : walkTo types count with
    | error stop =>
      rw [hw] at hw'
      cases hw'
    | ok w =>
      rw [hw] at hw'
      have ht : types[count]? = some types[count] := List.getElem?_eq_getElem (by omega)
      have hat : DeclaredAt types count types[count].name := ⟨_, ht, rfl⟩
      cases hv : visit types (types.length + 1) types[count].name count w with
      | error stop =>
        have herr := (resolveAt_of_error ht hv).symm.trans hw'
        cases herr
      | ok next =>
        have hok := (resolveAt_of_ok ht hv).symm.trans hw'
        cases hok
        rcases (visit_emits hn _ _ count w hat).of_ok hv p hp with hold | ⟨b, hb, hreach⟩
        · obtain ⟨j, hj, h⟩ := walkTo_emits hn count (by omega) w hw p hold
          exact ⟨j, by omega, h⟩
        · exact ⟨count, by omega, _, b, hat, hb, hreach⟩

/-! ## 2. Frontiers -/

/-- The first `n` positions of the order are the shortest beginning of it that holds all of the
    positions up to `k`. -/
structure Frontier (order : List Nat) (k n : Nat) : Prop where
  holds : ∀ j ≤ k, j ∈ order.take n
  least : ∀ m < n, ¬ ∀ j ≤ k, j ∈ order.take m

/-- An order that holds the positions has a frontier. -/
theorem exists_frontier (h : ∀ j ≤ k, j ∈ order) : ∃ n, Frontier order k n := by
  have hall : ∃ n, ∀ j ≤ k, j ∈ order.take n := ⟨order.length, by simpa using h⟩
  exact ⟨Nat.find hall, Nat.find_spec hall, fun m hm => Nat.find_min hall hm⟩

/-- A frontier lies within every beginning of the order that holds the positions. -/
theorem Frontier.subset (hf : Frontier order k n) {front : List Nat} (hp : front <+: order)
    (h : ∀ j ≤ k, j ∈ front) : order.take n ⊆ front := by
  rw [List.prefix_iff_eq_take.1 hp] at h ⊢
  refine (List.take_prefix_take_left ?_).subset
  refine Nat.le_of_not_lt fun hlt => hf.least _ hlt h

/-- Where a longer run comes to its end, a shorter one has. -/
theorem walkTo_ok_of_le {last : Walk} {count : Nat} (hw : walkTo types count = .ok last)
    (hle : k ≤ count) : ∃ w, walkTo types k = .ok w := by
  cases h : walkTo types k with
  | ok w => exact ⟨w, rfl⟩
  | error stop =>
    have hfail := walkTo_add_of_error h (count - k)
    rw [Nat.add_sub_cancel' hle, hw] at hfail
    cases hfail

/-- **The frontier of an order holds exactly what the first declarations reach**: more has not been
    emitted when they are all there, and what is emitted is closed under steps. -/
theorem Frontier.mem_iff (h : resolveOrder types = .ok order) (hk : k < types.length)
    (hf : Frontier order k n) : p ∈ order.take n ↔ ∃ j ≤ k, Reaches types j p := by
  obtain ⟨hn, last, hlast, rfl⟩ := resolveOrder_ok h
  constructor
  · intro hp
    obtain ⟨w, hw⟩ := walkTo_ok_of_le hlast (Nat.succ_le_of_lt hk)
    have hr : Reached types (k + 1) w := walkTo_reached hn hk hw
    have hmore := walkTo_extends hn hw (types.length - (k + 1)) (by omega)
    rw [Nat.add_sub_cancel' hk] at hmore
    have hin : p ∈ w.ordered := hf.subset (hmore.of_ok hlast).ordered
      (fun j hj => hr.emitted j (Nat.lt_succ_of_le hj)) hp
    obtain ⟨j, hj, hreach⟩ := walkTo_emits hn (k + 1) hk w hw p hin
    exact ⟨j, Nat.le_of_lt_succ hj, hreach⟩
  · rintro ⟨j, hj, a, b, ha, hb, hreach⟩
    have hs : Settled types last.ordered := (walkTo_reached hn (Nat.le_refl _) hlast).good.settled
    have hem : Emitted types (last.ordered.take n) a := ⟨j, hf.holds j hj, ha⟩
    exact (hn.emitted_iff_mem hb).1
      ((hs.of_prefix (List.take_prefix n _)).reaches hn hem hreach)

/-- **Nothing overtakes a declaration without need**: a later declaration that stands before it in
    the order is needed by it, or by one that is declared before it. -/
theorem needed_of_overtakes (h : resolveOrder types = .ok order) {front back : List Nat}
    (hsplit : order = front ++ i :: back) (hp : p ∈ front) (hlt : i < p) :
    ∃ j ≤ i, ∃ a b, DeclaredAt types j a ∧ DeclaredAt types p b ∧
      Relation.TransGen (Step types) a b := by
  obtain ⟨hn, hs, hall⟩ := settled_of_resolveOrder h
  have hi : i < types.length := hs.lt i (by simp [hsplit])
  obtain ⟨n, hf⟩ := exists_frontier fun j (hj : j ≤ i) => hall j (Nat.lt_of_le_of_lt hj hi)
  have hnew : i ∉ front := by
    have hnodup := hs.nodup
    rw [hsplit] at hnodup
    exact fun hin => (List.nodup_append.1 hnodup).2.2 i hin i List.mem_cons_self rfl
  -- the frontier holds `i`, so it is past everything that stands before `i`
  have hpast : front.length ≤ n := by
    refine Nat.le_of_not_lt fun hshort => hnew ?_
    have hmem := hf.holds i (Nat.le_refl i)
    rw [hsplit, List.take_append_of_le_length (Nat.le_of_lt hshort)] at hmem
    exact List.mem_of_mem_take hmem
  have hin : p ∈ order.take n := by
    rw [hsplit, List.take_append]
    exact List.mem_append_left _ ((List.take_of_length_le hpast).symm ▸ hp)
  obtain ⟨j, hj, a, b, ha, hb, hreach⟩ := (hf.mem_iff h hi).1 hin
  refine ⟨j, hj, a, b, ha, hb, ?_⟩
  rcases Relation.reflTransGen_iff_eq_or_transGen.1 hreach with rfl | hsteps
  · have e : j = p := hn.at_inj ha hb
    omega
  · exact hsteps

/-! ## 3. Orders that are found -/

/-- **No needless movement**: where an order holds the first `k + 1` positions for the first time,
    it holds exactly the positions of the types that these reach; so what stands before a declaration
    that it follows in the list is needed by it or by a declaration before it. -/
theorem resolveOrder_frontier (h : resolveOrder types = .ok order) :
    (∀ k < types.length, (∃ n, Frontier order k n) ∧
      ∀ n, Frontier order k n → ∀ p, p ∈ order.take n ↔ ∃ j ≤ k, Reaches types j p) ∧
    ∀ (front back : List Nat) (i p : Nat), order = front ++ i :: back → p ∈ front → i < p →
      ∃ j ≤ i, ∃ a b, DeclaredAt types j a ∧ DeclaredAt types p b ∧
        Relation.TransGen (Step types) a b := by
  obtain ⟨_, _, hall⟩ := settled_of_resolveOrder h
  refine ⟨fun k hk => ⟨?_, fun n hf p => hf.mem_iff h hk⟩,
    fun front back i p hsplit hp hlt => needed_of_overtakes h hsplit hp hlt⟩
  exact exists_frontier fun j hj => hall j (Nat.lt_of_le_of_lt hj hk)

/-- `Point` and `Unit` are moved up for `Line`, but `Shape` is not, although it is free to go first;
    `Route` needs nothing more. -/
theorem resolveOrder_frontier_line :
    let types : List TypeDef :=
      [⟨⟨"Line", "Array", none⟩, .array "Point"⟩, ⟨⟨"Route", "Line", none⟩, .synonym⟩,
        ⟨⟨"Shape", "Struct", none⟩, .struct []⟩,
        ⟨⟨"Point", "Struct", none⟩, .struct [.new "x" (.named "Unit"), .new "y" (.named "Unit")]⟩,
        ⟨⟨"Unit", "Int32", none⟩, .synonym⟩]
    resolveOrder types = .ok [4, 3, 0, 1, 2] ∧
      (∀ p, p ∈ [4, 3, 0] ↔ ∃ j ≤ 0, Reaches types j p) ∧
      (∀ p, p ∈ [4, 3, 0, 1] ↔ ∃ j ≤ 1, Reaches types j p) ∧
      ∃ j ≤ 2, ∃ a b, DeclaredAt types j a ∧ DeclaredAt types 3 b ∧
        Relation.TransGen (Step types) a b := by
  intro types
  have h : resolveOrder types = .ok [4, 3, 0, 1, 2] := rfl
  obtain ⟨hreach, hneed⟩ := resolveOrder_frontier h
  refine ⟨h, (hreach 0 (by decide)).2 3 ⟨by decide, by decide⟩,
    (hreach 1 (by decide)).2 4 ⟨by decide, by decide⟩, ?_⟩
  exact hneed [4, 3, 0, 1] [] 2 3 rfl (by decide) (by decide)

end InterfaceSchema
