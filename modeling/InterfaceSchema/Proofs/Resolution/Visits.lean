import InterfaceSchema.Proofs.Resolution.Runs

/-!
# The visits of a resolution

A resolution asks for visits of its own accord, one for each declaration, and every visit asks for
those of the references it follows. The marks, the stack and the positions of a walk agree with one
another whenever a visit is asked for, while it is under way, and when it has come to its end or has
stopped.

* `Coherent`: how the parts of a walk agree (`Good.coherent`);
* `Asked`: the visits that are asked for in the course of a resolution;
* `Asked.ready`: each is asked for from a good walk, of a name at its own position, with room left;
* `idle_of_resolveAt_error`: a declaration that is given up leaves no visit under way;
* `visit_coherent`: so the parts agree throughout, and no mark of a visit is left behind.
-/

namespace InterfaceSchema

variable {types : List TypeDef} {w w' : Walk} {name : String} {room position : Nat}

/-! ## 1. Coherent walks -/

/-- The marks, the stack and the positions of a walk agree with one another. -/
structure Coherent (types : List TypeDef) (w : Walk) : Prop where
  nodup_stack : w.stack.Nodup
  /-- Each name is referred to by the one below it. -/
  chain : w.stack.IsChain (RefersTo types)
  visiting_iff : ∀ name, Declared types name → (w.mark? name = some .visiting ↔ name ∈ w.stack)
  resolved_iff : ∀ name position, DeclaredAt types position name →
    (w.mark? name = some .resolved ↔ position ∈ w.ordered)
  nodup_ordered : w.ordered.Nodup
  /-- What an emitted type refers to is declared and emitted before it. -/
  earlier : ∀ (k p : Nat) (t : TypeDef), w.ordered[k]? = some p → types[p]? = some t →
    ∀ r ∈ t.references,
      isBaseName r = true ∨ ∃ j < k, ∃ q, w.ordered[j]? = some q ∧ DeclaredAt types q r
  base : ∀ b : BaseType, w.mark? b.name = some .resolved

theorem Good.coherent (hn : WellNamed types) (hg : Good types w) : Coherent types w where
  nodup_stack := hg.nodup
  chain := hg.chain
  visiting_iff name _ := hg.visiting_iff name
  resolved_iff name position hat := by
    rw [hg.resolved_iff, hn.emitted_iff_mem hat]
    exact or_iff_right (hn.ne_base hat.declared)
  nodup_ordered := hg.settled.nodup
  earlier := hg.settled.reference_earlier
  base b := (hg.resolved_iff b.name).2 (Or.inl (isBaseName_name b))

/-! ## 2. Visits that are asked for -/

/-- In the course of the resolution this visit is asked for: with so much room, of the name, at the
    position, from the walk. -/
inductive Asked (types : List TypeDef) : Nat → String → Nat → Walk → Prop where
  /-- A declaration, when those before it have been visited. -/
  | declaration {position : Nat} {w : Walk} {t : TypeDef} (hwalk : walkTo types position = .ok w)
      (ht : types[position]? = some t) : Asked types (types.length + 1) t.name position w
  /-- A reference of a name that has been entered, when the references before it have been
      followed. -/
  | reference {room position next : Nat} {name r : String} {w w' : Walk} {done rest : List String}
      (outer : Asked types (room + 1) name position w) (hnew : w.mark? name = none)
      (hsplit : (types[position]?.map (·.references)).getD [] = done ++ r :: rest)
      (hdone : done.foldlM (follow types (visit types room) name) (w.enter name) = .ok w')
      (hbase : isBaseName r = false) (hnext : positionOf? types r = some next) :
      Asked types room r next w'

/-- What a visit needs to be made from a walk. -/
structure Ready (types : List TypeDef) (room : Nat) (name : String) (position : Nat) (w : Walk) :
    Prop where
  good : Good types w
  declaredAt : DeclaredAt types position name
  called : Called types w name
  lt : types.length < room + w.stack.length

theorem Ready.visits (hn : WellNamed types) (h : Ready types room name position w) :
    Visits types w name (visit types room name position w) :=
  visit_yields hn room name position w h.good h.declaredAt h.called h.lt

theorem Ready.enter (h : Ready types room name position w) (hnew : w.mark? name = none) :
    Good types (w.enter name) :=
  h.good.enter hnew h.declaredAt.declared h.called

/-- Some of the references of the name that was entered, one after the other. -/
theorem Ready.extends_of_foldlM (hn : WellNamed types) {t : TypeDef} {done : List String}
    (h : Ready types (room + 1) t.name position w) (hnew : w.mark? t.name = none)
    (ht : types[position]? = some t) (hsub : done ⊆ t.references)
    (hdone : done.foldlM (follow types (visit types room) t.name) (w.enter t.name) = .ok w') :
    Extends types (w.enter t.name) w' := by
  have hroom : types.length ≤ room + w.stack.length := by
    have := h.lt
    omega
  have hrun : Yields (Extends types (w.enter t.name)) (fun _ => True)
      (done.foldlM (follow types (visit types room) t.name) (w.enter t.name)) := by
    refine foldlM_yields (fun _ => Extends types (w.enter t.name)) done [] (w.enter t.name)
      (fun _ w' r hr hext => ?_) (.refl (h.enter hnew))
    cases hf : follow types (visit types room) t.name w' r with
    | error stop => trivial
    | ok next => exact (extends_of_follow hn hroom ht hext (hsub hr) hf).1
  exact hrun.of_ok hdone

/-- **Every visit that is asked for can be made.** -/
theorem Asked.ready (hn : WellNamed types) (h : Asked types room name position w) :
    Ready types room name position w := by
  induction h with
  | @declaration position w t hwalk ht =>
    have hle : position ≤ types.length := Nat.le_of_lt (List.getElem?_eq_some_iff.1 ht).1
    have hr : Reached types position w := walkTo_reached hn hle hwalk
    exact ⟨hr.good, ⟨t, ht, rfl⟩, called_of_idle hr.idle _, by omega⟩
  | @reference room position next name r w w' done rest _ hnew hsplit hdone _ hnext ih =>
    obtain ⟨t, ht, rfl⟩ := ih.declaredAt
    have hrefs : t.references = done ++ r :: rest := by
      rw [ht] at hsplit
      exact hsplit
    have hsub : done ⊆ t.references := hrefs ▸ List.subset_append_left _ _
    have hext := ih.extends_of_foldlM hn hnew ht hsub hdone
    have hcall : RefersTo types t.name r := refersTo_of_mem ht (by simp [hrefs])
    refine ⟨hext.good, hn.positionOf?_eq_some_iff.1 hnext, hext.called hcall, ?_⟩
    have hlen := hext.length_stack
    have hlt := ih.lt
    omega

/-! ## 3. Coherence throughout -/

/-- What was resolved stays so while positions are added. -/
theorem Good.resolved_of_prefix {key : String} (hg : Good types w) (hg' : Good types w')
    (hpre : w.ordered <+: w'.ordered) (h : w.mark? key = some .resolved) :
    w'.mark? key = some .resolved :=
  (hg'.resolved_iff key).2 (((hg.resolved_iff key).1 h).imp_right fun he => he.mono hpre.subset)

/-- Where the visits under way are given up, no mark of a visit is left. -/
theorem Good.not_visiting_abandon (hg : Good types w) (key : String) :
    w.abandon.mark? key ≠ some .visiting := by
  rw [Walk.mark?_abandon]
  split
  · simp
  · rename_i hout
    exact fun h => hout ((hg.visiting_iff key).1 h)

/-- What stops at a position is the visit of the type there, and it is given up. -/
theorem exists_of_resolveAt_error {stop : Stop} (h : resolveAt types w position = .error stop) :
    ∃ t inner, types[position]? = some t ∧
      visit types (types.length + 1) t.name position w = .error inner ∧
      stop = { inner with walk := inner.walk.abandon } := by
  cases ht : types[position]? with
  | none =>
    unfold resolveAt at h
    rw [ht] at h
    cases h
  | some t =>
    cases hv : visit types (types.length + 1) t.name position w with
    | ok next =>
      rw [resolveAt_of_ok ht hv] at h
      cases h
    | error inner =>
      rw [resolveAt_of_error ht hv] at h
      cases h
      exact ⟨t, inner, rfl, hv, rfl⟩

/-- A declaration that is given up leaves no visit under way. -/
theorem idle_of_resolveAt_error (hn : WellNamed types) (hwalk : walkTo types position = .ok w)
    {stop : Stop} (hstop : resolveAt types w position = .error stop) :
    stop.walk.stack = [] ∧ ∀ key, stop.walk.mark? key ≠ some .visiting := by
  obtain ⟨t, inner, ht, hvisit, rfl⟩ := exists_of_resolveAt_error hstop
  have hready := (Asked.declaration hwalk ht).ready hn
  exact ⟨rfl, ((hready.visits hn).of_error hvisit).good.not_visiting_abandon⟩

/-- **The parts of a walk agree throughout a resolution** of types whose names are accepted. The
    walk is coherent at the start, and whenever a visit is asked for; it is asked for a name that is
    declared at its position. A visit that comes to its end leaves a coherent walk with the same
    stack, with positions added at the end, with its name resolved and whatever was resolved before.
    One that stops has its own stack still at the bottom, and exactly the names on the stack are
    marked as being visited; so none is when the declaration is given up. The stack never outgrows
    the declarations. -/
theorem visit_coherent (hnames : nameError? [] types = none) :
    Coherent types .start ∧
    (∀ room name position w, Asked types room name position w →
      DeclaredAt types position name ∧ Coherent types w ∧ w.stack.length ≤ types.length ∧
      (w.mark? name = none →
        Coherent types (w.enter name) ∧ (w.enter name).stack.length ≤ types.length) ∧
      (∀ w', visit types room name position w = .ok w' →
        Coherent types w' ∧ w'.stack = w.stack ∧ w.ordered <+: w'.ordered ∧
        w'.mark? name = some .resolved ∧
        ∀ key, w.mark? key = some .resolved → w'.mark? key = some .resolved) ∧
      ∀ stop, visit types room name position w = .error stop →
        w.stack <+: stop.walk.stack ∧ stop.walk.stack.length ≤ types.length ∧
        ∀ key, stop.walk.mark? key = some .visiting ↔ key ∈ stop.walk.stack) ∧
    ∀ position w, walkTo types position = .ok w →
      ∀ stop, resolveAt types w position = .error stop →
        stop.walk.stack = [] ∧ ∀ key, stop.walk.mark? key ≠ some .visiting := by
  have hn : WellNamed types := nameError?_eq_none_iff_wellNamed.1 hnames
  refine ⟨(good_start types).coherent hn, fun room name position w hasked => ?_,
    fun position w hwalk stop hstop => ?_⟩
  · have hready := hasked.ready hn
    have hgood := hready.good
    have hvisits := hready.visits hn
    refine ⟨hready.declaredAt, hgood.coherent hn, hgood.length_stack_le, fun hnew => ?_,
      fun w' hok => ?_, fun stop herror => ?_⟩
    · have hentered := hready.enter hnew
      exact ⟨hentered.coherent hn, hentered.length_stack_le⟩
    · obtain ⟨hext, hemitted⟩ := hvisits.of_ok hok
      exact ⟨hext.good.coherent hn, hext.stack, hext.ordered,
        (hext.good.resolved_iff name).2 (Or.inr hemitted),
        fun key => hgood.resolved_of_prefix hext.good hext.ordered⟩
    · have hblocked := hvisits.of_error herror
      exact ⟨hblocked.stack, hblocked.good.length_stack_le, hblocked.good.visiting_iff⟩
  · exact idle_of_resolveAt_error hn hwalk hstop

/-- `A` is entered and `Point` emitted when `B` is asked for, which leads back to `A`: both are on
    the stack when the visit of `B` stops, and neither is marked when `A` is given up. -/
theorem visit_coherent_loop :
    let types : List TypeDef :=
      [⟨⟨"A", "Map", none⟩, .map "B" "Point"⟩, ⟨⟨"B", "A", none⟩, .synonym⟩,
        ⟨⟨"Point", "Int32", none⟩, .synonym⟩]
    let entered : Walk := Walk.start.enter "A"
    let w : Walk := (entered.enter "Point").emit "Point" 2
    nameError? [] types = none ∧
    (Asked types 3 "Point" 2 entered ∧ visit types 3 "Point" 2 entered = .ok w ∧
      Coherent types w ∧ w.stack = ["A"] ∧ w.ordered = [2] ∧
      w.mark? "Point" = some .resolved) ∧
    (Asked types 3 "B" 1 w ∧ ∃ stop, visit types 3 "B" 1 w = .error stop ∧
      stop.error = .cycle ["A", "B", "A"] ∧ w.stack <+: stop.walk.stack ∧
      ∀ key, stop.walk.mark? key = some .visiting ↔ key ∈ ["A", "B"]) ∧
    ∃ stop, resolveAt types .start 0 = .error stop ∧
      ∀ key, stop.walk.mark? key ≠ some .visiting := by
  intro types entered w
  have hnames : nameError? [] types = none := rfl
  have hfirst : types[0]? = some ⟨⟨"A", "Map", none⟩, .map "B" "Point"⟩ := rfl
  have houter : Asked types 4 "A" 0 .start := .declaration rfl hfirst
  have hbeforePoint : (types[0]?.map (·.references)).getD [] = ["Map"] ++ "Point" :: ["B"] := rfl
  have hbeforeB : (types[0]?.map (·.references)).getD [] = ["Map", "Point"] ++ "B" :: [] := rfl
  have hpoint : Asked types 3 "Point" 2 entered :=
    .reference houter rfl hbeforePoint rfl rfl rfl
  have hvisit : visit types 3 "Point" 2 entered = .ok w := rfl
  have hb : Asked types 3 "B" 1 w := .reference houter rfl hbeforeB rfl rfl rfl
  have hstop : visit types 3 "B" 1 w = .error ⟨.cycle ["A", "B", "A"], w.enter "B"⟩ := rfl
  have hgiven : resolveAt types .start 0 =
      .error ⟨.cycle ["A", "B", "A"], (w.enter "B").abandon⟩ := rfl
  obtain ⟨_, hasked, hleft⟩ := visit_coherent hnames
  obtain ⟨_, _, _, _, hok, _⟩ := hasked _ _ _ _ hpoint
  obtain ⟨hcoherent, hstack, _, hresolved, _⟩ := hok w hvisit
  obtain ⟨_, _, _, _, _, herror⟩ := hasked _ _ _ _ hb
  obtain ⟨hbottom, _, hvisiting⟩ := herror _ hstop
  exact ⟨hnames, ⟨hpoint, hvisit, hcoherent, hstack, rfl, hresolved⟩,
    ⟨hb, _, hstop, rfl, hbottom, hvisiting⟩, _, hgiven, (hleft 0 .start rfl _ hgiven).2⟩

end InterfaceSchema
