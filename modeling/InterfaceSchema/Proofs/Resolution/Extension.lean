import InterfaceSchema.Proofs.Resolution.Culprits

/-!
# More declarations at the end

Types that are declared after others do not disturb what has been decided about these. The walk over
the longer list goes step by step as the walk over the shorter one, unless the latter stops at a
reference to a type that only the longer list declares.

* `visit_append`: a visit in the longer list is the one in the shorter list, unless that one stops
  for want of one of the new types (`Awaits`);
* `walkTo_append`: so are the runs over the declarations of the shorter list;
* `walkTo_extends`: what a run has emitted, a longer run emits first, and it blames none of it;
* `resolveOrder_append`: the four ways in which the answers are related.
-/

namespace InterfaceSchema

variable {types ts : List TypeDef} {w : Walk} {name reference : String} {count position : Nat}
  {error : SchemaError}

/-! ## 1. Declarations in a longer list -/

theorem declared_append : Declared (types ++ ts) name ↔ Declared types name ∨ Declared ts name := by
  simp [Declared, or_and_right, exists_or]

theorem getElem?_append_of_some {t : TypeDef} (h : types[position]? = some t) :
    (types ++ ts)[position]? = some t := by
  rw [List.getElem?_append_left (List.getElem?_eq_some_iff.1 h).1, h]

theorem DeclaredAt.append (h : DeclaredAt types position name) :
    DeclaredAt (types ++ ts) position name := by
  obtain ⟨t, ht, hname⟩ := h
  exact ⟨t, getElem?_append_of_some ht, hname⟩

theorem WellNamed.of_append (hn : WellNamed (types ++ ts)) : WellNamed types where
  notBase t ht := hn.notBase t (List.mem_append_left _ ht)
  nodup := hn.nodup.sublist ((List.sublist_append_left _ _).map _)

/-- A name that is refused in a list is refused in every longer one. -/
theorem nameError?_append : ∀ (types : List TypeDef) (seen : List String),
    nameError? seen types = some error → nameError? seen (types ++ ts) = some error
  | [], _, h => by cases h
  | t :: rest, seen, h => by
    rw [List.cons_append]
    unfold nameError? at h ⊢
    by_cases hb : isBaseName t.name = true
    · rw [if_pos hb] at h ⊢
      exact h
    · rw [if_neg hb] at h ⊢
      by_cases hseen : t.name ∈ seen
      · rw [if_pos hseen] at h ⊢
        exact h
      · rw [if_neg hseen] at h ⊢
        exact nameError?_append rest (t.name :: seen) h

/-- A declaration is found where it has been found. -/
theorem positionOf?_append (h : positionOf? types name = some position) :
    positionOf? (types ++ ts) name = some position := by
  unfold positionOf? at h ⊢
  rw [List.findIdx?_append, h]
  rfl

theorem positionOf?_append_eq_none (h : positionOf? types name = none) (hts : ¬ Declared ts name) :
    positionOf? (types ++ ts) name = none := by
  rw [positionOf?_eq_none_iff, ← declared_iff_mem_map, declared_append, not_or]
  exact ⟨not_declared_of_positionOf?_eq_none h, hts⟩

/-! ## 2. Visits and runs in a longer list -/

/-- The walk has stopped at a reference that one of the types would resolve. -/
def Awaits (ts : List TypeDef) (stop : Stop) : Prop :=
  ∃ referrer reference, stop.error = .danglingReference referrer reference ∧ Declared ts reference

/-- Where the visits are the same, to follow a reference is. -/
theorem follow_append {visit visit' : String → Nat → Walk → Except Stop Walk} (top : String)
    (hvisit : ∀ p, positionOf? types reference = some p →
      SameUnless (Awaits ts) (visit reference p w) (visit' reference p w)) :
    SameUnless (Awaits ts) (follow types visit top w reference)
      (follow (types ++ ts) visit' top w reference) := by
  unfold follow
  by_cases hb : isBaseName reference = true
  · rw [if_pos hb, if_pos hb]
    exact Or.inl rfl
  · rw [if_neg hb, if_neg hb]
    cases hp : positionOf? types reference with
    | some p =>
      rw [positionOf?_append hp]
      exact hvisit p hp
    | none =>
      by_cases hts : Declared ts reference
      · exact Or.inr ⟨_, rfl, top, reference, rfl, hts⟩
      · rw [positionOf?_append_eq_none hp hts]
        exact Or.inl rfl

/-- **A visit in a longer list is the visit in the list**, unless that one stops for want of one of
    the new types. The longer list leaves more room, but from a good walk none is needed. -/
theorem visit_append (ts : List TypeDef) (hn : WellNamed types) : ∀ (room room' : Nat)
    (name : String) (position : Nat) (w : Walk), Good types w → DeclaredAt types position name →
    Called types w name → types.length < room + w.stack.length → room ≤ room' →
    SameUnless (Awaits ts) (visit types room name position w)
      (visit (types ++ ts) room' name position w)
  | 0, _, name, position, w, hg, _, _, hroom, _ => by
    have := hg.length_stack_le
    omega
  | room + 1, room', name, position, w, hg, hat, hc, hroom, hle => by
    obtain ⟨more, rfl⟩ : ∃ more, room' = more + 1 := ⟨room' - 1, by omega⟩
    cases hm : w.mark? name with
    | some mark =>
      refine Or.inl ?_
      cases mark with
      | resolved => rw [visit_of_resolved room position hm, visit_of_resolved more position hm]
      | visiting => rw [visit_of_visiting room position hm, visit_of_visiting more position hm]
    | none =>
      obtain ⟨t, ht, rfl⟩ := hat
      have hd : Declared types t.name := ⟨t, List.mem_of_getElem? ht, rfl⟩
      rw [visit_of_unmarked room hm ht, visit_of_unmarked more hm (getElem?_append_of_some ht)]
      -- the visits below agree as long as the walk extends the one that has entered the name
      refine (foldlM_sameUnless (Extends types (w.enter t.name)) t.references _
        (fun w' r hr hext => ?_) (.refl (hg.enter hm hd hc))).bind fun last _ => Or.inl rfl
      have href : RefersTo types t.name r := refersTo_of_mem ht hr
      have hlen := hext.length_stack
      have hbelow : types.length ≤ room + w.stack.length := by omega
      refine ⟨follow_append t.name fun p hp => ?_, fun next hnext => ?_⟩
      · exact visit_append ts hn room more r p w' hext.good (hn.positionOf?_eq_some_iff.1 hp)
          (hext.called href) (by omega) (by omega)
      · exact (extends_of_follow hn hbelow ht hext hr hnext).1

theorem resolveAt_append (ts : List TypeDef) (hn : WellNamed types) (hg : Good types w)
    (hidle : w.stack = []) (hlt : position < types.length) :
    SameUnless (Awaits ts) (resolveAt types w position) (resolveAt (types ++ ts) w position) := by
  have ht : types[position]? = some types[position] := List.getElem?_eq_getElem hlt
  have ht' : (types ++ ts)[position]? = some types[position] := getElem?_append_of_some ht
  have hvisit := visit_append ts hn (types.length + 1) ((types ++ ts).length + 1)
    types[position].name position w hg ⟨_, ht, rfl⟩ (called_of_idle hidle _) (by omega)
    (by rw [List.length_append]; omega)
  cases hv : visit types (types.length + 1) types[position].name position w with
  | ok next =>
    rw [resolveAt_of_ok ht hv, resolveAt_of_ok ht' (hvisit.of_ok hv)]
    exact Or.inl rfl
  | error stop =>
    rcases hvisit.of_error hv with hsame | hawaits
    · rw [resolveAt_of_error ht hv, resolveAt_of_error ht' hsame]
      exact Or.inl rfl
    · exact Or.inr ⟨_, resolveAt_of_error ht hv, hawaits⟩

/-- **A run over the first declarations of a longer list is the run over those of the list.** -/
theorem walkTo_append (ts : List TypeDef) (hn : WellNamed types) (hle : count ≤ types.length) :
    SameUnless (Awaits ts) (walkTo types count) (walkTo (types ++ ts) count) :=
  foldlM_resolveAt_sameUnless hn hle fun _ _ hg hidle hlt => resolveAt_append ts hn hg hidle hlt

/-! ## 3. Longer runs -/

/-- A run that has failed has failed for good. -/
theorem walkTo_add_of_error {stop : Stop} (h : walkTo types count = .error stop) :
    ∀ more, walkTo types (count + more) = .error stop
  | 0 => h
  | more + 1 => by
    rw [← Nat.add_assoc, walkTo_succ, walkTo_add_of_error h more]
    rfl

/-- **A longer run goes on from where a run has come**: it emits more, or it is blocked without any
    blame on what was emitted. -/
theorem walkTo_extends (hn : WellNamed types) (hw : walkTo types count = .ok w) :
    ∀ more, count + more ≤ types.length →
      Yields (Extends types w) (fun stop => ∃ after, Blocked types w ⟨stop.error, after⟩)
        (walkTo types (count + more))
  | 0, hle => by
    rw [Nat.add_zero, hw]
    exact .refl (walkTo_reached hn hle hw).good
  | more + 1, hle => by
    have ih := walkTo_extends hn hw more (by omega)
    rw [← Nat.add_assoc, walkTo_succ]
    cases hmore : walkTo types (count + more) with
    | error stop => exact ih.of_error hmore
    | ok next =>
      have hext : Extends types w next := ih.of_ok hmore
      have hr : Reached types (count + more) next := walkTo_reached hn (by omega) hmore
      refine (resolveAt_yields hn hr.good hr.idle (by omega)).imp (fun last h => hext.trans h.1)
        fun stop hstop => ?_
      obtain ⟨after, hstop⟩ := hstop
      exact ⟨after, hext.blocked hstop.blocked⟩

/-! ## 4. Answers -/

theorem WellNamed.resolveOrder_append_eq (hn : WellNamed (types ++ ts)) :
    resolveOrder (types ++ ts) = answer (walkTo (types ++ ts) (types.length + ts.length)) := by
  rw [hn.resolveOrder_eq, List.length_append]

/-- An error of the list is that of the longer one, unless a new type would resolve it. -/
theorem resolveOrder_append_of_error (hn : WellNamed (types ++ ts))
    (h : resolveOrder types = .error error)
    (hts : ∀ referrer reference, error = .danglingReference referrer reference →
      ¬ Declared ts reference) : resolveOrder (types ++ ts) = .error error := by
  rw [hn.of_append.resolveOrder_eq] at h
  cases hw : walkTo types types.length with
  | ok w =>
    rw [hw] at h
    cases h
  | error stop =>
    rw [hw] at h
    cases h
    rcases (walkTo_append ts hn.of_append (Nat.le_refl _)).of_error hw with
      hsame | ⟨referrer, reference, he, hd⟩
    · rw [hn.resolveOrder_append_eq, walkTo_add_of_error hsame ts.length]
      rfl
    · exact absurd hd (hts referrer reference he)

/-- What is emitted after all positions of the list are the positions of the new types. -/
theorem perm_new_positions {order rest : List Nat} {n m : Nat} (h : order.Perm (List.range n))
    (hall : (order ++ rest).Perm (List.range (n + m))) : rest.Perm (List.range' n m) := by
  have hsplit : List.range (n + m) = List.range n ++ List.range' n m := by
    rw [List.range_eq_range', List.range_eq_range', ← List.range'_append_1, Nat.zero_add]
  rw [hsplit] at hall
  exact (List.perm_append_left_iff _).1 (((h.append_right rest).symm).trans hall)

/-- An order of the list is where that of the longer one begins; or a new type is to blame. -/
theorem resolveOrder_append_of_ok (hn : WellNamed (types ++ ts)) {order : List Nat}
    (h : resolveOrder types = .ok order) :
    (∃ rest, resolveOrder (types ++ ts) = .ok (order ++ rest) ∧
      rest.Perm (List.range' types.length ts.length)) ∨
    ∃ error, resolveOrder (types ++ ts) = .error error ∧ error.isOfReference = true ∧
      ∀ name ∈ error.culprits, Declared ts name := by
  obtain ⟨hn', w, hw, rfl⟩ := resolveOrder_ok h
  have hr : Reached types types.length w := walkTo_reached hn' (Nat.le_refl _) hw
  have hsame : walkTo (types ++ ts) types.length = .ok w :=
    (walkTo_append ts hn' (Nat.le_refl _)).of_ok hw
  have hlen : types.length + ts.length = (types ++ ts).length := List.length_append.symm
  have hmore := walkTo_extends hn hsame ts.length (Nat.le_of_eq hlen)
  rw [hn.resolveOrder_append_eq]
  cases hall : walkTo (types ++ ts) (types.length + ts.length) with
  | ok last =>
    obtain ⟨rest, hrest⟩ := (hmore.of_ok hall).ordered
    have hlast := walkTo_reached hn (Nat.le_of_eq hlen) hall
    have hperm := hlast.good.settled.perm_range fun p hp => hlast.emitted p (hlen ▸ hp)
    rw [← hlen, ← hrest] at hperm
    refine Or.inl ⟨rest, ?_, perm_new_positions (hr.good.settled.perm_range hr.emitted) hperm⟩
    rw [hrest]
    rfl
  | error stop =>
    obtain ⟨after, hblocked⟩ := hmore.of_error hall
    refine Or.inr ⟨stop.error, rfl, hblocked.fault.isOfReference, fun name hname => ?_⟩
    obtain ⟨hd, hnew⟩ := hblocked.culprit hname
    refine (declared_append.1 hd).resolve_left fun hold => hnew ?_
    obtain ⟨p, hp⟩ := hold.exists_at
    exact ⟨p, hr.emitted p hp.lt, hp.append⟩

/-- **Declaring more types disturbs nothing that was decided.** A refused name stays refused. Where
    all names are in order, an order is kept and continued with the new types, unless one of these
    is to blame; a loop is reported as before; and so is a dangling reference that no new type
    resolves. -/
theorem resolveOrder_append (types ts : List TypeDef) :
    (∀ error, error.isOfReference = false → resolveOrder types = .error error →
      resolveOrder (types ++ ts) = .error error) ∧
    (WellNamed (types ++ ts) →
      (∀ order, resolveOrder types = .ok order →
        (∃ rest, resolveOrder (types ++ ts) = .ok (order ++ rest) ∧
          rest.Perm (List.range' types.length ts.length)) ∨
        ∃ error, resolveOrder (types ++ ts) = .error error ∧ error.isOfReference = true ∧
          ∀ name ∈ error.culprits, Declared ts name) ∧
      (∀ path, resolveOrder types = .error (.cycle path) →
        resolveOrder (types ++ ts) = .error (.cycle path)) ∧
      ∀ referrer reference, resolveOrder types = .error (.danglingReference referrer reference) →
        ¬ Declared ts reference →
        resolveOrder (types ++ ts) = .error (.danglingReference referrer reference)) := by
  refine ⟨fun error hkind h => ?_, fun hn => ⟨fun order h => ?_, fun path h => ?_,
    fun referrer reference h hts => ?_⟩⟩
  · rcases resolveOrder_error_cases h with ⟨_, hname⟩ | ⟨href, _⟩
    · exact resolveOrder_of_nameError (nameError?_append types [] hname)
    · rw [hkind] at href
      cases href
  · exact resolveOrder_append_of_ok hn h
  · refine resolveOrder_append_of_error hn h fun _ _ e => ?_
    cases e
  · refine resolveOrder_append_of_error hn h fun _ _ e => ?_
    cases e
    exact hts

/-- One list for each kind of answer: a name that is declared twice; an order that goes on until the
    new type is to blame; a loop; and a dangling reference that the new type leaves as it is. -/
theorem resolveOrder_append_of_each_kind :
    let point : TypeDef := ⟨⟨"Point", "Struct", none⟩, .struct [.new "x" (.named "Int32")]⟩
    let line : TypeDef := ⟨⟨"Line", "Array", none⟩, .array "Point"⟩
    let route : TypeDef := ⟨⟨"Route", "Map", none⟩, .map "Line" "Gone"⟩
    let ring : TypeDef := ⟨⟨"Ring", "Ring", none⟩, .synonym⟩
    (resolveOrder [point, point] = .error (.duplicateType "Point") ∧
      resolveOrder [point, point, line] = .error (.duplicateType "Point")) ∧
    (WellNamed [line, point, route] ∧ resolveOrder [line, point] = .ok [1, 0] ∧
      ((∃ rest, resolveOrder [line, point, route] = .ok ([1, 0] ++ rest) ∧
          rest.Perm (List.range' 2 1)) ∨
        ∃ error, resolveOrder [line, point, route] = .error error ∧
          error.isOfReference = true ∧ ∀ name ∈ error.culprits, Declared [route] name)) ∧
    (WellNamed [ring, line] ∧ resolveOrder [ring] = .error (.cycle ["Ring", "Ring"]) ∧
      resolveOrder [ring, line] = .error (.cycle ["Ring", "Ring"])) ∧
    WellNamed [line, route] ∧ ¬ Declared [route] "Point" ∧
      resolveOrder [line] = .error (.danglingReference "Line" "Point") ∧
      resolveOrder [line, route] = .error (.danglingReference "Line" "Point") := by
  intro point line route ring
  have hpoint : resolveOrder [point, point] = .error (.duplicateType "Point") := rfl
  have hline : resolveOrder [line, point] = .ok [1, 0] := rfl
  have hring : resolveOrder [ring] = .error (.cycle ["Ring", "Ring"]) := rfl
  have hgone : resolveOrder [line] = .error (.danglingReference "Line" "Point") := rfl
  have hnline : WellNamed [line, point, route] := ⟨by decide, by decide⟩
  have hnring : WellNamed [ring, line] := ⟨by decide, by decide⟩
  have hngone : WellNamed [line, route] := ⟨by decide, by decide⟩
  have hnew : ¬ Declared [route] "Point" := by
    unfold Declared
    decide
  exact ⟨⟨hpoint, (resolveOrder_append [point, point] [line]).1 _ rfl hpoint⟩,
    ⟨hnline, hline, ((resolveOrder_append [line, point] [route]).2 hnline).1 _ hline⟩,
    ⟨hnring, hring, ((resolveOrder_append [ring] [line]).2 hnring).2.1 _ hring⟩,
    hngone, hnew, hgone, ((resolveOrder_append [line] [route]).2 hngone).2.2 _ _ hgone hnew⟩

end InterfaceSchema
