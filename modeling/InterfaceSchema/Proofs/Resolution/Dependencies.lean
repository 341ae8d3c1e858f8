import InterfaceSchema.Proofs.Resolution.InOrder

/-!
# Dependencies are enough

The walk follows references, among them the names of base types and names that come more than once.
It follows none of these in vain: a base type is passed over, and a name that was followed before is
emitted by then. So the walk depends on a type through its name and its dependencies alone.

* `TypeDef.skeleton`: the plainest type with the name and the dependencies of a type;
* `foldlM_follow_dependencies`: to follow the references of a type is to follow its dependencies;
* `visit_skeleton`: a visit among skeletons is the visit among the types;
* `resolve_skeleton`: so the walk over the skeletons is the walk over the types, to its last mark;
* `resolveOrder_eq_of_dependencies`: lists that agree on names and dependencies have one answer.
-/

namespace InterfaceSchema

variable {types types' : List TypeDef} {w : Walk} {position room : Nat} {t : TypeDef}

/-! ## 1. Skeletons -/

/-- A union of the type's dependencies under the type's name. -/
def TypeDef.skeleton (t : TypeDef) : TypeDef where
  info := ⟨t.name, BaseType.union.name, none⟩
  body := .union t.dependencies

@[simp] theorem TypeDef.name_skeleton (t : TypeDef) : t.skeleton.name = t.name := rfl

theorem TypeDef.references_skeleton (t : TypeDef) :
    t.skeleton.references = BaseType.union.name :: t.dependencies := rfl

theorem positionOf?_skeleton (types : List TypeDef) (name : String) :
    positionOf? (types.map TypeDef.skeleton) name = positionOf? types name :=
  List.findIdx?_map

/-- The check of the names sees nothing but names. -/
theorem nameError?_skeleton : ∀ (types : List TypeDef) (seen : List String),
    nameError? seen (types.map TypeDef.skeleton) = nameError? seen types
  | [], _ => rfl
  | t :: rest, seen => by
    rw [List.map_cons]
    unfold nameError?
    rw [nameError?_skeleton rest, TypeDef.name_skeleton]

/-! ## 2. References that are followed in vain -/

/-- To follow a base type is to pass it over. -/
theorem follow_base (types : List TypeDef) (visit : String → Nat → Walk → Except Stop Walk)
    (top : String) (w : Walk) (b : BaseType) : follow types visit top w b.name = .ok w :=
  if_pos (isBaseName_name b)

/-- **To follow the references of the type that was entered last is to follow its dependencies**: a
    base type is passed over, and what was followed before is emitted. -/
theorem foldlM_follow_dependencies (hn : WellNamed types) (ht : types[position]? = some t)
    (hg : Good types (w.enter t.name)) (hroom : types.length ≤ room + 1 + w.stack.length) :
    t.dependencies.foldlM (follow types (visit types (room + 1)) t.name) (w.enter t.name) =
      t.references.foldlM (follow types (visit types (room + 1)) t.name) (w.enter t.name) := by
  have hidle : ∀ w' r, Extends types (w.enter t.name) w' →
      isBaseName r = true ∨ Emitted types w'.ordered r →
      follow types (visit types (room + 1)) t.name w' r = .ok w' :=
    fun w' r hext => follow_of_emitted hn hext.good room t.name
  unfold TypeDef.dependencies
  rw [foldlM_eraseDups (Extends types (w.enter t.name)) (fun r w' => Emitted types w'.ordered r)
    (fun w' r hext hem => hidle w' r hext (Or.inr hem)) _ _ ?made (.refl hg)]
  case made =>
    intro w' r next hr hext hnext
    obtain ⟨hmem, hb⟩ := List.mem_filter.1 hr
    obtain ⟨hlater, hprefix, hem⟩ := extends_of_follow hn hroom ht hext hmem hnext
    exact ⟨hlater, hem.resolve_left (by simpa using hb), fun s hs => hs.mono hprefix.subset⟩
  refine foldlM_filter (Extends types (w.enter t.name)) _ _ _ (fun w' r _ hext hb => ?_)
    (fun w' r next hr hext hnext => (extends_of_follow hn hroom ht hext hr hnext).1) (.refl hg)
  exact hidle w' r hext (Or.inl (by simpa using hb))

/-! ## 3. The walk over skeletons -/

/-- Where the visits are the same, to follow a reference is. -/
theorem follow_skeleton {visit visit' : String → Nat → Walk → Except Stop Walk}
    (top reference : String) (hvisit : ∀ p, positionOf? types reference = some p →
      visit' reference p w = visit reference p w) :
    follow (types.map TypeDef.skeleton) visit' top w reference =
      follow types visit top w reference := by
  unfold follow
  rw [positionOf?_skeleton]
  by_cases hb : isBaseName reference = true
  · rw [if_pos hb, if_pos hb]
  · rw [if_neg hb, if_neg hb]
    cases hp : positionOf? types reference with
    | none => rfl
    | some p => exact hvisit p hp

/-- Where the visits below are the same, to follow the dependencies of the type that was entered
    last is. -/
theorem foldlM_follow_skeleton (hn : WellNamed types) (ht : types[position]? = some t)
    (hg : Good types (w.enter t.name)) (hroom : types.length ≤ room + w.stack.length)
    (hvisit : ∀ w' r p, Extends types (w.enter t.name) w' → RefersTo types t.name r →
      DeclaredAt types p r →
      visit (types.map TypeDef.skeleton) room r p w' = visit types room r p w') :
    t.dependencies.foldlM (follow (types.map TypeDef.skeleton)
        (visit (types.map TypeDef.skeleton) room) t.name) (w.enter t.name) =
      t.dependencies.foldlM (follow types (visit types room) t.name) (w.enter t.name) := by
  refine (foldlM_sameUnless (Extends types (w.enter t.name)) t.dependencies _
    (fun w' r hr hext => ?_) (.refl hg)).eq
  have hmem : r ∈ t.references := (TypeDef.mem_dependencies.1 hr).1
  refine ⟨Or.inl (follow_skeleton t.name r fun p hp => ?_), fun next hnext => ?_⟩
  · exact hvisit w' r p hext (refersTo_of_mem ht hmem) (hn.positionOf?_eq_some_iff.1 hp)
  · exact (extends_of_follow hn hroom ht hext hmem hnext).1

/-- **A visit among skeletons is the visit among the types**, from a good walk. -/
theorem visit_skeleton (hn : WellNamed types) : ∀ (room : Nat) (name : String) (position : Nat)
    (w : Walk), Good types w → DeclaredAt types position name → Called types w name →
    types.length < room + w.stack.length →
    visit (types.map TypeDef.skeleton) room name position w = visit types room name position w
  | 0, _, _, _, _, _, _, _ => rfl
  | room + 1, name, position, w, hg, hat, hc, hroom => by
    cases hm : w.mark? name with
    | some mark =>
      cases mark with
      | resolved => rw [visit_of_resolved room position hm, visit_of_resolved room position hm]
      | visiting => rw [visit_of_visiting room position hm, visit_of_visiting room position hm]
    | none =>
      obtain ⟨t, ht, rfl⟩ := hat
      have hd : Declared types t.name := ⟨t, List.mem_of_getElem? ht, rfl⟩
      have hent := hg.enter hm hd hc
      have ht' : (types.map TypeDef.skeleton)[position]? = some t.skeleton := by
        rw [List.getElem?_map, ht]
        rfl
      -- the stack has just grown and still fits, so there is room below
      obtain ⟨less, rfl⟩ : ∃ less, room = less + 1 := by
        have hle := hent.length_stack_le
        have hlen : (w.enter t.name).stack.length = w.stack.length + 1 := by simp [Walk.enter]
        exact ⟨room - 1, by omega⟩
      have hbelow : types.length ≤ less + 1 + w.stack.length := by omega
      have hvisit : ∀ w' r p, Extends types (w.enter t.name) w' → RefersTo types t.name r →
          DeclaredAt types p r → visit (types.map TypeDef.skeleton) (less + 1) r p w' =
            visit types (less + 1) r p w' := by
        intro w' r p hext href hp
        have hlen := hext.length_stack
        exact visit_skeleton hn (less + 1) r p w' hext.good hp (hext.called href) (by omega)
      calc visit (types.map TypeDef.skeleton) (less + 1 + 1) t.name position w
          = t.skeleton.references.foldlM (follow (types.map TypeDef.skeleton)
                (visit (types.map TypeDef.skeleton) (less + 1)) t.name) (w.enter t.name) >>=
              fun last => .ok (last.emit t.name position) := visit_of_unmarked _ hm ht'
        _ = t.dependencies.foldlM (follow (types.map TypeDef.skeleton)
                (visit (types.map TypeDef.skeleton) (less + 1)) t.name) (w.enter t.name) >>=
              fun last => .ok (last.emit t.name position) := by
          rw [TypeDef.references_skeleton, List.foldlM_cons, follow_base]
          rfl
        _ = t.references.foldlM (follow types (visit types (less + 1)) t.name) (w.enter t.name) >>=
              fun last => .ok (last.emit t.name position) := by
          rw [foldlM_follow_skeleton hn ht hent hbelow hvisit,
            foldlM_follow_dependencies hn ht hent hbelow]
        _ = visit types (less + 1 + 1) t.name position w := (visit_of_unmarked _ hm ht).symm

theorem resolveAt_skeleton (hn : WellNamed types) (hg : Good types w) (hidle : w.stack = [])
    (hlt : position < types.length) :
    resolveAt (types.map TypeDef.skeleton) w position = resolveAt types w position := by
  have ht : types[position]? = some types[position] := List.getElem?_eq_getElem hlt
  have hvisit := visit_skeleton hn (types.length + 1) types[position].name position w hg
    ⟨_, ht, rfl⟩ (called_of_idle hidle _) (by omega)
  unfold resolveAt
  rw [List.getElem?_map, ht, List.length_map]
  simp only [Option.map_some, TypeDef.name_skeleton, hvisit]

/-- **The walk over the skeletons is the walk over the types**: it comes to the same end, or it is
    stopped at the same place. -/
theorem resolve_skeleton (types : List TypeDef) :
    resolve (types.map TypeDef.skeleton) = resolve types := by
  unfold resolve
  rw [nameError?_skeleton, List.length_map]
  cases hname : nameError? [] types with
  | some error => rfl
  | none =>
    have hn : WellNamed types := nameError?_eq_none_iff_wellNamed.1 hname
    exact (foldlM_resolveAt_sameUnless hn (Nat.le_refl _) fun w position hg hidle hlt =>
      Or.inl (resolveAt_skeleton hn hg hidle hlt)).eq

/-! ## 4. Lists with the same dependencies -/

/-- **The answer depends on names and dependencies only**: two lists that agree on these at every
    position have the same order or the same error, and report the same events on the way. Shapes,
    comments, constraints, base types and repetitions have no say; what a listing shows of a type's
    references is all that counts. -/
theorem resolveOrder_eq_of_dependencies (hlen : types.length = types'.length)
    (h : ∀ (i : Nat) (t u : TypeDef), types[i]? = some t → types'[i]? = some u →
      t.name = u.name ∧ t.dependencies = u.dependencies) :
    resolveOrder types = resolveOrder types' ∧ resolveEvents types = resolveEvents types' := by
  have hsame : types.map TypeDef.skeleton = types'.map TypeDef.skeleton := by
    refine List.ext_getElem (by rw [List.length_map, List.length_map, hlen]) fun i hi hi' => ?_
    rw [List.length_map] at hi hi'
    obtain ⟨hname, hdeps⟩ :=
      h i _ _ (List.getElem?_eq_getElem hi) (List.getElem?_eq_getElem hi')
    rw [List.getElem_map, List.getElem_map]
    unfold TypeDef.skeleton
    rw [hname, hdeps]
  have hwalk : resolve types = resolve types' := by
    rw [← resolve_skeleton types, hsame, resolve_skeleton]
  unfold resolveOrder resolveEvents
  rw [hwalk]
  exact ⟨rfl, rfl⟩

/-- A loop through `C`, met after `B` has been referred to three times, and the same loop between
    types of other shapes, without any reference that is not needed. -/
theorem resolveOrder_eq_of_dependencies_loop :
    let ornate : List TypeDef :=
      [⟨⟨"A", "B", some "one"⟩, .struct [.new "x" (.named "Int32"),
          .build "y" (.map "B" "C") [.optional], .new "z" (.array "B")]⟩,
        ⟨⟨"B", "String", none⟩, .string ⟨some "[a-z]+", none, some 8, []⟩⟩,
        ⟨⟨"C", "Map", none⟩, .map "String" "A"⟩]
    let plain : List TypeDef :=
      [⟨⟨"A", "B", none⟩, .union ["C"]⟩, ⟨⟨"B", "Int8", none⟩, .synonym⟩,
        ⟨⟨"C", "A", none⟩, .synonym⟩]
    ornate.map (·.dependencies) = [["B", "C"], [], ["A"]] ∧
      plain.map (·.dependencies) = [["B", "C"], [], ["A"]] ∧
      resolveOrder plain = .error (.cycle ["A", "C", "A"]) ∧
      resolveOrder ornate = .error (.cycle ["A", "C", "A"]) := by
  intro ornate plain
  have hplain : resolveOrder plain = .error (.cycle ["A", "C", "A"]) := rfl
  refine ⟨by decide, by decide, hplain, ?_⟩
  rw [← hplain]
  refine (resolveOrder_eq_of_dependencies rfl fun i t u ht hu => ?_).1
  match i with
  | 0 | 1 | 2 => cases ht; cases hu; exact ⟨rfl, by decide⟩
  | i + 3 => cases ht

end InterfaceSchema
