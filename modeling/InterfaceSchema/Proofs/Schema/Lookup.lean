import InterfaceSchema.Proofs.Schema.Idempotence

/-!
# Looking types up in a finished schema

A finished schema is searched from its beginning for the first type of a name. Because no name
stands in it twice, the search finds the one type of the name wherever finalizing has put it, and
what a type refers to is found before the type. So whoever reads a schema once from beginning to end
never meets a name that has not come yet.

* `findType?_eq`: a search finds what stands at the position of the name;
* `Schema.findType?_of_at`: under distinct names every type is found by its name;
* `unknownReference?`, `unknownReference?_eq_none_iff`: reading a list once, with a table of the
  names that have come so far, meets nothing unknown exactly where the list is in order;
* `findType?_finalize`: what is found in a finished schema is what was declared, and it is found
  before it is needed.
-/

namespace InterfaceSchema

variable {s : Schema} {types : List TypeDef} {t : TypeDef} {name : String} {position : Nat}

/-! ## 1. The search -/

namespace Schema

/-- A search finds what stands at the position of the name. -/
theorem findType?_eq (s : Schema) (name : String) :
    s.findType? name = (positionOf? s.types name).bind (s.types[·]?) :=
  List.find?_eq_bind_findIdx?_getElem?

theorem name_of_findType? (h : s.findType? name = some t) : t.name = name := by
  simpa using List.find?_some h

theorem mem_of_findType? (h : s.findType? name = some t) : t ∈ s.types :=
  List.mem_of_find?_eq_some h

/-- **Under distinct names every type is found by its name.** -/
theorem findType?_of_at (hn : WellNamed s.types) (h : s.types[position]? = some t) :
    s.findType? t.name = some t := by
  rw [findType?_eq, positionOf?_of_nodup hn.nodup h]
  exact h

/-- Something is found exactly where a type of the name stands. -/
theorem exists_findType?_iff (hn : WellNamed s.types) :
    (∃ t, s.findType? name = some t) ↔ ∃ t ∈ s.types, t.name = name := by
  constructor
  · rintro ⟨t, ht⟩
    exact ⟨t, mem_of_findType? ht, name_of_findType? ht⟩
  · rintro ⟨t, ht, rfl⟩
    obtain ⟨p, hp⟩ := List.getElem?_of_mem ht
    exact ⟨t, findType?_of_at hn hp⟩

/-- **What is found is the only type of its name**: it stands at one place, and no other type of the
    schema has the name. -/
theorem findType?_unique (hn : WellNamed s.types) (h : s.findType? name = some t) :
    (∀ u ∈ s.types, u.name = name → u = t) ∧
    ∃ p, s.types[p]? = some t ∧ ∀ q, DeclaredAt s.types q name → q = p := by
  have hname := name_of_findType? h
  obtain ⟨p, hp⟩ := List.getElem?_of_mem (mem_of_findType? h)
  refine ⟨fun u hu hsame => ?_, p, hp, fun q hq => hn.at_inj hq ⟨t, hp, hname⟩⟩
  obtain ⟨q, hq⟩ := List.getElem?_of_mem hu
  have hfound := findType?_of_at hn hq
  rw [hsame, h] at hfound
  exact (Option.some.inj hfound).symm

/-- No base type is found. -/
theorem findType?_base (hn : WellNamed s.types) (h : isBaseName name = true) :
    s.findType? name = none := by
  rw [findType?_eq, positionOf?_eq_none_iff.2]
  · rfl
  · rw [← declared_iff_mem_map]
    exact fun hd => hn.ne_base hd h

end Schema

/-! ## 2. Reading in one pass -/

/-- Reads the types one after the other, with the names that have come so far, and stops at the
    first reference that is neither a base type's nor among them: the name of its type, and the
    name that it refers to. -/
def unknownReference? (met : List String) : List TypeDef → Option (String × String)
  | [] => none
  | t :: rest =>
    match t.references.find? fun r => !isBaseName r && !met.contains r with
    | some r => some (t.name, r)
    | none => unknownReference? (t.name :: met) rest

theorem declaredAt_cons_zero : DeclaredAt (t :: types) 0 name ↔ t.name = name := by
  simp [DeclaredAt]

theorem declaredAt_cons_succ :
    DeclaredAt (t :: types) (position + 1) name ↔ DeclaredAt types position name := by
  simp [DeclaredAt]

/-- The first type has to refer to what has come before; then its own name has come as well. -/
theorem unknownReference?_cons (met : List String) (t : TypeDef) (rest : List TypeDef) :
    unknownReference? met (t :: rest) = none ↔
      (∀ r ∈ t.references, isBaseName r = true ∨ r ∈ met) ∧
        unknownReference? (t.name :: met) rest = none := by
  have hall : (t.references.find? fun r => !isBaseName r && !met.contains r) = none ↔
      ∀ r ∈ t.references, isBaseName r = true ∨ r ∈ met := by
    simp [List.find?_eq_none, or_iff_not_imp_left]
  rw [← hall]
  simp only [unknownReference?]
  cases t.references.find? fun r => !isBaseName r && !met.contains r with
  | some r => simp
  | none => simp

/-- **One pass meets nothing unknown exactly where every reference leads to a base type or to a name
    that has come before.** -/
theorem unknownReference?_eq_none_iff : ∀ (types : List TypeDef) (met : List String),
    unknownReference? met types = none ↔ ∀ (i : Nat) (t : TypeDef), types[i]? = some t →
      ∀ r ∈ t.references, isBaseName r = true ∨ r ∈ met ∨ ∃ j < i, DeclaredAt types j r
  | [], met => by simp [unknownReference?]
  | t :: rest, met => by
    have ih := unknownReference?_eq_none_iff rest (t.name :: met)
    rw [unknownReference?_cons, ih]
    constructor
    · rintro ⟨hfirst, hrest⟩ i u hu r hr
      cases i with
      | zero =>
        cases hu
        exact (hfirst r hr).imp_right Or.inl
      | succ i =>
        rcases hrest i u hu r hr with hb | hmet | ⟨j, hj, hat⟩
        · exact Or.inl hb
        · rcases List.mem_cons.1 hmet with rfl | hmet
          · exact Or.inr (Or.inr ⟨0, Nat.succ_pos i, declaredAt_cons_zero.2 rfl⟩)
          · exact Or.inr (Or.inl hmet)
        · exact Or.inr (Or.inr ⟨j + 1, Nat.succ_lt_succ hj, declaredAt_cons_succ.2 hat⟩)
    · refine fun h => ⟨fun r hr => ?_, fun i u hu r hr => ?_⟩
      · rcases h 0 t rfl r hr with hb | hmet | ⟨j, hj, _⟩
        · exact Or.inl hb
        · exact Or.inr hmet
        · exact absurd hj (Nat.not_lt_zero j)
      · rcases h (i + 1) u hu r hr with hb | hmet | ⟨j, hj, hat⟩
        · exact Or.inl hb
        · exact Or.inr (Or.inl (List.mem_cons_of_mem _ hmet))
        · cases j with
          | zero =>
            rw [← declaredAt_cons_zero.1 hat]
            exact Or.inr (Or.inl List.mem_cons_self)
          | succ j =>
            exact Or.inr (Or.inr ⟨j, Nat.lt_of_succ_lt_succ hj, declaredAt_cons_succ.1 hat⟩)

/-- Read from the beginning, nothing unknown is met exactly where the list is in order. -/
theorem unknownReference?_nil_iff : unknownReference? [] types = none ↔ InOrder types := by
  rw [unknownReference?_eq_none_iff]
  simp [InOrder, DeclaredAt]

/-! ## 3. What is found in a finished schema -/

/-- **A finished schema is closed, and what is looked up in it is unambiguous.** A name is found
    exactly where a type of the name was declared; what is found is what was declared, and the only
    type of its name. No base type is found. What a type refers to is a base type's name or is found
    before it, so that one pass through the schema meets nothing unknown. -/
theorem findType?_finalize {calls : List Draft.Call}
    (h : (Draft.build name calls).finalize = .ok s) :
    (∀ key, (∃ t, s.findType? key = some t) ↔
      ∃ t ∈ calls.filterMap Draft.Call.type?, t.name = key) ∧
    (∀ key t, s.findType? key = some t →
      t ∈ calls.filterMap Draft.Call.type? ∧ t.name = key ∧
      (∀ u ∈ calls.filterMap Draft.Call.type?, u.name = key → u = t) ∧
      (∀ u ∈ s.types, u.name = key → u = t) ∧
      ∃ p, s.types[p]? = some t ∧ ∀ q, DeclaredAt s.types q key → q = p) ∧
    (∀ key, isBaseName key = true → s.findType? key = none) ∧
    (∀ (p : Nat) (t : TypeDef), s.types[p]? = some t → ∀ r ∈ t.references,
      isBaseName r = true ∨ ∃ q < p, ∃ u, s.types[q]? = some u ∧ s.findType? r = some u) ∧
    unknownReference? [] s.types = none := by
  obtain ⟨hn, ho⟩ := inOrder_of_finalize h
  have hperm : s.types.Perm (calls.filterMap Draft.Call.type?) := by
    rw [← Draft.types_build name calls]
    exact types_perm_of_finalize h
  refine ⟨fun key => ?_, fun key t ht => ?_, fun key hb => Schema.findType?_base hn hb,
    fun p t hp r hr => ?_, unknownReference?_nil_iff.2 ho⟩
  · rw [Schema.exists_findType?_iff hn]
    exact exists_congr fun t => and_congr_left' hperm.mem_iff
  · obtain ⟨honly, hplace⟩ := Schema.findType?_unique hn ht
    exact ⟨hperm.mem_iff.1 (Schema.mem_of_findType? ht), Schema.name_of_findType? ht,
      fun u hu => honly u (hperm.mem_iff.2 hu), honly, hplace⟩
  · refine (ho p t hp r hr).imp_right ?_
    rintro ⟨q, hq, u, hu, rfl⟩
    exact ⟨q, hq, u, hu, Schema.findType?_of_at hn hu⟩

/-- `Line` is declared before the `Point` and the `Label` it needs, and is the last to be found. -/
theorem findType?_finalize_line :
    let line : TypeDef :=
      ⟨⟨"Line", "Struct", none⟩, .struct [.new "ends" (.array "Point"), .new "of" (.named "Label")]⟩
    let point : TypeDef := ⟨⟨"Point", "Int32", some "on the line"⟩, .synonym⟩
    let label : TypeDef := ⟨⟨"Label", "String", none⟩, .synonym⟩
    let calls : List Draft.Call := [.type label, .version 1, .type line, .type point]
    ∃ s, (Draft.build "drawing" calls).finalize = .ok s ∧ s.types = [label, point, line] ∧
      (∃ t, s.findType? "Point" = some t) ∧ (¬ ∃ t, s.findType? "Lines" = some t) ∧
      (∀ u ∈ s.types, u.name = "Point" → u = point) ∧ s.findType? "Int32" = none ∧
      (∃ q < 2, ∃ u, s.types[q]? = some u ∧ s.findType? "Point" = some u) ∧
      unknownReference? [] s.types = none := by
  intro line point label calls
  let s : Schema := ⟨⟨"drawing", none, some 1, none, none⟩, [label, point, line], []⟩
  have h : (Draft.build "drawing" calls).finalize = .ok s := rfl
  obtain ⟨hsome, honly, hbase, hearlier, hpass⟩ := findType?_finalize h
  refine ⟨s, h, rfl, (hsome "Point").2 ⟨point, by simp [calls, Draft.Call.type?], rfl⟩, ?_,
    (honly "Point" point rfl).2.2.2.1, hbase "Int32" rfl,
    (hearlier 2 line rfl "Point" (by decide)).resolve_left (by decide), hpass⟩
  rw [hsome]
  simp [calls, Draft.Call.type?, TypeDef.name, label, line, point]

end InterfaceSchema
