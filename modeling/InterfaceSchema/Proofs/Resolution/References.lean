import InterfaceSchema.Resolution
import Mathlib.Logic.Relation

/-!
# Declarations as a graph

The declared types are the nodes of a graph, and their references its edges. This file fixes the
words in which the order of resolution is spoken of:

* `Declared`, `DeclaredAt`: a name is declared, or is declared at a position;
* `RefersTo`, `Step`: one name is among the references of another; a step leads to a declared type,
  never to a base type;
* `WellNamed`: no name is a base type's and none is declared twice. Then a name has one position at
  most (`WellNamed.at_inj`), the one that is looked up (`WellNamed.positionOf?_eq_some_iff`);
* `Complete`, `Acyclic`: every reference leads to a base type or a declaration; no type reaches
  itself.
-/

namespace InterfaceSchema

variable {types : List TypeDef} {name a b : String} {position : Nat}

/-! ## 1. Declarations -/

/-- A type of the name is declared. -/
def Declared (types : List TypeDef) (name : String) : Prop :=
  ∃ t ∈ types, t.name = name

/-- The type declared at the position has the name. -/
def DeclaredAt (types : List TypeDef) (position : Nat) (name : String) : Prop :=
  ∃ t, types[position]? = some t ∧ t.name = name

theorem declared_iff_mem_map : Declared types name ↔ name ∈ types.map (·.name) := by
  simp [Declared]

theorem DeclaredAt.declared (h : DeclaredAt types position name) : Declared types name := by
  obtain ⟨t, ht, hname⟩ := h
  exact ⟨t, List.mem_of_getElem? ht, hname⟩

theorem DeclaredAt.lt (h : DeclaredAt types position name) : position < types.length := by
  obtain ⟨t, ht, _⟩ := h
  exact (List.getElem?_eq_some_iff.1 ht).1

theorem Declared.exists_at (h : Declared types name) :
    ∃ position, DeclaredAt types position name := by
  obtain ⟨t, ht, hname⟩ := h
  obtain ⟨position, hp⟩ := List.getElem?_of_mem ht
  exact ⟨position, t, hp, hname⟩

/-- One position declares one name. -/
theorem DeclaredAt.name_inj (ha : DeclaredAt types position a) (hb : DeclaredAt types position b) :
    a = b := by
  obtain ⟨t, ht, rfl⟩ := ha
  obtain ⟨u, hu, rfl⟩ := hb
  rw [ht] at hu
  cases hu
  rfl

/-- No name is a base type's, and none is declared twice. -/
structure WellNamed (types : List TypeDef) : Prop where
  notBase : ∀ t ∈ types, isBaseName t.name = false
  nodup : (types.map (·.name)).Nodup

/-- The check of the names accepts exactly the well-named lists. -/
theorem nameError?_eq_none_iff_wellNamed : nameError? [] types = none ↔ WellNamed types := by
  rw [nameError?_eq_none_iff]
  constructor
  · rintro ⟨hb, hn⟩
    exact ⟨fun t ht => (hb t ht).1, hn⟩
  · rintro ⟨hb, hn⟩
    exact ⟨fun t ht => ⟨hb t ht, List.not_mem_nil⟩, hn⟩

namespace WellNamed

theorem not_base (hn : WellNamed types) (h : Declared types name) : isBaseName name = false := by
  obtain ⟨t, ht, rfl⟩ := h
  exact hn.notBase t ht

theorem ne_base (hn : WellNamed types) (h : Declared types name) : ¬ isBaseName name = true := by
  rw [hn.not_base h]
  exact Bool.false_ne_true

/-- One name is declared at one position. -/
theorem at_inj (hn : WellNamed types) {p q : Nat} (hp : DeclaredAt types p name)
    (hq : DeclaredAt types q name) : p = q := by
  obtain ⟨t, ht, rfl⟩ := hp
  obtain ⟨u, hu, hname⟩ := hq
  have e := positionOf?_of_nodup hn.nodup hu
  rw [hname, positionOf?_of_nodup hn.nodup ht] at e
  exact Option.some.inj e

theorem positionOf?_eq_some_iff (hn : WellNamed types) :
    positionOf? types name = some position ↔ DeclaredAt types position name := by
  constructor
  · exact positionOf?_name
  · rintro ⟨t, ht, rfl⟩
    exact positionOf?_of_nodup hn.nodup ht

end WellNamed

theorem not_declared_of_positionOf?_eq_none (h : positionOf? types name = none) :
    ¬ Declared types name := by
  rw [declared_iff_mem_map]
  exact positionOf?_eq_none_iff.1 h

/-! ## 2. References -/

/-- A type of the name `a` has `b` among its references. -/
def RefersTo (types : List TypeDef) (a b : String) : Prop :=
  ∃ t ∈ types, t.name = a ∧ b ∈ t.references

/-- A reference step: from a declared type to a declared type, never to a base type. -/
def Step (types : List TypeDef) (a b : String) : Prop :=
  RefersTo types a b ∧ Declared types b ∧ isBaseName b = false

/-- Every reference leads to a base type or to a declaration. -/
def Complete (types : List TypeDef) : Prop :=
  ∀ t ∈ types, ∀ r ∈ t.references, isBaseName r = true ∨ Declared types r

/-- No declared type reaches itself in one or more steps. -/
def Acyclic (types : List TypeDef) : Prop :=
  ∀ t ∈ types, ¬ Relation.TransGen (Step types) t.name t.name

/-- In a well-named list the references of a name are those of the type at its position. -/
theorem WellNamed.mem_references (hn : WellNamed types) {t : TypeDef}
    (ht : types[position]? = some t) (h : RefersTo types t.name b) : b ∈ t.references := by
  obtain ⟨u, hu, hname, hb⟩ := h
  obtain ⟨q, hq⟩ := List.getElem?_of_mem hu
  have e : position = q := hn.at_inj ⟨t, ht, rfl⟩ ⟨u, hq, hname⟩
  subst e
  rw [ht] at hq
  cases hq
  exact hb

theorem refersTo_of_mem {t : TypeDef} (ht : types[position]? = some t) (h : b ∈ t.references) :
    RefersTo types t.name b :=
  ⟨t, List.mem_of_getElem? ht, rfl, h⟩

/-- In a well-named list every reference to a declaration is a step. -/
theorem WellNamed.step (hn : WellNamed types) (h : RefersTo types a b) (hb : Declared types b) :
    Step types a b :=
  ⟨h, hb, hn.not_base hb⟩

end InterfaceSchema
