import InterfaceSchema.Listing

/-!
# Rows

A row of the listing has a number and says four things of a type: its name, its kind, what it is
derived from and what it depends on. The text of a row is fixed by these alone. All types have a
row, and they are numbered in the order in which they stand; a listing is what remains of the rows
when some names are left out.

* `Entry`, `TypeDef.entry`: what a row says of a type;
* `Row`, `Row.text`: a row, and how it reads without colours;
* `rows`: the rows of a list of types;
* `renderAll_typeListing`: a listing reads as the rows whose names are kept.
-/

namespace InterfaceSchema

open Text

namespace Listing

/-! ## 1. What a row says -/

/-- What a row says of its type. -/
@[ext]
structure Entry where
  name : String
  kind : BaseType
  supertype : String
  dependencies : List String

/-- The supertype, unless it is the kind's name. -/
def supertypeText (kind : BaseType) (supertype : String) : List Char :=
  if supertype = kind.name then [] else ' ' :: ':' :: ' ' :: supertype.toList

/-- The dependencies, if there are any. -/
def dependencyText (dependencies : List String) : List Char :=
  if dependencies = [] then []
  else ' ' :: ' ' :: '<' :: '-' :: ' ' :: (", ".intercalate dependencies).toList

/-- The row of the entry, without colours. -/
def Entry.text (e : Entry) (number : Nat) : List Char :=
  padLeft 3 (Nat.toDigits 10 number) ++ ' ' :: ' ' :: (padRight 14 e.name.toList ++ ' ' ::
    (padRight 8 e.kind.name.toList ++ (supertypeText e.kind e.supertype ++
      (dependencyText e.dependencies ++ ['\n']))))

/-- A row of the listing. -/
structure Row where
  number : Nat
  entry : Entry

/-- How the row reads. -/
def Row.text (r : Row) : List Char :=
  r.entry.text r.number

end Listing

open Listing

/-- What the row of the type says. -/
def TypeDef.entry (t : TypeDef) : Entry :=
  ⟨t.name, t.kind, t.supertype, t.dependencies⟩

namespace Listing

/-- The rows of the types, numbered from 1. -/
def rows (types : List TypeDef) : List Row :=
  (types.zipIdx 1).map fun p => ⟨p.2, p.1.entry⟩

/-- The rows have the numbers from 1 to the number of types. -/
theorem map_number_rows (types : List TypeDef) :
    (rows types).map Row.number = List.range' 1 types.length := by
  rw [rows, List.map_map]
  exact List.zipIdx_map_snd 1 types

/-- Every type has its row, and they stand as the types do. -/
theorem map_entry_rows (types : List TypeDef) :
    (rows types).map Row.entry = types.map TypeDef.entry := by
  have hfirst : ((types.zipIdx 1).map Prod.fst).map TypeDef.entry = types.map TypeDef.entry :=
    congrArg (List.map TypeDef.entry) (List.zipIdx_map_fst 1 types)
  rw [rows, List.map_map]
  rwa [List.map_map] at hfirst

/-! ## 2. What is printed -/

/-- **The row of a type is that of its entry.** -/
theorem flatMap_render_typeRow (number : Nat) (t : TypeDef) :
    (typeRow number t).flatMap (·.render false) = t.entry.text number := by
  have hsupertype : (if t.supertype = t.kind.name then []
      else [text " : ", .styled .yellow 0 t.supertype.toList]).flatMap (·.render false) =
      supertypeText t.kind t.supertype := by
    unfold supertypeText
    split
    · rfl
    · simp [text, Span.render]
  have hdependencies : (if t.dependencies = [] then [] else [text "  <- ",
      .styled .dimmed 0 (", ".intercalate t.dependencies).toList]).flatMap (·.render false) =
      dependencyText t.dependencies := by
    unfold dependencyText
    split
    · rfl
    · simp [text, Span.render]
  rw [typeRow, List.flatMap_append, List.flatMap_append, List.flatMap_append, hsupertype,
    hdependencies]
  simp [text, Span.render, Entry.text, TypeDef.entry]

/-- **A listing reads as the rows whose names are kept**, with the numbers that they have among
    all. -/
theorem renderAll_typeListing (keep : String → Bool) (types : List TypeDef) :
    renderAll false (typeListing keep types) =
      String.ofList (((rows types).filter fun r => keep r.entry.name).flatMap Row.text) := by
  have hkept : (rows types).filter (fun r => keep r.entry.name) =
      ((types.zipIdx 1).filter fun p => keep p.1.name).map fun p => ⟨p.2, p.1.entry⟩ := by
    rw [rows, List.filter_map]
    rfl
  have hlisting : typeListing keep types =
      ((types.zipIdx 1).filter fun p => keep p.1.name).flatMap fun p => typeRow p.2 p.1 := by
    rw [typeListing, typeRows, List.flatMap_def]
  rw [renderAll, hlisting, hkept, List.flatMap_assoc, List.flatMap_map]
  simp only [flatMap_render_typeRow, Row.text]

end Listing

end InterfaceSchema
