import InterfaceSchema.Number.BinaryFormat
import InterfaceSchema.Table

/-!
# Literals

The default of a field or of an input is a literal of any shape. Literals are compared by value:
the order of a record's members says nothing, that of a list's items does, and a whole number never
equals a number that was written with a fraction or an exponent.
-/

namespace InterfaceSchema

/-- A literal. The members of a record are looked up by name; the first of a name counts. -/
inductive Literal where
  | null
  | bool (value : Bool)
  | integer (value : Int)
  /-- A number written with a fraction or an exponent, as a 64-bit binary word. -/
  | decimal (word : UInt64)
  | text (value : String)
  | list (items : List Literal)
  | record (members : List (String × Literal))

namespace Literal

/-- The record of the members, of which a later one of a name replaces an earlier one. -/
def ofMembers (members : List (String × Literal)) : Literal :=
  .record (Table.ofList members).entries

mutual

/-- Equality of value. Two records are equal when every name holds equal literals in both. -/
def same : Literal → Literal → Bool
  | .null, .null => true
  | .bool a, .bool b => a == b
  | .integer a, .integer b => a == b
  | .decimal a, .decimal b => BinaryFormat.binary64.same a.toNat b.toNat
  | .text a, .text b => a == b
  | .list a, .list b => sameItems a b
  | .record a, .record b =>
    sameMembers [] a b && b.all fun member => (a.lookup member.1).isSome
  | _, _ => false

/-- Equality item by item. -/
def sameItems : List Literal → List Literal → Bool
  | [], [] => true
  | a :: as, b :: bs => same a b && sameItems as bs
  | _, _ => false

/-- Does every name that is not among `seen` hold an equal literal in the other record? -/
def sameMembers (seen : List String) :
    List (String × Literal) → List (String × Literal) → Bool
  | [], _ => true
  | (name, value) :: rest, other =>
    (seen.contains name ||
      match other.lookup name with
      | some v => same value v
      | none => false) &&
    sameMembers (name :: seen) rest other

end

instance : BEq Literal := ⟨same⟩

end Literal

end InterfaceSchema
