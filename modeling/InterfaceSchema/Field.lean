import InterfaceSchema.Literal

/-!
# Fields of a struct

A field holds a named type, or an array or map that is given inline by its element types. It starts
out required, without default and comment; a later call replaces what an earlier one set.
-/

namespace InterfaceSchema

/-! ## 1. What a field holds -/

/-- The type of a field: a name, or a collection of named types. -/
inductive FieldKind where
  | named (typeName : String)
  | array (items : String)
  | map (keys items : String)
  deriving DecidableEq

namespace FieldKind

/-- The type name a field is declared with; an inline collection is declared with its shape. -/
def typeName : FieldKind → String
  | named typeName => typeName
  | array _ => "Array"
  | map _ _ => "Map"

/-- The names a field refers to. The items of a map come before its keys. -/
def references : FieldKind → List String
  | named typeName => [typeName]
  | array items => [items]
  | map keys items => [items, keys]

end FieldKind

/-! ## 2. Fields -/

/-- One field of a struct. -/
structure Field where
  name : String
  kind : FieldKind
  optional : Bool
  defaultValue : Option Literal
  comment : Option String
  deriving BEq

namespace Field

/-- A required field without default and comment. -/
def new (name : String) (kind : FieldKind) : Field :=
  { name, kind, optional := false, defaultValue := none, comment := none }

/-- What can be said about a field after its name and kind. -/
inductive Call where
  | optional
  | defaultValue (value : Literal)
  | comment (text : String)

/-- What a call does to a field. -/
def apply (field : Field) : Call → Field
  | .optional => { field with optional := true }
  | .defaultValue value => { field with defaultValue := some value }
  | .comment text => { field with comment := some text }

/-- The field after all calls, in order. -/
def build (name : String) (kind : FieldKind) (calls : List Call) : Field :=
  calls.foldl apply (new name kind)

/-- The names the field refers to. -/
def references (field : Field) : List String :=
  field.kind.references

end Field

end InterfaceSchema
