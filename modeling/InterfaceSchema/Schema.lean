import InterfaceSchema.Resolution
import InterfaceSchema.Resource

/-!
# Schemas

A draft collects a header, types and resources in any order. Finalizing it puts the types into
resolution order and leaves everything else as it is; a draft whose types have a defect gives an
error and no schema.

* `Draft.finalize` is the result, `Draft.events` what is reported on the way;
* `Schema.findType?` and `Schema.resource?` look things up in a finished schema.
-/

namespace InterfaceSchema

/-! ## 1. Drafts -/

/-- What a schema says about itself. -/
structure Header where
  name : String
  namespaceName : Option String
  version : Option Int32
  base : Option String
  comment : Option String
  deriving DecidableEq

/-- A schema that is being put together, its types in the order of declaration. -/
structure Draft where
  header : Header
  types : List TypeDef
  resources : List Resource

/-- A finished schema: each type comes after every type it refers to. -/
structure Schema where
  header : Header
  types : List TypeDef
  resources : List Resource
  deriving BEq

namespace Draft

/-- A draft without types and resources. -/
def new (name : String) : Draft :=
  { header := ⟨name, none, none, none, none⟩, types := [], resources := [] }

/-- What can be said about a schema. -/
inductive Call where
  | namespaceName (name : String)
  | version (version : Int32)
  | base (path : String)
  | comment (text : String)
  | type (type : TypeDef)
  | resource (resource : Resource)

/-- What a call does to a draft. -/
def apply (d : Draft) : Call → Draft
  | .namespaceName name => { d with header.namespaceName := some name }
  | .version version => { d with header.version := some version }
  | .base path => { d with header.base := some path }
  | .comment text => { d with header.comment := some text }
  | .type type => { d with types := d.types ++ [type] }
  | .resource resource => { d with resources := d.resources ++ [resource] }

/-- The draft after all calls, in order. -/
def build (name : String) (calls : List Call) : Draft :=
  calls.foldl apply (new name)

/-- The drafts before the first call and after each. -/
def history (name : String) (calls : List Call) : List Draft :=
  (List.range (calls.length + 1)).map fun n => build name (calls.take n)

/-- The draft with its types declared in the opposite order. -/
def reverse (d : Draft) : Draft :=
  { d with types := d.types.reverse }

/-! ## 2. Finalizing -/

/-- Takes the types out of their slots, in the order of the positions. A slot gives its type once; a
    position that has none to give is passed over. -/
def takeSlots : List (Option TypeDef) → List Nat → List TypeDef
  | _, [] => []
  | slots, position :: rest =>
    match slots[position]?.join with
    | some t => t :: takeSlots (slots.set position none) rest
    | none => takeSlots slots rest

/-- The schema of the draft's types in resolution order. -/
def finalize (d : Draft) : Except SchemaError Schema :=
  match resolveOrder d.types with
  | .ok order =>
    .ok
      { header := d.header
        types := takeSlots (d.types.map some) order
        resources := d.resources }
  | .error error => .error error

/-- What finalizing reports. -/
def events (d : Draft) : List Event :=
  .finalizing d.header.name d.types.length d.resources.length :: resolveEvents d.types ++
    match d.finalize with
    | .ok schema => [.finalized schema.header.name schema.types.length]
    | .error _ => []

end Draft

/-! ## 3. Finished schemas -/

namespace Schema

/-- The first type of the name. -/
def findType? (s : Schema) (name : String) : Option TypeDef :=
  s.types.find? fun t => t.name == name

/-- The first resource of the display name. -/
def resource? (s : Schema) (name : String) : Option Resource :=
  s.resources.find? fun r => r.name == some name

/-- The place of the first resource of the display name. -/
def resourcePosition? (s : Schema) (name : String) : Option Nat :=
  s.resources.findIdx? fun r => r.name == some name

/-- The types of the schema, declared once more in their order. -/
def redraft (s : Schema) : Draft :=
  { header := s.header, types := s.types, resources := s.resources }

end Schema

/-- Equality of the results of finalizing, errors included. -/
def sameResult : Except SchemaError Schema → Except SchemaError Schema → Bool
  | .ok a, .ok b => a == b
  | .error a, .error b => a == b
  | _, _ => false

end InterfaceSchema
