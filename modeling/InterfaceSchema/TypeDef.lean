import InterfaceSchema.BaseType
import InterfaceSchema.Field
import InterfaceSchema.Number

/-!
# Declared types

A declared type is a header (name, supertype, comment) and a body of one of eight shapes. From both
one reads off

* `kind`, the base type that says what values look like;
* `references`, every name it refers to, in the order in which they have to be declared;
* `dependencies`, the declared types among them, each once, in the order of first occurrence
  (`mem_dependencies`, `nodup_dependencies`).
-/

namespace InterfaceSchema

/-! ## 1. Shapes -/

/-- What every declared type has, whatever its shape. -/
structure TypeInfo where
  name : String
  /-- The name of a base type or of another declared type. -/
  supertype : String
  comment : Option String
  deriving DecidableEq

/-- What a constrained string may be. -/
structure StringConstraints where
  pattern : Option String
  minSize : Option Int32
  maxSize : Option Int32
  /-- The strings allowed, in the order given. -/
  values : List String
  deriving DecidableEq

/-- The least and the greatest number allowed. -/
structure NumberBounds where
  min : Option Number
  max : Option Number
  deriving BEq

/-- One value of an enumeration. -/
structure EnumElement where
  symbol : String
  comment : Option String
  deriving DecidableEq

/-- What a declared type adds to its supertype. -/
inductive TypeBody where
  /-- Another name for the supertype. -/
  | synonym
  | string (constraints : StringConstraints)
  | number (bounds : NumberBounds)
  | struct (fields : List Field)
  | array (items : String)
  | map (keys items : String)
  | enum (elements : List EnumElement)
  | union (variants : List String)
  deriving BEq

namespace TypeBody

/-- The names a body refers to. The items of a map come before its keys. -/
def references : TypeBody → List String
  | struct fields => fields.flatMap (·.references)
  | array items => [items]
  | map keys items => [items, keys]
  | union variants => variants
  | synonym | string _ | number _ | enum _ => []

/-- The first field of the name. -/
def field? (body : TypeBody) (name : String) : Option Field :=
  match body with
  | struct fields => fields.find? fun f => f.name == name
  | _ => none

end TypeBody

/-- A declared type. -/
structure TypeDef where
  info : TypeInfo
  body : TypeBody
  deriving BEq

namespace TypeDef

def name (t : TypeDef) : String := t.info.name

def supertype (t : TypeDef) : String := t.info.supertype

def comment (t : TypeDef) : Option String := t.info.comment

/-! ## 2. Kind -/

/-- The base type that says what values look like. A synonym has the base type it stands for, or
    `any`; a number derived from another declared type has the width of its bounds. -/
def kind (t : TypeDef) : BaseType :=
  match t.body with
  | .synonym => (BaseType.ofName? t.supertype).getD .any
  | .string _ => .string
  | .number bounds =>
    match (BaseType.ofName? t.supertype).filter (·.isPrimitive) with
    | some base => base
    | none =>
      match bounds.min, bounds.max with
      | some n, _ => n.baseType
      | none, some n => n.baseType
      | none, none => .any
  | .struct _ => .struct
  | .array _ => .array
  | .map _ _ => .map
  | .enum _ => .enum
  | .union _ => .union

/-! ## 3. References and dependencies -/

/-- Every name the type refers to, in the order in which they are resolved: the supertype first. -/
def references (t : TypeDef) : List String :=
  t.supertype :: t.body.references

/-- The references that are not names of base types, each once. -/
def dependencies (t : TypeDef) : List String :=
  (t.references.filter fun r => !isBaseName r).eraseDups

theorem mem_dependencies {t : TypeDef} {r : String} :
    r ∈ t.dependencies ↔ r ∈ t.references ∧ isBaseName r = false := by
  simp [dependencies, List.mem_eraseDups]

private theorem nodup_eraseDups {α : Type} [BEq α] [LawfulBEq α] :
    ∀ xs : List α, xs.eraseDups.Nodup
  | [] => by simp
  | x :: rest => by
    rw [List.eraseDups_cons]
    refine List.nodup_cons.2 ⟨?_, nodup_eraseDups _⟩
    simp [List.mem_eraseDups]
  termination_by xs => xs.length
  decreasing_by exact Nat.lt_succ_of_le (List.length_filter_le _ _)

theorem nodup_dependencies (t : TypeDef) : t.dependencies.Nodup :=
  nodup_eraseDups _

end TypeDef

end InterfaceSchema
