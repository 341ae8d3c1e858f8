/-!
# The built-in type names

Eighteen names stand for types that no schema declares. A name is looked up exactly as it is
written: no case is folded, and `Uuid` is not `UUID`.

* every name finds its base type, and only its own (`ofName?_name`, `name_of_ofName?`);
* two base types never share a name (`name_inj`);
* the list of all base types holds each of them once (`mem_all`, `nodup_all`).
-/

namespace InterfaceSchema

/-! ## 1. The names -/

/-- A type that needs no declaration. -/
inductive BaseType where
  | bool
  | int8
  | int16
  | int32
  | int64
  | float32
  | float64
  | string
  | bytes
  | timestamp
  | symbol
  | uuid
  | struct
  | array
  | map
  | enum
  | union
  | any
  deriving DecidableEq, Repr

namespace BaseType

/-- Every base type, in the order in which they are declared. -/
def all : List BaseType :=
  [bool, int8, int16, int32, int64, float32, float64, string, bytes, timestamp, symbol, uuid,
    struct, array, map, enum, union, any]

/-- The name by which a schema refers to the base type. -/
def name : BaseType → String
  | bool => "Bool"
  | int8 => "Int8"
  | int16 => "Int16"
  | int32 => "Int32"
  | int64 => "Int64"
  | float32 => "Float32"
  | float64 => "Float64"
  | string => "String"
  | bytes => "Bytes"
  | timestamp => "Timestamp"
  | symbol => "Symbol"
  | uuid => "UUID"
  | struct => "Struct"
  | array => "Array"
  | map => "Map"
  | enum => "Enum"
  | union => "Union"
  | any => "Any"

/-- The base type of a name, if the name is one of theirs. -/
def ofName? (name : String) : Option BaseType :=
  all.find? fun b => b.name == name

/-- The place of the base type in `all`; base types are ordered by it. -/
def index (b : BaseType) : Nat :=
  all.idxOf b

instance : Ord BaseType where
  compare a b := compare a.index b.index

/-- A scalar: it is not made of other types. -/
def isPrimitive : BaseType → Bool
  | struct | array | map | enum | union | any => false
  | _ => true

end BaseType

/-- Is the name one that no schema may declare? -/
def isBaseName (name : String) : Bool :=
  (BaseType.ofName? name).isSome

/-! ## 2. Names and base types determine each other -/

namespace BaseType

theorem mem_all (b : BaseType) : b ∈ all := by
  cases b <;> decide

theorem nodup_all : all.Nodup := by decide

@[simp] theorem ofName?_name (b : BaseType) : ofName? b.name = some b := by
  cases b <;> rfl

/-- A found base type carries the name it was found by. -/
theorem name_of_ofName? {name : String} {b : BaseType} (h : ofName? name = some b) :
    b.name = name := by
  have := List.find?_some h
  simpa using this

theorem name_inj {a b : BaseType} (h : a.name = b.name) : a = b := by
  have := ofName?_name a
  rw [h, ofName?_name] at this
  exact (Option.some.inj this).symm

/-- The place of a base type finds it again. -/
theorem getElem?_index (b : BaseType) : all[b.index]? = some b := by
  cases b <;> rfl

end BaseType

@[simp] theorem isBaseName_name (b : BaseType) : isBaseName b.name = true := by
  simp [isBaseName]

/-- The base names are the names of the base types. -/
theorem isBaseName_iff {name : String} :
    isBaseName name = true ↔ ∃ b : BaseType, b.name = name := by
  constructor
  · intro h
    obtain ⟨b, hb⟩ := Option.isSome_iff_exists.1 h
    exact ⟨b, BaseType.name_of_ofName? hb⟩
  · rintro ⟨b, rfl⟩
    exact isBaseName_name b

end InterfaceSchema
