import InterfaceSchema.Resolution.Walk

/-!
# Resolution order

The order in which declared types can be read one after the other: each after everything it refers
to, and otherwise in the order of declaration. Names are checked first, so that a name that is
reserved or declared twice is reported whatever the references are.
-/

namespace InterfaceSchema

/-! ## 1. Names -/

/-- The error of the first type whose name is a base type's, or is among `seen` or the names before
    it. -/
def nameError? (seen : List String) : List TypeDef → Option SchemaError
  | [] => none
  | t :: rest =>
    if isBaseName t.name then some (.reservedName t.name)
    else if t.name ∈ seen then some (.duplicateType t.name)
    else nameError? (t.name :: seen) rest

/-- No error of names is found exactly when no name is a base type's and none comes twice. -/
theorem nameError?_eq_none_iff : ∀ (types : List TypeDef) (seen : List String),
    nameError? seen types = none ↔
      (∀ t ∈ types, isBaseName t.name = false ∧ t.name ∉ seen) ∧ (types.map (·.name)).Nodup
  | [], seen => by simp [nameError?]
  | t :: rest, seen => by
    unfold nameError?
    split
    · simp_all
    · split
      · simp_all
      · rename_i hb hs
        rw [nameError?_eq_none_iff rest (t.name :: seen)]
        simp only [List.mem_cons, not_or, List.map_cons, List.nodup_cons, List.mem_map, not_exists,
          not_and, forall_eq_or_imp]
        grind

/-! ## 2. The order -/

/-- The walk through all declarations, in the order of declaration. -/
def resolve (types : List TypeDef) : Except Stop Walk :=
  match nameError? [] types with
  | some error => .error ⟨error, .start⟩
  | none => (List.range types.length).foldlM (resolveAt types) .start

/-- The positions of the declared types in an order in which each follows what it refers to. -/
def resolveOrder (types : List TypeDef) : Except SchemaError (List Nat) :=
  match resolve types with
  | .ok walk => .ok walk.ordered
  | .error stop => .error stop.error

/-- What is reported of the walk, up to its end or to the error. -/
def resolveEvents (types : List TypeDef) : List Event :=
  match resolve types with
  | .ok walk => walk.log
  | .error stop => stop.walk.log

end InterfaceSchema
