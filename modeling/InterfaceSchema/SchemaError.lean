/-!
# Schema errors

Every way in which a list of declared types can fail to be a schema. Each is a mistake in the
declarations, and its message names the offenders.
-/

namespace InterfaceSchema

/-- A defect of the declared types. -/
inductive SchemaError where
  /-- A type refers to a name that no schema type and no base type has. -/
  | danglingReference (referrer reference : String)
  /-- Two declared types share a name. -/
  | duplicateType (name : String)
  /-- A type reaches itself through its references; the path begins and ends with it. -/
  | cycle (path : List String)
  /-- A declared type has the name of a base type. -/
  | reservedName (name : String)
  deriving DecidableEq

/-- The error in words. -/
def SchemaError.message : SchemaError → String
  | danglingReference referrer reference =>
    "type `" ++ referrer ++ "` references undeclared type `" ++ reference ++ "`"
  | duplicateType name => "type `" ++ name ++ "` is declared more than once"
  | cycle path => "reference cycle: " ++ " -> ".intercalate path
  | reservedName name => "type `" ++ name ++ "` shadows a base type"

end InterfaceSchema
