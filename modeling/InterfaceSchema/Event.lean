/-!
# Events

What is reported beside the output. Finalizing a schema reports that it begins, each type as it is
emitted, and that it is done; if it fails it reports the events up to the failure. A listing that is
stored in a file is reported too.
-/

namespace InterfaceSchema

/-- How closely one has to look to see an event. -/
inductive EventLevel where
  | info
  | debug
  | trace
  deriving DecidableEq

/-- One thing that is reported. -/
inductive Event where
  /-- A schema of so many declared types and resources is about to be finalized. -/
  | finalizing (schema : String) (types resources : Nat)
  /-- The type was emitted, at this place of the output. -/
  | resolved (typeName : String) (position : Nat)
  /-- The schema is finished and has so many types. -/
  | finalized (schema : String) (types : Nat)
  /-- A listing was written to the file of the path. -/
  | stored (path : String)
  deriving DecidableEq

namespace Event

/-- Single types are reported to the closest look only, and a stored listing to every look. -/
def level : Event → EventLevel
  | stored _ => .info
  | finalizing .. | finalized .. => .debug
  | resolved .. => .trace

/-- The event in words. -/
def message : Event → String
  | finalizing .. => "finalizing schema"
  | resolved .. => "resolved type"
  | finalized .. => "schema finalized"
  | stored _ => "wrote output"

/-- What the event is about, by name; numbers are in decimal. -/
def fields : Event → List (String × String)
  | finalizing schema types resources =>
    [("schema", schema), ("types", toString types), ("resources", toString resources)]
  | resolved typeName position => [("type_name", typeName), ("position", toString position)]
  | finalized schema types => [("schema", schema), ("types", toString types)]
  | stored path => [("path", path)]

end Event

end InterfaceSchema
