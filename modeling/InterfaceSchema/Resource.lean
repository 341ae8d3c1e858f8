import InterfaceSchema.Literal
import InterfaceSchema.Table

/-!
# Resources

A resource is one operation of a service: what it takes, gives and answers when it fails. It is
described by calls, made one after the other, from a type, a method and a path.

* a later call for a single-valued part replaces an earlier one; inputs and outputs add up;
* exceptions stand in the order in which their symbols first came in, each as it was given last;
* equality of resources disregards the order of exceptions.
-/

namespace InterfaceSchema

/-! ## 1. Inputs -/

/-- One input of a request. Nothing stops it from carrying more than one of the tags path, query
    and header. -/
structure ResourceInput where
  name : String
  typeName : String
  pathParam : Bool
  queryParam : Option String
  header : Option String
  optional : Bool
  defaultValue : Option Literal
  comment : Option String
  deriving BEq

namespace ResourceInput

/-- A required input without tags. -/
def new (name typeName : String) : ResourceInput :=
  { name, typeName, pathParam := false, queryParam := none, header := none, optional := false,
    defaultValue := none, comment := none }

/-- What can be said about an input. -/
inductive Call where
  | pathParam
  | queryParam (param : String)
  | header (header : String)
  | optional
  | defaultValue (value : Literal)
  | comment (text : String)

/-- What a call does to an input. -/
def apply (input : ResourceInput) : Call → ResourceInput
  | .pathParam => { input with pathParam := true }
  | .queryParam param => { input with queryParam := some param }
  | .header header => { input with header := some header }
  | .optional => { input with optional := true }
  | .defaultValue value => { input with defaultValue := some value }
  | .comment text => { input with comment := some text }

/-- The input after all calls, in order. -/
def build (name typeName : String) (calls : List Call) : ResourceInput :=
  calls.foldl apply (new name typeName)

/-- An input without a tag is carried by the body of the request. -/
def isBody (input : ResourceInput) : Bool :=
  !input.pathParam && input.queryParam.isNone && input.header.isNone

end ResourceInput

/-! ## 2. Outputs -/

/-- One output of an answer. -/
structure ResourceOutput where
  name : String
  typeName : String
  header : Option String
  optional : Bool
  comment : Option String
  deriving DecidableEq

namespace ResourceOutput

/-- A required output without a header. -/
def new (name typeName : String) : ResourceOutput :=
  { name, typeName, header := none, optional := false, comment := none }

/-- What can be said about an output. -/
inductive Call where
  | header (header : String)
  | optional
  | comment (text : String)

/-- What a call does to an output. -/
def apply (output : ResourceOutput) : Call → ResourceOutput
  | .header header => { output with header := some header }
  | .optional => { output with optional := true }
  | .comment text => { output with comment := some text }

/-- The output after all calls, in order. -/
def build (name typeName : String) (calls : List Call) : ResourceOutput :=
  calls.foldl apply (new name typeName)

end ResourceOutput

/-! ## 3. Access -/

/-- What is asked of the caller. -/
structure ResourceAuth where
  authenticate : Bool
  action : Option String
  resource : Option String
  domain : Option String
  deriving DecidableEq

namespace ResourceAuth

/-- The caller only has to be known. -/
def authenticated : ResourceAuth := ⟨true, none, none, none⟩

/-- The caller must be allowed the action on the resource. -/
def authorized (action resource : String) : ResourceAuth :=
  ⟨false, some action, some resource, none⟩

/-- Names the domain in which the caller is known. -/
def inDomain (auth : ResourceAuth) (domain : String) : ResourceAuth :=
  { auth with domain := some domain }

end ResourceAuth

/-! ## 4. Resources -/

/-- What a failing outcome answers with. -/
structure ExceptionDef where
  typeName : String
  comment : Option String
  deriving DecidableEq

/-- One operation. -/
structure Resource where
  /-- The type that the operation produces or accepts. -/
  typeName : String
  method : String
  /-- A template in which a braced name stands for an input. -/
  path : String
  name : Option String
  comment : Option String
  inputs : List ResourceInput
  outputs : List ResourceOutput
  auth : Option ResourceAuth
  /-- The symbol of the outcome without failure. -/
  expected : String
  /-- What each failing outcome answers, by symbol. -/
  exceptions : Table ExceptionDef
  deriving BEq

namespace Resource

/-- The outcome symbol of a resource that names none. -/
def defaultExpected : String := "OK"

/-- A resource of which nothing further is known. -/
def new (typeName method path : String) : Resource :=
  { typeName, method, path, name := none, comment := none, inputs := [], outputs := [],
    auth := none, expected := defaultExpected, exceptions := .empty }

/-- What can be said about a resource. -/
inductive Call where
  | comment (text : String)
  | name (name : String)
  | input (input : ResourceInput)
  | output (output : ResourceOutput)
  | auth (auth : ResourceAuth)
  | expected (symbol : String)
  | exception (symbol typeName : String) (comment : Option String)

/-- What a call does to a resource. -/
def apply (r : Resource) : Call → Resource
  | .comment text => { r with comment := some text }
  | .name name => { r with name := some name }
  | .input input => { r with inputs := r.inputs ++ [input] }
  | .output output => { r with outputs := r.outputs ++ [output] }
  | .auth auth => { r with auth := some auth }
  | .expected symbol => { r with expected := symbol }
  | .exception symbol typeName comment =>
    { r with exceptions := r.exceptions.put symbol ⟨typeName, comment⟩ }

/-- The resource after all calls, in order. -/
def build (typeName method path : String) (calls : List Call) : Resource :=
  calls.foldl apply (new typeName method path)

/-- The resources before the first call and after each. -/
def history (typeName method path : String) (calls : List Call) : List Resource :=
  (List.range (calls.length + 1)).map fun n => build typeName method path (calls.take n)

/-- The inputs that fill places of the path. -/
def pathInputs (r : Resource) : List ResourceInput :=
  r.inputs.filter (·.pathParam)

/-- The input that the body of the request carries: the first without a tag. -/
def bodyInput? (r : Resource) : Option ResourceInput :=
  r.inputs.find? (·.isBody)

end Resource

end InterfaceSchema
