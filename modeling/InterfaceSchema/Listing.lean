import InterfaceSchema.Schema
import InterfaceSchema.Text.Styled

/-!
# Listings

Types are listed one a row, resources one a paragraph.

* A row has the number of the type, its name, its kind, its supertype where that is not the kind's
  name, and the declared types it depends on. A type that is left out keeps its number.
* A paragraph has a line with method, path, type and expected outcome, and a line for each further
  thing that is known of the resource.
-/

namespace InterfaceSchema

open Text

namespace Listing

/-- A text without style. -/
def text (s : String) : Span := .plain s.toList

/-! ## 1. Types -/

/-- The row of a type. -/
def typeRow (number : Nat) (t : TypeDef) : List Span :=
  [.plain (padLeft 3 (Nat.toDigits 10 number)), text "  ", .styled .bold 14 t.name.toList, text " ",
    .styled .cyan 8 t.kind.name.toList] ++
  (if t.supertype = t.kind.name then [] else [text " : ", .styled .yellow 0 t.supertype.toList]) ++
  (if t.dependencies = [] then []
    else [text "  <- ", .styled .dimmed 0 (", ".intercalate t.dependencies).toList]) ++
  [text "\n"]

/-- The rows of the types whose names are kept, numbered from 1 among all. -/
def typeRows (keep : String → Bool) (types : List TypeDef) : List (List Span) :=
  ((types.zipIdx 1).filter fun p => keep p.1.name).map fun p => typeRow p.2 p.1

/-! ## 2. Resources -/

/-- Where the request carries an input. Of several tags the first of path, query and header
    counts. -/
def carrier (input : ResourceInput) : String :=
  if input.pathParam then "path"
  else
    match input.queryParam, input.header with
    | some param, _ => "query " ++ param
    | none, some header => "header " ++ header
    | none, none => "body"

/-- The mark of what may be left out. -/
def optionalMark (optional : Bool) : String := if optional then "?" else ""

/-- Method, path, type and expected outcome. -/
def headLine (r : Resource) : List Span :=
  [.styled .boldGreen 0 r.method.toList, text (" " ++ r.path ++ " -> "),
    .styled .bold 0 r.typeName.toList, text (" [" ++ r.expected ++ "]\n")]

/-- The display name. -/
def nameLine (name : String) : Span :=
  text ("    name      " ++ name ++ "\n")

/-- An input, and where the request carries it. -/
def inputLine (input : ResourceInput) : Span :=
  text ("    input     " ++ input.name ++ optionalMark input.optional ++ ": " ++ input.typeName ++
    " (" ++ carrier input ++ ")\n")

/-- An output. -/
def outputLine (output : ResourceOutput) : Span :=
  text ("    output    " ++ output.name ++ optionalMark output.optional ++ ": " ++
    output.typeName ++ "\n")

/-- What is asked of the caller. An action without a resource, or the reverse, is not told. -/
def authLine (auth : ResourceAuth) : List Span :=
  match auth.action, auth.resource with
  | some action, some resource => [text ("    authorize " ++ action ++ " on " ++ resource ++ "\n")]
  | _, _ => if auth.authenticate then [text "    authenticate\n"] else []

/-- The symbol of a failing outcome, and the type it answers with. -/
def exceptionLine (entry : String × ExceptionDef) : List Span :=
  [text "    ", .styled .red 9 entry.1.toList, text (" " ++ entry.2.typeName ++ "\n")]

/-- The paragraph of a resource. -/
def resourceParagraph (r : Resource) : List Span :=
  headLine r ++ r.name.toList.map nameLine ++ r.inputs.map inputLine ++ r.outputs.map outputLine ++
    r.auth.toList.flatMap authLine ++ r.exceptions.entries.flatMap exceptionLine

end Listing

/-- The listing of the types whose names are kept. -/
def typeListing (keep : String → Bool) (types : List TypeDef) : List Span :=
  (Listing.typeRows keep types).flatten

/-- The listing of all resources. -/
def resourceListing (resources : List Resource) : List Span :=
  resources.flatMap Listing.resourceParagraph

end InterfaceSchema
