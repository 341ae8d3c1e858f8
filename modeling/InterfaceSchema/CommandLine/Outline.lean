import InterfaceSchema.CommandLine.Arguments
import InterfaceSchema.Text.Quoted

/-!
# The outline of an invocation

What was asked for can be shown instead of done: as nested records, each part on a line of its own
and indented under what it belongs to.
-/

namespace InterfaceSchema

/-! ## 1. Outlines -/

/-- A value as it is shown: a word, a named wrapping of one value, or a named record of fields. -/
inductive Outline where
  | atom (text : String)
  | wrapped (name : String) (inside : Outline)
  | record (name : String) (fields : List (String × Outline))

namespace Outline

/-- A line one level further in. -/
def indent (line : String) : String := "    " ++ line

/-- A comma after the last line. -/
def closeItem : List String → List String
  | [] => []
  | [line] => [line ++ ","]
  | line :: rest => line :: closeItem rest

/-- A label before the first line. -/
def label (name : String) : List String → List String
  | [] => []
  | line :: rest => (name ++ ": " ++ line) :: rest

mutual

/-- The lines of an outline. -/
def lines : Outline → List String
  | atom text => [text]
  | wrapped name inside =>
    [name ++ "("] ++ (closeItem inside.lines).map indent ++ [")"]
  | record name fields =>
    [name ++ " \x7b"] ++ (fieldLines fields).map indent ++ ["\x7d"]

/-- The lines of the fields of a record. -/
def fieldLines : List (String × Outline) → List String
  | [] => []
  | (name, value) :: rest => closeItem (label name value.lines) ++ fieldLines rest

end

/-- A truth value. -/
def ofBool (b : Bool) : Outline := atom (if b then "true" else "false")

/-- A text that may be missing. -/
def ofOption (o : Option String) : Outline :=
  match o with
  | some text => wrapped "Some" (atom text)
  | none => atom "None"

end Outline

/-! ## 2. Invocations -/

/-- Where the output goes; the name of a file is quoted. -/
def OutputSettings.outline (o : OutputSettings) : Outline :=
  .record "OutputSettings"
    [("out", .ofOption (o.out.map Text.quoted)), ("no_op", .ofBool o.noOp)]

/-- What a listing of types is to hold; a pattern is quoted. -/
def TypesRequest.outline (r : TypesRequest) : Outline :=
  .record "TypesOut"
    [("output_settings", r.output.outline),
      ("filter", .ofOption (r.filter.map Text.quoted)),
      ("reverse", .ofBool r.reverse), ("declared", .ofBool r.declared)]

/-- A command is shown with its own settings inside. -/
def Command.outline : Command → Outline
  | types request => .wrapped "Types" request.outline
  | resources output =>
    .wrapped "Resources" (.record "ResourcesOut" [("output_settings", output.outline)])

/-- The whole invocation. -/
def Invocation.outline (i : Invocation) : Outline :=
  .record "CommandLineInterface" [("verbose", .ofBool i.verbose), ("cmd", i.command.outline)]

end InterfaceSchema
