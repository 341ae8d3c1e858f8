import InterfaceSchema.CommandLine.FileTree
import InterfaceSchema.CommandLine.Outline
import InterfaceSchema.Listing

/-!
# Running a command

A run first decides what is to be done, and only then does it. Whatever can fail before anything is
written fails in the decision: first a filter that is no expression, then types that cannot be
finalized. Doing it can fail in two ways, when the directory of the file cannot be made, and when
the file cannot be written.

Which texts are filter expressions, and which names they keep, is left open.

* `Invocation.decide` gives the action or the error, `Invocation.reported` what is reported on the
  way there;
* `Action.perform` does it in a file tree, and `Invocation.run` is both together.
-/

namespace InterfaceSchema

open Text

/-! ## 1. Errors -/

/-- Why a run fails. -/
inductive RunError where
  /-- The filter is no expression. -/
  | invalidFilter
  /-- The declared types have a defect. -/
  | notFinalized (cause : SchemaError)
  | directoryNotCreated (path : String)
  | fileNotWritten (path : String)
  deriving DecidableEq

namespace RunError

/-- The error in words. -/
def message : RunError → String
  | invalidFilter => "invalid --filter expression"
  | notFinalized _ => "failed to finalize sample schema"
  | directoryNotCreated path => "failed to create " ++ path
  | fileNotWritten path => "failed to write " ++ path

/-- The error that led to it. -/
def cause? : RunError → Option SchemaError
  | notFinalized cause => some cause
  | _ => none

end RunError

/-! ## 2. Decisions -/

/-- What filters mean: the names that an expression keeps, and nothing for a text that is none. -/
abbrev FilterLanguage := String → Option (String → Bool)

/-- What is to be done. -/
inductive Action where
  /-- Show a text beside the output. -/
  | explain (text : String)
  | print (text : String)
  | store (path text : String)

/-- Which names a filter keeps; without one, all. -/
def keptNames (compile : FilterLanguage) (filter : Option String) :
    Except RunError (String → Bool) :=
  match filter with
  | none => .ok fun _ => true
  | some text =>
    match compile text with
    | some keep => .ok keep
    | none => .error .invalidFilter

/-- The types that are listed: those declared, or those of the finished schema. -/
def listedTypes (d : Draft) (declared : Bool) : Except RunError (List TypeDef) :=
  if declared then .ok d.types
  else
    match d.finalize with
    | .ok schema => .ok schema.types
    | .error cause => .error (.notFinalized cause)

/-- The listing that a command asks for. -/
def Command.listing (compile : FilterLanguage) (d : Draft) : Command → Except RunError (List Span)
  | types request =>
    match keptNames compile request.filter with
    | .error e => .error e
    | .ok keep =>
      match listedTypes (if request.reverse then d.reverse else d) request.declared with
      | .error e => .error e
      | .ok listed => .ok (typeListing keep listed)
  | resources _ =>
    match d.finalize with
    | .error cause => .error (.notFinalized cause)
    | .ok schema => .ok (resourceListing schema.resources)

/-- What a command reports while it makes its listing: what finalizing reports, if it comes to
    that. -/
def Command.reported (compile : FilterLanguage) (d : Draft) : Command → List Event
  | types request =>
    match keptNames compile request.filter with
    | .error _ => []
    | .ok _ => if request.declared then [] else (if request.reverse then d.reverse else d).events
  | resources _ => d.events

/-- Writes a listing to where the output goes; a file has no colours. -/
def OutputSettings.deliver (o : OutputSettings) (colours : Bool) (listing : List Span) : Action :=
  match o.out with
  | some path => .store path (renderAll false listing)
  | none => .print (renderAll colours listing)

/-- What is to be done for an invocation. -/
def Invocation.decide (compile : FilterLanguage) (i : Invocation) (d : Draft) (colours : Bool) :
    Except RunError Action :=
  if i.command.output.noOp then
    .ok (.explain ("\n".intercalate i.outline.lines ++ "\n"))
  else
    match i.command.listing compile d with
    | .error e => .error e
    | .ok listing => .ok (i.command.output.deliver colours listing)

/-- What an invocation reports before anything is done for it. -/
def Invocation.reported (compile : FilterLanguage) (i : Invocation) (d : Draft) : List Event :=
  if i.command.output.noOp then [] else i.command.reported compile d

/-! ## 3. Doing it -/

/-- What a run comes to, and what it leaves behind whether or not it fails. -/
structure Outcome where
  result : Except RunError Unit
  stdout : String
  /-- What is shown beside the output, without what is reported there. -/
  shown : String
  /-- What is reported, to whoever looks closely enough. -/
  events : List Event
  files : FileTree

/-- The outcome, with what was reported before. -/
def Outcome.after (reported : List Event) (o : Outcome) : Outcome :=
  { o with events := reported ++ o.events }

/-- Does an action in a file tree. -/
def Action.perform (t : FileTree) : Action → Outcome
  | explain text => ⟨.ok (), "", text, [], t⟩
  | print text => ⟨.ok (), text, "", [], t⟩
  | store path text =>
    let directory := FilePath.parent? path
    match t.createDirectories (directory.getD "") with
    | (t, false) => ⟨.error (.directoryNotCreated (directory.getD "")), "", "", [], t⟩
    | (t, true) =>
      match t.write? path text with
      | some t => ⟨.ok (), "", "", [.stored path], t⟩
      | none => ⟨.error (.fileNotWritten path), "", "", [], t⟩

/-- Decides and does what an invocation asks for. -/
def Invocation.run (compile : FilterLanguage) (i : Invocation) (d : Draft) (colours : Bool)
    (t : FileTree) : Outcome :=
  match i.decide compile d colours with
  | .error e => ⟨.error e, "", "", i.reported compile d, t⟩
  | .ok task => (task.perform t).after (i.reported compile d)

/-! ## 4. Exit codes -/

/-- A request for help is no failure. -/
def UsageError.exitCode : UsageError → Nat
  | helpRequested => 0
  | _ => 2

/-- The exit code of a run. -/
def Outcome.exitCode (o : Outcome) : Nat :=
  match o.result with
  | .ok _ => 0
  | .error _ => 1

end InterfaceSchema
