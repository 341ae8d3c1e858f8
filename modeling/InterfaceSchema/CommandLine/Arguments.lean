/-!
# The command line

A command line has switches, one command, and the command's own switches. Some switches are flags,
others take a value, which is attached to the switch or is the next argument.

* `Invocation.parse` reads a command line, or says what is wrong with it;
* `ArgumentReader.step` reads one argument of a scope: the switches that are known where it stands.

A value is only checked when the next switch comes or the arguments end; an argument that is not
known in between is reported first.
-/

namespace InterfaceSchema

/-! ## 1. What can be asked for -/

/-- Where the output goes, and whether there is any. -/
structure OutputSettings where
  /-- The file to write, instead of standard output. -/
  out : Option String
  /-- Only show what was asked for. -/
  noOp : Bool
  deriving DecidableEq

/-- What is asked of the list of types. -/
structure TypesRequest where
  output : OutputSettings
  /-- A pattern for the names of the types to list. -/
  filter : Option String
  /-- Declare the types in the opposite order. -/
  reverse : Bool
  /-- List the types in the order of declaration. -/
  declared : Bool
  deriving DecidableEq

/-- What to list. -/
inductive Command where
  | types (request : TypesRequest)
  | resources (output : OutputSettings)
  deriving DecidableEq

/-- All that a command line asks for. -/
structure Invocation where
  verbose : Bool
  command : Command
  deriving DecidableEq

/-- Each command says where its output goes. -/
def Command.output : Command → OutputSettings
  | types request => request.output
  | resources output => output

/-- What can be wrong with a command line. To ask for help is counted among it, for no command is
    run. -/
inductive UsageError where
  /-- A switch came twice in its scope. -/
  | givenTwice
  | helpRequested
  /-- There is neither a switch nor a command. -/
  | nothingGiven
  | unknownCommand
  /-- A value is missing, or is empty where it must not be. -/
  | badValue
  /-- There are switches, but no command. -/
  | commandMissing
  /-- A flag came with a value. -/
  | surplusValue
  | unknownArgument
  deriving DecidableEq

/-! ## 2. Switches -/

/-- The arguments that begin with a minus. -/
inductive Switch where
  | help
  | verbose
  | out
  | noOp
  | filter
  | reverse
  | declared
  deriving DecidableEq

namespace Switch

/-- The name after two minus signs. -/
def long : Switch → String
  | help => "help"
  | verbose => "verbose"
  | out => "out"
  | noOp => "no-op"
  | filter => "filter"
  | reverse => "reverse"
  | declared => "declared"

/-- The letter after one minus sign. -/
def short? : Switch → Option Char
  | help => some 'h'
  | verbose => some 'v'
  | out => some 'o'
  | _ => none

/-- A switch that takes no value is a flag. -/
def takesValue : Switch → Bool
  | out | filter => true
  | _ => false

/-- A file has a name; a pattern may be empty. -/
def accepts : Switch → String → Bool
  | out, value => value != ""
  | _, _ => true

end Switch

/-- Where an argument stands: before the command, or after it. -/
inductive Scope where
  | main
  | types
  | resources
  deriving DecidableEq

namespace Scope

/-- The switches that are known in the scope. -/
def switches : Scope → List Switch
  | main => [.help, .verbose]
  | types => [.help, .verbose, .out, .noOp, .filter, .reverse, .declared]
  | resources => [.help, .verbose, .out, .noOp]

/-- The error of an argument that is not a switch and not a value. -/
def strayError : Scope → UsageError
  | main => .unknownCommand
  | types | resources => .unknownArgument

end Scope

/-! ## 3. Reading the arguments of a scope -/

/-- What has been read of the arguments of a scope. -/
structure ArgumentReader where
  scope : Scope
  /-- The switches given, with their values; a flag has the empty value. -/
  given : List (Switch × String)
  /-- A switch whose value has not been checked, and the value, once it has come. -/
  pending : Option (Switch × Option String)
  /-- Has the mark come after which nothing is a switch? -/
  onlyValues : Bool

namespace ArgumentReader

/-- Before the first argument. -/
def start (scope : Scope) : ArgumentReader := ⟨scope, [], none, false⟩

/-- Takes a switch with its value. -/
def give (r : ArgumentReader) (switch : Switch) (value : String) :
    Except UsageError ArgumentReader :=
  if switch ∈ r.given.map (·.1) then .error .givenTwice
  else if switch.accepts value then .ok { r with given := r.given ++ [(switch, value)] }
  else .error .badValue

/-- Checks the value that is pending. -/
def settle (r : ArgumentReader) : Except UsageError ArgumentReader :=
  match r.pending with
  | none => .ok r
  | some (_, none) => .error .badValue
  | some (switch, some value) => { r with pending := none }.give switch value

/-- Takes a switch that has no value with it. -/
def bare (r : ArgumentReader) (switch : Switch) : Except UsageError ArgumentReader :=
  match r.settle with
  | .error e => .error e
  | .ok r =>
    if switch.takesValue then .ok { r with pending := some (switch, none) }
    else if switch = .help then .error .helpRequested
    else r.give switch ""

/-- Takes a switch with a value attached to it. -/
def attached (r : ArgumentReader) (switch : Switch) (value : String) :
    Except UsageError ArgumentReader :=
  match r.settle with
  | .error e => .error e
  | .ok r => r.give switch value

/-- Reads a long switch: its name, and a value after an equals sign. -/
def longSwitch (r : ArgumentReader) (cs : List Char) : Except UsageError ArgumentReader :=
  let name := String.ofList (cs.takeWhile (· != '='))
  match r.scope.switches.find? (·.long == name), cs.dropWhile (· != '=') with
  | none, _ => .error .unknownArgument
  | some switch, [] => r.bare switch
  | some switch, _ :: value =>
    if switch.takesValue then r.attached switch (String.ofList value) else .error .surplusValue

/-- Reads short switches, one after the other; after one that takes a value, the rest is the value,
    with or without an equals sign before it. -/
def shortSwitches (r : ArgumentReader) : List Char → Except UsageError ArgumentReader
  | [] => .ok r
  | c :: rest =>
    match r.scope.switches.find? (·.short? == some c) with
    | none => .error .unknownArgument
    | some switch =>
      if switch.takesValue then
        match rest with
        | [] => r.bare switch
        | '=' :: value => r.attached switch (String.ofList value)
        | value => r.attached switch (String.ofList value)
      else
        match r.bare switch with
        | .error e => .error e
        | .ok r => r.shortSwitches rest

/-- Reads an argument that is not a switch: the value that a switch waits for. -/
def value (r : ArgumentReader) (argument : String) : Except UsageError ArgumentReader :=
  match r.pending with
  | some (switch, none) => .ok { r with pending := some (switch, some argument) }
  | _ => .error r.scope.strayError

/-- Reads one argument. -/
def step (r : ArgumentReader) (argument : String) : Except UsageError ArgumentReader :=
  if r.onlyValues then .error r.scope.strayError
  else
    match argument.toList with
    | ['-', '-'] => .ok { r with onlyValues := true }
    | '-' :: '-' :: cs => r.longSwitch cs
    | '-' :: c :: cs => r.shortSwitches (c :: cs)
    | _ => r.value argument

/-- Has the switch been given? -/
def has (r : ArgumentReader) (switch : Switch) : Bool :=
  (r.given.map (·.1)).contains switch

/-- The value that the switch has been given. -/
def value? (r : ArgumentReader) (switch : Switch) : Option String :=
  (r.given.find? fun g => g.1 == switch).map (·.2)

/-- The settings that every command has. -/
def outputSettings (r : ArgumentReader) : OutputSettings :=
  { out := r.value? .out, noOp := r.has .noOp }

/-- Reads all arguments of a scope. -/
def all (scope : Scope) (arguments : List String) : Except UsageError ArgumentReader :=
  match arguments.foldlM step (start scope) with
  | .error e => .error e
  | .ok r => r.settle

end ArgumentReader

/-! ## 4. Command lines -/

/-- The names of the commands. The first asks for help. -/
def commandNames : List String := ["help", "types", "resources"]

/-- The error of a call for help: only the commands themselves have any. -/
def helpError : List String → UsageError
  | [] => .helpRequested
  | [name] => if name ∈ commandNames then .helpRequested else .unknownCommand
  | _ :: _ :: _ => .unknownCommand

namespace Invocation

/-- Reads the command's own arguments. The flag that is known everywhere may stand before or after
    the command. -/
def ofCommand (verbose : Bool) (name : String) (arguments : List String) :
    Except UsageError Invocation :=
  if name = "types" then
    (ArgumentReader.all .types arguments).map fun r =>
      { verbose := verbose || r.has .verbose
        command := .types
          { output := r.outputSettings, filter := r.value? .filter, reverse := r.has .reverse,
            declared := r.has .declared } }
  else if name = "resources" then
    (ArgumentReader.all .resources arguments).map fun r =>
      { verbose := verbose || r.has .verbose, command := .resources r.outputSettings }
  else .error (helpError arguments)

/-- Reads the arguments before the command, and the command. -/
def parseFrom (r : ArgumentReader) : List String → Except UsageError Invocation
  | [] => .error (if r.given.isEmpty then .nothingGiven else .commandMissing)
  | argument :: rest =>
    if argument ∈ commandNames then
      if r.onlyValues then .error .unknownArgument
      else ofCommand (r.has .verbose) argument rest
    else
      match r.step argument with
      | .error e => .error e
      | .ok r => parseFrom r rest

/-- Reads a command line. -/
def parse (arguments : List String) : Except UsageError Invocation :=
  parseFrom (.start .main) arguments

end Invocation

end InterfaceSchema
