import InterfaceSchema.CommandLine.Run
import InterfaceSchema.Pattern.Parser
import InterfaceSchema.Sample

/-!
# The program

Reads the command line, and prints the sample schema's types or resources, or writes them to a file.
Filters are patterns.
-/

namespace InterfaceSchema.Main

/-- Shows what is reported to everybody, and with `verbose` what takes a closer look. -/
def report (verbose : Bool) (event : Event) : IO Unit := do
  let fields := event.fields.map fun field => " " ++ field.1 ++ "=" ++ field.2
  match event.level with
  | .info => IO.eprintln ("INFO " ++ event.message ++ String.join fields)
  | .debug => if verbose then IO.eprintln ("DEBUG " ++ event.message ++ String.join fields)
  | .trace => pure ()

/-- Does an action with the files of the machine. -/
def perform (verbose : Bool) : Action → IO UInt32
  | .explain text => do
    IO.eprint text
    return 0
  | .print text => do
    IO.print text
    return 0
  | .store path text => do
    let directory := (FilePath.parent? path).getD ""
    try
      if directory != "" then IO.FS.createDirAll directory
    catch _ =>
      IO.eprintln ("Error: " ++ (RunError.directoryNotCreated directory).message)
      return 1
    try
      IO.FS.writeFile path text
      report verbose (.stored path)
      return 0
    catch _ =>
      IO.eprintln ("Error: " ++ (RunError.fileNotWritten path).message)
      return 1

/-- Colours are used on a terminal, or where they are asked for. -/
def wantsColours : IO Bool := do
  match ← IO.getEnv "CLICOLOR_FORCE" with
  | some value => if value != "0" then return true
  | none => pure ()
  if (← IO.getEnv "NO_COLOR").isSome then return false
  return (← IO.getEnv "CLICOLOR") != some "0" && (← (← IO.getStdout).isTty)

/-- What is said when a command line cannot be read. -/
def usage : String :=
  "Usage: [-v] types [--filter <FILTER>] [--reverse] [--declared] [-o <OUT>] [--no-op]\n" ++
  "       [-v] resources [-o <OUT>] [--no-op]"

/-- Reads the arguments and does what they ask for; the answer is the exit code. -/
def run (arguments : List String) : IO UInt32 := do
  match Invocation.parse arguments with
  | .error e =>
    if e = .helpRequested then IO.println usage else IO.eprintln usage
    return e.exitCode.toUInt32
  | .ok invocation =>
    (invocation.reported Pattern.compile? Sample.draft).forM (report invocation.verbose)
    match invocation.decide Pattern.compile? Sample.draft (← wantsColours) with
    | .ok task => perform invocation.verbose task
    | .error e =>
      IO.eprintln ("Error: " ++ e.message)
      if let some cause := e.cause? then IO.eprintln ("Caused by: " ++ cause.message)
      return 1

end InterfaceSchema.Main

def main (arguments : List String) : IO UInt32 :=
  InterfaceSchema.Main.run arguments
