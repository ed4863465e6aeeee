import LineScript.CommandLine.Invocation

/-!
The command itself. Input is read a line at a time, when the program asks for it, and output appears
as it is written.
-/

namespace LineScript.CommandLine

/-- The name of the command. -/
def commandName : String := "seglang"

/-- Whether a phase is about to read a line that the console does not hold yet. -/
def wantsLine (machine : Machine) (phase : Phase) : Bool :=
  match phase, machine.console.inputs, machine.program.current with
  | .assign, [], .ok (some text) =>
    match Statement.parse? (Text.trimChars text.toList) with
    | some (.assign _ .input) => true
    | _ => false
  | _, _, _ => false

/-- Puts the next line of the standard input on the console, if there is one. -/
def fetchLine (machine : Machine) : IO Machine := do
  let line ← (← IO.getStdin).getLine
  return { machine with console.inputs := Text.readableLines line }

/-- Writes what a machine has said since it had written so many texts. -/
def showSince (written : Nat) (machine : Machine) : IO Unit := do
  let fresh := machine.console.outputs.toList.drop written
  unless fresh.isEmpty do
    let stdout ← IO.getStdout
    stdout.putStr (transcript fresh)
    stdout.flush

/-- Runs a machine from a phase to the end. -/
partial def drive (phase : Phase) (machine : Machine) : IO (Ending × Machine) := do
  let machine ← if wantsLine machine phase then fetchLine machine else pure machine
  let (ending, after) := machine.runFrom phase 1
  showSince machine.console.outputs.size after
  match ending with
  | .paused next => drive next after
  | other => return (other, after)

/-- A failure of the system with a number, which some systems give below zero. -/
def fileErrorOfNumber (number : UInt32) (text : String) : FileError :=
  match (min number (0 - number)).toNat with
  | 2 => .notFound
  | 20 => .notDirectory
  | 21 => .isDirectory
  | 36 => .nameTooLong
  | other => .other other text

def fileErrorOf (error : IO.Error) : FileError :=
  match error with
  | .noFileOrDirectory _ number text => fileErrorOfNumber number text
  | .permissionDenied _ number text => fileErrorOfNumber number text
  | .inappropriateType _ number text => fileErrorOfNumber number text
  | .invalidArgument _ number text => fileErrorOfNumber number text
  | .otherError number text => fileErrorOfNumber number text
  | other => .other 0 (toString other)

/-- The text of a file. -/
def readFile (path : String) : IO (Except ReadFailure String) := do
  if path.toList.contains '\x00' then return .error .nullInPath
  try
    let bytes ← IO.FS.readBinFile path
    return ReadFailure.textOf bytes.toList
  catch error => return .error (.system (fileErrorOf error))

/-- Writes what is left to be said and gives the exit status. -/
def finish (answer : Except Escape Result) : IO UInt32 := do
  match answer with
  | .ok result =>
    IO.print result.stdout
    IO.eprint result.stderr
    return result.status.toUInt32
  | .error escape =>
    IO.eprintln escape.message
    return 1

def runJob (job : Job) : IO UInt32 := do
  match Listing.ofSource job.source with
  | .error failure => finish (unloaded failure)
  | .ok listing =>
    let (ending, machine) ← drive .execute (job.machine [] listing)
    match job.conclude ending machine with
    | some (.ok result) => finish (.ok { result with stdout := "" })
    | some answer => finish answer
    | none => return 1

def runProgram (arguments : Arguments) (program : String) : IO UInt32 := do
  let place := (← IO.currentDir).toString
  let text ← if arguments.source then pure (.ok program) else readFile program
  match text with
  | .error failure => finish (unread program failure)
  | .ok source =>
    let file := if arguments.source then Path.literal else Path.label place program
    runJob { file, source, verbose := arguments.verbose, json := arguments.json }

def call (texts : List String) : IO UInt32 := do
  match Request.ofArguments texts with
  | .help => finish (.ok { status := 0, stdout := help commandName })
  | .misuse message => finish (.ok { status := 2, stderr := misuse commandName message })
  | .run arguments =>
    match arguments.program with
    | none => finish (.ok noProgram)
    | some program => runProgram arguments program

end LineScript.CommandLine

def main (texts : List String) : IO UInt32 :=
  LineScript.CommandLine.call texts
