import LineScript.CommandLine.Arguments
import LineScript.CommandLine.Usage
import LineScript.Files.Basic
import LineScript.Files.Path
import LineScript.Report

/-!
One call of the command: which program is run, what is written, and the exit status. A few errors
are not reported by the command; they leave it.
-/

namespace LineScript.CommandLine

/-- What a finished call leaves behind. -/
structure Result where
  status : Nat
  stdout : String := ""
  stderr : String := ""
  deriving DecidableEq, Repr

/-- An error that leaves the command. -/
inductive Escape where
  | read (failure : ReadFailure) (path : String)
  | load (failure : LoadFailure)
  | mishap (mishap : Mishap)
  deriving DecidableEq, Repr

/-- The message of an error that leaves the command. -/
def Escape.message : Escape → String
  | .read failure path => failure.message path
  | .load failure => failure.message
  | .mishap met => met.message

/-- A program to run and how its faults are reported. -/
structure Job where
  file : String
  source : String
  verbose : Bool
  json : Bool
  deriving DecidableEq, Repr

/-- The answer to arguments that name no program. -/
def noProgram : Result :=
  { status := 1, stderr := "No program file specified! Aborting...\n" }

/-- The answer to a program file that cannot be read. -/
def unread (path : String) (failure : ReadFailure) : Except Escape Result :=
  match failure with
  | .system error =>
    .ok { status := 1, stderr := "Failed to read " ++ path ++ ": " ++ error.message path ++ "\n" }
  | _ => .error (.read failure path)

/-- The answer to a program that cannot be loaded. -/
def unloaded (failure : LoadFailure) : Except Escape Result :=
  match failure with
  | .rejected error => .ok { status := 1, stderr := "LoadError: " ++ error.message ++ "\n" }
  | .oversizedIndex _ => .error (.load failure)

/-- The machine at the start of a job. -/
def Job.machine (job : Job) (inputs : List String) (listing : Listing) : Machine where
  program := .ofListing listing
  console := { inputs }
  verbose := job.verbose

/-- What is reported about a fault. -/
def Job.complaint (job : Job) (machine : Machine) (fault : Fault) : String :=
  let report : Report := { file := job.file, entries := machine.journal.entries.toList }
  report.text fault job.verbose ++ "\n" ++ if job.json then report.json fault ++ "\n" else ""

/-- All that was written, each text on lines of its own. -/
def transcript (outputs : List String) : String :=
  String.join (outputs.map (· ++ "\n"))

/-- What a run leaves behind, unless it is not finished. -/
def Job.conclude (job : Job) (ending : Ending) (machine : Machine) :
    Option (Except Escape Result) :=
  let stdout := transcript machine.console.outputs.toList
  match ending with
  | .done => some (.ok { status := 0, stdout })
  | .stopped (.fault fault) =>
    some (.ok { status := 1, stdout, stderr := job.complaint machine fault })
  | .stopped (.mishap mishap) => some (.error (.mishap mishap))
  | .paused _ => none

/-- Loads and runs a job within a budget of steps. -/
def Job.run (job : Job) (budget : Nat) (inputs : List String) : Option (Except Escape Result) :=
  match Listing.ofSource job.source with
  | .error failure => some (unloaded failure)
  | .ok listing =>
    let (ending, machine) := (job.machine inputs listing).run budget
    job.conclude ending machine

/-- The job that arguments ask for when their program is looked up among some files. -/
def Arguments.job (arguments : Arguments) (files : Files) (program : String) :
    Except ReadFailure Job := do
  let source ← if arguments.source then pure program else files.readText program
  let file := if arguments.source then Path.literal else Path.label files.place program
  return { file, source, verbose := arguments.verbose, json := arguments.json }

/-- A call of the command called `name` with some files and a text to read input from. There is no
answer if the budget of steps does not suffice. -/
def invoke (budget : Nat) (name : String) (texts : List String) (files : Files)
    (stdin : String) : Option (Except Escape Result) :=
  match Request.ofArguments texts with
  | .help => some (.ok { status := 0, stdout := help name })
  | .misuse message => some (.ok { status := 2, stderr := misuse name message })
  | .run arguments =>
    match arguments.program with
    | none => some (.ok noProgram)
    | some program =>
      match arguments.job files program with
      | .error failure => some (unread program failure)
      | .ok job => job.run budget (Text.readableLines stdin)

end LineScript.CommandLine
