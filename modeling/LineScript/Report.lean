import LineScript.Json.Printer
import LineScript.Machine.Basic

/-!
Reports of a fault: the last steps before it and the fault itself, as lines of text or as JSON. Both
list the same entries of the journal, the seed left out. An integer of too many digits leaves a
report without a text.
-/

namespace LineScript

structure Report where
  file : String
  entries : List Journal.Entry
  /-- How many entries are shown at most; none if it is not positive. -/
  depth : Int := 3

namespace Report

/-- The name of the kind of error that a report is about. -/
def errorName : String := "SegRuntimeError"

/-- The entries that are shown. -/
def recent (report : Report) : List Journal.Entry :=
  let steps := report.entries.filter fun entry => entry.rule ≠ Journal.seedRule
  steps.drop (steps.length - report.depth.toNat)

def placeLine (file : String) (entry : Journal.Entry) : String :=
  match entry.ip with
  | some ip => "  File \"" ++ file ++ "\", instruction " ++ Text.decimal ip ++ ", in " ++ entry.rule
  | none => "  <unknown location> in " ++ entry.rule

/-- An instruction without any characters has no line. -/
def instructionLines (entry : Journal.Entry) : List String :=
  match entry.instruction with
  | some text => if text.isEmpty then [] else ["    " ++ text]
  | none => []

def indexLine (entry : Journal.Entry) : String :=
  "    State log index: " ++ Text.decimal entry.step ++ "  State id: " ++ entry.id

def snapshotLine (snapshot : Snapshot) : String :=
  let vars := snapshot.vars.toList.map fun (name, value) => name ++ "=" ++ value
  "    Env snapshot: " ++ String.intercalate ", " vars ++ "  stack=" ++ Text.quotedList snapshot.stack

/-- The lines about one entry; `verbose` adds its snapshot. -/
def entryLines (file : String) (verbose : Bool) (entry : Journal.Entry) : List String :=
  placeLine file entry :: instructionLines entry ++ indexLine entry ::
    (if verbose then entry.snapshot.toList.map snapshotLine else [])

/-- The phase that a fault arose in, as the last line names it. -/
def phaseName (fault : Fault) : String :=
  match fault.phase with
  | some name => if name.isEmpty then "runtime" else name
  | none => "runtime"

def faultLine (fault : Fault) : String :=
  errorName ++ ": " ++ fault.message ++ " (state: " ++ phaseName fault ++ ")"

/-- The report as text. -/
def text (report : Report) (fault : Fault) (verbose : Bool) : String :=
  String.intercalate "\n" <|
    "Traceback (most recent step last):" ::
      report.recent.flatMap (entryLines report.file verbose) ++ [faultLine fault]

/-- The integers that the text shows. -/
def textIntegers (report : Report) : List Int :=
  report.recent.flatMap fun entry => entry.ip.toList ++ [entry.step]

/-- The report as text, within the limit on digits. -/
def text? (report : Report) (fault : Fault) (verbose : Bool) : Except Text.DigitFailure String :=
  Text.withIntegers report.textIntegers (report.text fault verbose)

def snapshotJson (snapshot : Snapshot) : Json :=
  .object [
    ("ip", .number snapshot.ip),
    ("vars", .object (snapshot.vars.toList.map fun (name, value) => (name, .text value))),
    ("stack", .list (snapshot.stack.map .text))]

def entryJson (entry : Journal.Entry) : Json :=
  .object <| [
    ("step_index", .number entry.step),
    ("state_id", .text entry.id),
    ("rule", .text entry.rule),
    ("ip", .ofNumber? entry.ip),
    ("instruction", .ofText? entry.instruction)] ++
    entry.snapshot.toList.map fun snapshot => ("env_snapshot", snapshotJson snapshot)

def faultJson (fault : Fault) : Json :=
  .object [
    ("type", .text errorName),
    ("message", .text fault.message),
    ("state", .ofText? fault.phase),
    ("ip", .ofNumber? fault.ip),
    ("instruction", .ofText? fault.instruction),
    ("failing_step_index", .ofNumber? fault.step)]

/-- The report as a JSON value. -/
def toJson (report : Report) (fault : Fault) : Json :=
  .object [
    ("error", faultJson fault),
    ("file", .text report.file),
    ("traceback", .list (report.recent.map entryJson))]

/-- The report as JSON text. -/
def json (report : Report) (fault : Fault) : String :=
  (report.toJson fault).render

/-- The report as JSON text, within the limit on digits. -/
def json? (report : Report) (fault : Fault) : Except Text.DigitFailure String :=
  (report.toJson fault).render?

end Report

end LineScript
