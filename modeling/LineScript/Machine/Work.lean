import LineScript.Machine.State

/-!
Work on a machine, in small acts that follow one another. Work that goes wrong stops there, and what
it has done by then stays done.
-/

namespace LineScript

abbrev Work := ExceptT Trouble (StateM Machine)

namespace Work

variable {α : Type}

/-- The result of work on a machine, and the machine that it leaves. -/
def on (work : Work α) (machine : Machine) : Except Trouble α × Machine :=
  work.run.run machine

def raise (cause : Fault.Cause) : Work α :=
  throw (.ofCause cause)

/-- A result that a mishap may stand in for. -/
def unlessMishap (result : Except Mishap α) : Work α :=
  match result with
  | .ok value => pure value
  | .error mishap => throw (.mishap mishap)

def program : Work Program :=
  return (← get).program

def setProgram (program : Program) : Work Unit :=
  modify fun machine => { machine with program }

def setVar (name value : String) : Work Unit := do
  setProgram ((← program).set name value)

/-- Binds a name to the value of another name. -/
def copy (target source : String) : Work Unit := do
  setProgram (← unlessMishap ((← program).copy target source))

def push (value : String) : Work Unit := do
  setProgram ((← program).push value)

/-- Takes the top of the stack, if there is one. -/
def pop : Work (Option String) := do
  match (← program).pop? with
  | some (value, rest) =>
    setProgram rest
    return some value
  | none => return none

def advance : Work Unit := do
  setProgram (← program).advance

def jump (target : Nat) : Work Unit := do
  setProgram ((← program).jump target)

/-- Calls the console for a line. -/
def readLine : Work String := do
  match (← get).console.read with
  | (.ok line, console) =>
    modify fun machine => { machine with console }
    return line
  | (.error disruption, console) =>
    modify fun machine => { machine with console }
    throw disruption.whileReading

/-- Calls the console with a text. -/
def writeText (text : String) : Work Unit := do
  match (← get).console.write text with
  | (.ok (), console) => modify fun machine => { machine with console }
  | (.error disruption, console) =>
    modify fun machine => { machine with console }
    throw disruption.whileWriting

/-- Adds to what was said. -/
def note (event : Event) : Work Unit :=
  modify fun machine => { machine with events := machine.events.push event }

/-- The current instruction, none at the end of the code. -/
def instruction? : Work (Option String) := do
  unlessMishap (← program).current

/-- The current instruction without the white space around it. -/
def instruction : Work String := do
  match ← instruction? with
  | some text => return Text.trim text
  | none => raise .pastEnd

/-- The value of a variable, which must exist. -/
def require (name : String) : Work String := do
  match (← program).vars.get? name with
  | some value => return value
  | none => raise (.missingVariable name)

/-- The value of a variable as an integer. -/
def operand (name : String) : Work Int := do
  let value ← require name
  match Value.read value with
  | .number number => return number
  | .notNumeric => raise (.notNumeric name value)
  | .unreadable => throw (.mishap (.unreadable value))

/-- Goes to a line that is written in digits and must exist. -/
def goTo (line : String) : Work Unit := do
  let target := Text.numeral line.toList
  if target < (← program).code.length then jump target
  else raise .outOfBounds

end Work

end LineScript
