import LineScript.Machine.Phase
import LineScript.Mishap

/-!
Faults end a run. A fault has a cause, and a step of the machine adds where it arose.
-/

namespace LineScript

/-- Why a run ends early. -/
inductive Fault.Cause where
  | noHandler (phase : Phase)
  | pastEnd
  | unknownInstruction (text : String)
  | invalidAssign (text : String)
  | invalidArithmetic (text : String)
  | invalidGoto (text : String)
  | invalidBranch (text : String)
  | invalidOutput (text : String)
  | missingVariable (name : String)
  | notNumeric (name value : String)
  | divisionByZero
  | emptyStack
  | inputClosed
  | outOfBounds
  | mishap (mishap : Mishap)
  /-- A fault that the console brings up by itself. -/
  | reported (message : String)
  deriving DecidableEq, Repr

def Fault.Cause.message : Fault.Cause → String
  | .noHandler phase => "No handler for state " ++ phase.name
  | .pastEnd => "Instruction pointer is past the end of the program"
  | .unknownInstruction text => "Unknown instruction: `" ++ text ++ "`"
  | .invalidAssign text => "Invalid assign instruction: `" ++ text ++ "`"
  | .invalidArithmetic text => "Invalid arithmetic instruction: `" ++ text ++ "`"
  | .invalidGoto text => "Invalid goto instruction: `" ++ text ++ "`"
  | .invalidBranch text => "Invalid if instruction: `" ++ text ++ "`"
  | .invalidOutput text => "Invalid output instruction: `" ++ text ++ "`"
  | .missingVariable name => "Variable $" ++ name ++ " does not exist"
  | .notNumeric name value => "Variable $" ++ name ++ " is not numeric: '" ++ value ++ "'"
  | .divisionByZero => "Division by zero"
  | .emptyStack => "Stack is empty"
  | .inputClosed => "Input stream closed"
  | .outOfBounds => "Goto statement points to region out of bounds"
  | .mishap met => "Internal interpreter error: " ++ met.message
  | .reported message => message

/-- A fault and what is known of its place: the phase by name, the position, the instruction and
the number of the step. -/
structure Fault where
  cause : Fault.Cause
  phase : Option String := none
  ip : Option Int := none
  instruction : Option String := none
  step : Option Int := none
  deriving DecidableEq, Repr

namespace Fault

def message (fault : Fault) : String :=
  fault.cause.message

/-- Fills in the parts of a place that are not known yet. -/
def locate (fault : Fault) (phase : Phase) (ip : Int) (instruction : Option String)
    (step : Option Int) : Fault where
  cause := fault.cause
  phase := fault.phase <|> some phase.name
  ip := fault.ip <|> some ip
  instruction := fault.instruction <|> instruction
  step := fault.step <|> step

end Fault

/-- What may go wrong in a phase. -/
inductive Trouble where
  | fault (fault : Fault)
  | mishap (mishap : Mishap)
  deriving DecidableEq, Repr

/-- A mishap seen as a fault. -/
def Trouble.toFault : Trouble → Fault
  | .fault found => found
  | .mishap met => { cause := .mishap met }

def Trouble.ofCause (cause : Fault.Cause) : Trouble :=
  .fault { cause }

/-- Ends a plan with a fault whose place is not known yet. -/
def Trouble.raise {α : Type} (cause : Fault.Cause) : Except Trouble α :=
  .error (.ofCause cause)

end LineScript
