/-!
The phases of the machine. Every instruction begins in the phase that looks at its leading word;
that word names the phase which carries the instruction out.
-/

namespace LineScript

inductive Phase where
  | execute
  | assign
  | goto
  | branch
  | output
  | arithmetic
  | finish
  deriving DecidableEq, Repr

namespace Phase

def name : Phase → String
  | .execute => "EXECUTE"
  | .assign => "ASSIGN"
  | .goto => "GOTO"
  | .branch => "IF"
  | .output => "OUTPUT"
  | .arithmetic => "MATH"
  | .finish => "END"

def all : List Phase := [.execute, .assign, .goto, .branch, .output, .arithmetic, .finish]

def ofName? (text : String) : Option Phase :=
  all.find? fun phase => phase.name = text

/-- The leading words of instructions. -/
def keywords : List (String × Phase) := [
  ("let", .assign), ("if", .branch), ("goto", .goto), ("quit", .finish), ("output", .output)]

theorem ofName?_name (phase : Phase) : ofName? phase.name = some phase := by
  cases phase <;> decide

end Phase

end LineScript
