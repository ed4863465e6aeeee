import LineScript.Arithmetic
import LineScript.Machine.Work
import LineScript.Statement.Parser

/-!
What each phase does. A phase that carries out an instruction reads it anew and ends with the phase
that comes next.
-/

namespace LineScript.Work

/-- Names the phase for the current instruction's leading word. -/
def execute : Work (Option Phase) := do
  match ← instruction? with
  | none => return some .finish
  | some text =>
    let word := Statement.leadingWord (Text.trimChars text.toList)
    match Phase.keywords.lookup (String.ofList word) with
    | some phase => return some phase
    | none => raise (.unknownInstruction text)

/-- Assigns, unless the value must be computed. -/
def assign : Work (Option Phase) := do
  let text ← instruction
  match Statement.parse? text.toList with
  | some (.assign target (.literal literal)) =>
    setVar target literal.value
    advance
    return some .execute
  | some (.assign target .stack) =>
    match ← pop with
    | some value =>
      setVar target value
      advance
      return some .execute
    | none => raise .emptyStack
  | some (.assign _ (.arithmetic ..)) => return some .arithmetic
  | some (.assign target .input) =>
    let line ← readLine
    note (.input line)
    setVar target line
    advance
    return some .execute
  | some (.assign target (.copy source)) =>
    let _ ← require source
    copy target source
    advance
    return some .execute
  | _ => raise (.invalidAssign text)

/-- Binds the result of an operation. A division binds the quotient and pushes the remainder. -/
def compute (target : String) (operator : Operator) (left right : Int) : Work Unit :=
  match operator with
  | .add => setVar target (Text.decimal (left + right))
  | .subtract => setVar target (Text.decimal (left - right))
  | .multiply => setVar target (Text.decimal (left * right))
  | .divide =>
    match Arithmetic.divide? left right with
    | some division => do
      setVar target (Text.decimal division.quotient)
      push (Text.decimal division.remainder)
    | none => raise .divisionByZero

/-- The left operand is looked at first. -/
def arithmetic : Work (Option Phase) := do
  let text ← instruction
  match Statement.parse? text.toList with
  | some (.assign target (.arithmetic left operator right)) =>
    let leftValue ← operand left
    let rightValue ← operand right
    compute target operator leftValue rightValue
    advance
    return some .execute
  | _ => raise (.invalidArithmetic text)

def goto : Work (Option Phase) := do
  let text ← instruction
  match Statement.parse? text.toList with
  | some (.jump line) =>
    goTo line
    return some .execute
  | _ => raise (.invalidGoto text)

/-- The line of a branch matters only when the branch is taken. -/
def branch : Work (Option Phase) := do
  let text ← instruction
  match Statement.parse? text.toList with
  | some (.branch left comparison right line) =>
    let leftValue ← require left
    let rightValue ← require right
    if comparison.holds leftValue rightValue then goTo line else advance
    return some .execute
  | _ => raise (.invalidBranch text)

def output : Work (Option Phase) := do
  let text ← instruction
  match Statement.parse? text.toList with
  | some (.output name) =>
    let value ← require name
    writeText value
    note (.output value)
    advance
    return some .execute
  | _ => raise (.invalidOutput text)

def finish : Work (Option Phase) :=
  return none

end LineScript.Work

namespace LineScript

/-- The work of a phase. -/
def Phase.work : Phase → Work (Option Phase)
  | .execute => .execute
  | .assign => .assign
  | .goto => .goto
  | .branch => .branch
  | .output => .output
  | .arithmetic => .arithmetic
  | .finish => .finish

end LineScript
