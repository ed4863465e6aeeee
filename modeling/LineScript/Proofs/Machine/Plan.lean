import LineScript.Machine.Handlers
import LineScript.Proofs.Results

/-!
Plans: what a phase wants done, told by the program alone. A plan names the program that follows, or
a line to read, or a text to write, and whatever is at fault with the instruction shows before any
of these is done.
-/

namespace LineScript

inductive Action where
  /-- Go on with a program in another phase, or end the run. -/
  | proceed (program : Program) (next : Option Phase)
  /-- Bind a line of input to a variable and go on with the next instruction. -/
  | read (target : String)
  /-- Write a text and go on with the next instruction. -/
  | write (text : String)
  deriving DecidableEq, Repr

/-- Go on with the next instruction of a program. -/
def Action.resume (program : Program) : Action :=
  .proceed program (some .execute)

abbrev Plan := Except Trouble Action

namespace Program

/-- A position that is not too far before the code has an instruction or is at its end. -/
theorem current_of_inside {program : Program} (inside : -(program.code.length : Int) ≤ program.ip) :
    ∃ instruction, program.current = .ok instruction := by
  rw [current]
  split
  · exact ⟨none, rfl⟩
  · split
    · exact ⟨_, rfl⟩
    · exact ⟨_, rfl⟩

theorem current_eq_none_iff {program : Program} {instruction : Option String}
    (found : program.current = .ok instruction) :
    instruction = none ↔ (program.code.length : Int) ≤ program.ip := by
  constructor
  · rintro rfl
    simp only [current] at found
    refine Decidable.byContradiction fun within => ?_
    rw [if_neg within] at found
    split at found
    · simp only [Except.ok.injEq, List.getElem?_eq_none_iff] at found
      omega
    · split at found
      · simp only [Except.ok.injEq, List.getElem?_eq_none_iff] at found
        omega
      · split at found <;> cases found
  · intro past
    rw [current, if_pos past] at found
    exact (Except.ok.inj found).symm

/-- A position too far before the code is no index of it. -/
theorem current_of_outside {program : Program}
    (outside : program.ip < -(program.code.length : Int)) :
    ∃ mishap, (mishap = .indexOutOfRange program.ip program.code.length ∨ mishap = .notAnIndex) ∧
      program.current = .error mishap := by
  have past : ¬ (program.code.length : Int) ≤ program.ip := by omega
  have first : ¬ 0 ≤ program.ip := by omega
  rw [current, if_neg past, if_neg first, if_neg (by omega)]
  split
  · exact ⟨_, .inl rfl, rfl⟩
  · exact ⟨_, .inr rfl, rfl⟩

/-- The current instruction without the white space around it. -/
def trimmedInstruction (program : Program) : Except Trouble String :=
  match program.current with
  | .ok (some text) => .ok (Text.trim text)
  | .ok none => Trouble.raise .pastEnd
  | .error mishap => .error (.mishap mishap)

def require (program : Program) (name : String) : Except Trouble String :=
  match program.vars.get? name with
  | some value => .ok value
  | none => Trouble.raise (.missingVariable name)

/-- The value of a variable as an integer. -/
def operand (program : Program) (name : String) : Except Trouble Int := do
  let value ← program.require name
  match Value.read value with
  | .number number => return number
  | .notNumeric => Trouble.raise (.notNumeric name value)
  | .unreadable => throw (.mishap (.unreadable value))

/-- The program at a line that is written in digits. -/
def goTo (program : Program) (line : String) : Except Trouble Program :=
  let target := Text.numeral line.toList
  if target < program.code.length then .ok (program.jump target)
  else Trouble.raise .outOfBounds

/-- The program after an operation. A division binds the quotient and pushes the remainder. -/
def compute (program : Program) (target : String) (operator : Operator) (left right : Int) :
    Except Trouble Program :=
  match operator with
  | .add => .ok (program.set target (Text.decimal (left + right)))
  | .subtract => .ok (program.set target (Text.decimal (left - right)))
  | .multiply => .ok (program.set target (Text.decimal (left * right)))
  | .divide =>
    match Arithmetic.divide? left right with
    | some division =>
      .ok ((program.set target (Text.decimal division.quotient)).push
        (Text.decimal division.remainder))
    | none => Trouble.raise .divisionByZero

end Program

namespace Statement

/-- The phase that the keyword of a statement names. -/
def opening : Statement → Phase
  | .assign .. => .assign
  | .jump _ => .goto
  | .branch .. => .branch
  | .output _ => .output

/-- The phase that carries a statement out. -/
def carrier : Statement → Phase
  | .assign _ (.arithmetic ..) => .arithmetic
  | statement => statement.opening

/-- What a statement wants done with a program. -/
def plan (program : Program) : Statement → Plan
  | .assign target (.literal literal) => .ok (.resume (program.set target literal.value).advance)
  | .assign target .stack =>
    match program.pop? with
    | some (value, rest) => .ok (.resume (rest.set target value).advance)
    | none => Trouble.raise .emptyStack
  | .assign target .input => .ok (.read target)
  | .assign target (.copy source) => do
    let value ← program.require source
    return .resume (program.set target value).advance
  | .assign target (.arithmetic left operator right) => do
    let leftValue ← program.operand left
    let rightValue ← program.operand right
    return .resume (← program.compute target operator leftValue rightValue).advance
  | .jump line => do
    return .resume (← program.goTo line)
  | .branch left comparison right line => do
    let leftValue ← program.require left
    let rightValue ← program.require right
    if comparison.holds leftValue rightValue then return .resume (← program.goTo line)
    else return .resume program.advance
  | .output name => do
    return .write (← program.require name)

end Statement

namespace Phase

/-- What a phase finds wrong with an instruction that is not its own. -/
def invalid : Phase → String → Fault.Cause
  | .assign, text => .invalidAssign text
  | .arithmetic, text => .invalidArithmetic text
  | .goto, text => .invalidGoto text
  | .branch, text => .invalidBranch text
  | .output, text => .invalidOutput text
  | _, text => .unknownInstruction text

/-- The phase that an instruction's leading word names. -/
def named? (text : String) : Option Phase :=
  keywords.lookup (String.ofList (Statement.leadingWord (Text.trimChars text.toList)))

/-- A phase carries out its own statements and hands on the ones that only its keyword names. -/
def planFor (phase : Phase) (program : Program) (text : String) : Plan :=
  match Statement.parse? text.toList with
  | some statement =>
    if statement.carrier = phase then statement.plan program
    else if statement.opening = phase then .ok (.proceed program (some statement.carrier))
    else Trouble.raise (phase.invalid text)
  | none => Trouble.raise (phase.invalid text)

/-- What a phase wants done with a program. -/
def plan (phase : Phase) (program : Program) : Plan :=
  match phase with
  | .execute =>
    match program.current with
    | .ok (some text) =>
      match named? text with
      | some next => .ok (.proceed program (some next))
      | none => Trouble.raise (.unknownInstruction text)
    | .ok none => .ok (.proceed program (some .finish))
    | .error mishap => .error (.mishap mishap)
  | .finish => .ok (.proceed program none)
  | .assign | .goto | .branch | .output | .arithmetic => do
    phase.planFor program (← program.trimmedInstruction)

end Phase

namespace Machine

/-- Does what an action says. A console that fails leaves the rest undone. -/
def perform (machine : Machine) : Action → Except Trouble (Option Phase) × Machine
  | .proceed program next => (.ok next, { machine with program })
  | .read target =>
    match machine.console.read with
    | (.ok line, console) =>
      (.ok (some .execute), { machine with
        console
        events := machine.events.push (.input line)
        program := (machine.program.set target line).advance })
    | (.error disruption, console) => (.error disruption.whileReading, { machine with console })
  | .write text =>
    match machine.console.write text with
    | (.ok (), console) =>
      (.ok (some .execute), { machine with
        console
        events := machine.events.push (.output text)
        program := machine.program.advance })
    | (.error disruption, console) => (.error disruption.whileWriting, { machine with console })

/-- Does what a plan says, or nothing if the plan is at fault. -/
def follow (machine : Machine) : Plan → Except Trouble (Option Phase) × Machine
  | .ok action => machine.perform action
  | .error trouble => (.error trouble, machine)

end Machine

end LineScript
