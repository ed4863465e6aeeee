import LineScript.Proofs.Machine.Plan
import Mathlib.Data.Nat.Digits.Defs

/-!
A reference for running programs: the code is decoded once, and each step carries out one whole
statement.
-/

namespace LineScript.Reference

/-- What a line of code asks for. -/
inductive Instruction where
  | perform (statement : Statement)
  | quit
  /-- The leading word names a phase, but what follows is not its statement. -/
  | malformed (phase : Phase) (text : String)
  | unknown (text : String)
  deriving DecidableEq, Repr

def decode (text : String) : Instruction :=
  match Statement.parse? (Text.trim text).toList, Phase.named? text with
  | some statement, _ => .perform statement
  | none, some .finish => .quit
  | none, some phase => .malformed phase (Text.trim text)
  | none, none => .unknown text

structure State where
  vars : Bindings
  /-- The top comes first. -/
  stack : List String
  ip : Nat
  inputs : List String
  outputs : List String
  deriving DecidableEq, Repr

/-- What a step comes to. A fault belongs to the phase that carries out the statement. -/
inductive Result where
  | next (state : State)
  | halted
  | fault (phase : Phase) (cause : Fault.Cause)
  deriving DecidableEq, Repr

/-- The order of texts, character by character and by code points. -/
def precedes : List Char → List Char → Bool
  | _, [] => false
  | [], _ :: _ => true
  | left :: lefts, right :: rights =>
    left.toNat < right.toNat || left = right && precedes lefts rights

def holds (comparison : Comparison) (left right : String) : Bool :=
  match comparison with
  | .less => precedes left.toList right.toList
  | .atMost => left = right || precedes left.toList right.toList
  | .greater => precedes right.toList left.toList
  | .atLeast => left = right || precedes right.toList left.toList
  | .equal => left = right
  | .unequal => left ≠ right

/-- The quotient of two integers, rounded toward zero. -/
def quotient (dividend divisor : Int) : Int :=
  let magnitude : Nat := dividend.natAbs / divisor.natAbs
  if (dividend < 0) = (divisor < 0) then magnitude else -magnitude

/-- What the quotient leaves of the dividend. -/
def remainder (dividend divisor : Int) : Int :=
  dividend - divisor * quotient dividend divisor

/-- The number that digits write, if there are any and nothing else. The last of them is worth the
least. -/
def whole? (digits : List Char) : Option Nat :=
  if digits.isEmpty then none
  else (digits.mapM Text.digitValue?).map fun values => Nat.ofDigits 10 values.reverse

/-- The integer that a text is: digits, with or without one sign before them. White space around it
does not count, of whatever kind it is. -/
def integer? (value : String) : Option Int :=
  match Text.trimChars value.toList with
  | [] => none
  | sign :: digits =>
    if sign = '-' then (whole? digits).map fun number => -Int.ofNat number
    else if sign = '+' then (whole? digits).map Int.ofNat
    else (whole? (sign :: digits)).map Int.ofNat

namespace State

variable (state : State)

/-- Goes on with the next instruction. -/
def advance : State :=
  { state with ip := state.ip + 1 }

def bind (name value : String) : State :=
  { state with vars := state.vars.insert name value }

/-- The value of a variable as an integer. The variable must exist, and then its value be
numeric. -/
def operand (name : String) : Except Fault.Cause Int :=
  match state.vars.get? name with
  | none => .error (.missingVariable name)
  | some value =>
    match integer? value with
    | some number => .ok number
    | none => .error (.notNumeric name value)

/-- Goes to a line if there is one. -/
def goTo (size : Nat) (phase : Phase) (line : String) : Result :=
  if Text.numeral line.toList < size then .next { state with ip := Text.numeral line.toList }
  else .fault phase .outOfBounds

def compute (target : String) (operator : Operator) (left right : Int) : Result :=
  match operator with
  | .add => .next (state.bind target (Text.decimal (left + right))).advance
  | .subtract => .next (state.bind target (Text.decimal (left - right))).advance
  | .multiply => .next (state.bind target (Text.decimal (left * right))).advance
  | .divide =>
    if right = 0 then .fault .arithmetic .divisionByZero
    else
      let bound := state.bind target (Text.decimal (quotient left right))
      .next { bound.advance with stack := Text.decimal (remainder left right) :: state.stack }

/-- Carries out a statement of a program with so many lines. The left operand is looked at before
the right one, and the line of a branch only when the branch is taken. -/
def perform (size : Nat) : Statement → Result
  | .assign target (.literal literal) => .next (state.bind target literal.value).advance
  | .assign target .stack =>
    match state.stack with
    | [] => .fault .assign .emptyStack
    | value :: rest => .next { (state.bind target value).advance with stack := rest }
  | .assign target .input =>
    match state.inputs with
    | [] => .fault .assign .inputClosed
    | line :: rest => .next { (state.bind target line).advance with inputs := rest }
  | .assign target (.copy source) =>
    match state.vars.get? source with
    | none => .fault .assign (.missingVariable source)
    | some value => .next (state.bind target value).advance
  | .assign target (.arithmetic left operator right) =>
    match state.operand left with
    | .error cause => .fault .arithmetic cause
    | .ok leftValue =>
      match state.operand right with
      | .error cause => .fault .arithmetic cause
      | .ok rightValue => state.compute target operator leftValue rightValue
  | .jump line => state.goTo size .goto line
  | .branch left comparison right line =>
    match state.vars.get? left with
    | none => .fault .branch (.missingVariable left)
    | some leftValue =>
      match state.vars.get? right with
      | none => .fault .branch (.missingVariable right)
      | some rightValue =>
        if holds comparison leftValue rightValue then state.goTo size .branch line
        else .next state.advance
  | .output name =>
    match state.vars.get? name with
    | none => .fault .output (.missingVariable name)
    | some value => .next { state.advance with outputs := state.outputs ++ [value] }

end State

inductive Status where
  | running
  | halted
  | fault (phase : Phase) (cause : Fault.Cause)
  deriving DecidableEq, Repr

section Code

variable (code : List Instruction)

/-- One whole statement. Past the last line a program halts as it does at a `quit`. -/
def step (state : State) : Result :=
  match code[state.ip]? with
  | none | some .quit => .halted
  | some (.unknown text) => .fault .execute (.unknownInstruction text)
  | some (.malformed phase text) => .fault phase (phase.invalid text)
  | some (.perform statement) => state.perform code.length statement

/-- The phases of the machine that carry out a statement. Only arithmetic has one besides the phase
that its keyword names. -/
def phasesOf : Statement → List Phase
  | .assign _ (.arithmetic ..) => [.execute, .assign, .arithmetic]
  | .assign .. => [.execute, .assign]
  | .jump _ => [.execute, .goto]
  | .branch .. => [.execute, .branch]
  | .output _ => [.execute, .output]

theorem phasesOf_of_opening {statement : Statement} (same : statement.carrier = statement.opening) :
    phasesOf statement = [.execute, statement.carrier] := by
  cases statement with
  | assign target origin =>
    cases origin with
    | arithmetic left operator right => cases same
    | _ => rfl
  | _ => rfl

theorem phasesOf_of_apart {statement : Statement} (apart : statement.carrier ≠ statement.opening) :
    phasesOf statement = [.execute, statement.opening, statement.carrier] := by
  cases statement with
  | assign target origin =>
    cases origin with
    | arithmetic left operator right => rfl
    | _ => exact absurd rfl apart
  | _ => exact absurd rfl apart

/-- The phases of the machine that belong to one step. -/
def phases (state : State) : List Phase :=
  match code[state.ip]? with
  | none | some .quit => [.execute, .finish]
  | some (.unknown _) => [.execute]
  | some (.malformed phase _) => [.execute, phase]
  | some (.perform statement) => phasesOf statement

/-- At most so many steps, and how they ended. A step that faults leaves the state as it was. -/
def run (state : State) : Nat → Status × State
  | 0 => (.running, state)
  | count + 1 =>
    match step code state with
    | .next after => run after count
    | .halted => (.halted, state)
    | .fault phase cause => (.fault phase cause, state)

/-- The phases of the machine that belong to so many steps. -/
def trace (state : State) : Nat → List Phase
  | 0 => []
  | count + 1 =>
    phases code state ++
      match step code state with
      | .next after => trace after count
      | _ => []

end Code

/-- A program with the values of its registers, and the inputs that it is run on. -/
structure Setup where
  registers : List String
  statements : List String
  inputs : List String
  deriving DecidableEq, Repr

namespace Setup

variable (setup : Setup)

def code : List Instruction :=
  setup.statements.map decode

/-- The state before the first step. -/
def start : State where
  vars := ⟨Program.initialVars 0 setup.registers⟩
  stack := []
  ip := 0
  inputs := setup.inputs
  outputs := []

/-- The reference after at most so many steps. -/
def run (count : Nat) : Status × State :=
  Reference.run setup.code setup.start count

/-- The phases of the machine for as many steps. -/
def trace (count : Nat) : List Phase :=
  Reference.trace setup.code setup.start count

/-- The machine before its first step. -/
def machine (verbose : Bool) : Machine where
  program := .ofListing { registers := setup.registers, statements := setup.statements }
  console := { inputs := setup.inputs }
  verbose := verbose

end Setup

example :
    Setup.run ⟨["\"-7\"", "2"], ["let $q = $0 / $1", "output $q", "quit"], []⟩ 3 =
      (.halted, {
        vars := ⟨[("0", "-7"), ("1", "2"), ("q", "-3")]⟩
        stack := ["-1"]
        ip := 2
        inputs := []
        outputs := ["-3"] }) := by
  decide +kernel

end LineScript.Reference
