import LineScript.Proofs.Machine.Effects
import LineScript.Proofs.Machine.Steps
import LineScript.Proofs.Value.Operands

/-!
Troubles: what goes wrong in a phase, and why. A phase that cannot be carried out, what a statement
or a phase is at fault with by itself, an operand that passes for a number and is not read as one,
and whatever the console brings up.
-/

namespace LineScript

variable {program : Program} {trouble : Trouble}

/-- Whether a statement or a phase brings up a cause. -/
def Fault.Cause.isOwn : Fault.Cause → Bool
  | .mishap _ => false
  | .reported _ => false
  | _ => true

/-- What the message of a cause begins with, whatever the cause is about. -/
def Fault.Cause.preface : Fault.Cause → String
  | .noHandler _ => "No handler for state "
  | .pastEnd => "Instruction pointer is past the end of the program"
  | .unknownInstruction _ => "Unknown instruction: `"
  | .invalidAssign _ => "Invalid assign instruction: `"
  | .invalidArithmetic _ => "Invalid arithmetic instruction: `"
  | .invalidGoto _ => "Invalid goto instruction: `"
  | .invalidBranch _ => "Invalid if instruction: `"
  | .invalidOutput _ => "Invalid output instruction: `"
  | .missingVariable _ => "Variable $"
  | .notNumeric _ _ => "Variable $"
  | .divisionByZero => "Division by zero"
  | .emptyStack => "Stack is empty"
  | .inputClosed => "Input stream closed"
  | .outOfBounds => "Goto statement points to region out of bounds"
  | .mishap _ => "Internal interpreter error: "
  | .reported message => message

theorem prefix_of_parts {text word rest : String} (parts : text = word ++ rest) :
    word.toList <+: text.toList := by
  rw [parts, String.toList_append]
  exact List.prefix_append _ _

theorem Fault.Cause.preface_prefix (cause : Fault.Cause) :
    cause.preface.toList <+: cause.message.toList := by
  cases cause with
  | noHandler phase => exact prefix_of_parts rfl
  | unknownInstruction text => exact prefix_of_parts String.append_assoc
  | invalidAssign text => exact prefix_of_parts String.append_assoc
  | invalidArithmetic text => exact prefix_of_parts String.append_assoc
  | invalidGoto text => exact prefix_of_parts String.append_assoc
  | invalidBranch text => exact prefix_of_parts String.append_assoc
  | invalidOutput text => exact prefix_of_parts String.append_assoc
  | missingVariable name => exact prefix_of_parts String.append_assoc
  | notNumeric name value =>
    have parts : "Variable $" ++ name ++ " is not numeric: '" ++ value ++ "'" =
        "Variable $" ++ (name ++ (" is not numeric: '" ++ (value ++ "'"))) := by
      simp only [String.append_assoc]
    exact prefix_of_parts parts
  | mishap mishap => exact prefix_of_parts rfl
  | _ => exact List.prefix_refl _

/-- A message begins with no text that parts from its preface. -/
theorem Fault.Cause.not_prefix_of_apart {cause : Fault.Cause} {text : String}
    (apart : (text.toList.isPrefixOf cause.preface.toList ||
      cause.preface.toList.isPrefixOf text.toList) = false) :
    ¬ text.toList <+: cause.message.toList := by
  rw [Bool.or_eq_false_iff, Bool.eq_false_iff, Bool.eq_false_iff, ne_eq, ne_eq,
    List.isPrefixOf_iff_prefix, List.isPrefixOf_iff_prefix] at apart
  intro begins
  exact (List.prefix_or_prefix_of_prefix begins cause.preface_prefix).elim apart.1 apart.2

/-- The instruction at hand computes with a value that passes for a number and is not read as one.
The left operand is looked at first. -/
inductive Program.Trips (program : Program) : String → Prop where
  | left {text target left right value : String} {operator : Operator}
      (found : program.current = .ok (some text))
      (read : Statement.parse? (Text.trim text).toList =
        some (.assign target (.arithmetic left operator right)))
      (held : program.vars.get? left = some value) (separated : Value.Separated value) :
      Trips program value
  | right {text target left right value : String} {operator : Operator} {leftValue : Int}
      (found : program.current = .ok (some text))
      (read : Statement.parse? (Text.trim text).toList =
        some (.assign target (.arithmetic left operator right)))
      (leftRead : program.operand left = .ok leftValue)
      (held : program.vars.get? right = some value) (separated : Value.Separated value) :
      Trips program value

/-- Trouble that a statement or a phase brings up by itself. -/
def Trouble.Own (trouble : Trouble) : Prop :=
  ∃ cause : Fault.Cause, cause.isOwn = true ∧ trouble = .ofCause cause

theorem Trouble.Own.ofCause {cause : Fault.Cause} (own : cause.isOwn = true) :
    (Trouble.ofCause cause).Own :=
  ⟨cause, own, rfl⟩

theorem Program.Unfit.cases {name : String} (unfit : program.Unfit name trouble) :
    trouble.Own ∨ ∃ value, program.vars.get? name = some value ∧ Value.Separated value ∧
      trouble = .mishap (.unreadable value) := by
  cases unfit with
  | missing => exact .inl (.ofCause rfl)
  | notNumeric => exact .inl (.ofCause rfl)
  | unreadable held reads => exact .inr ⟨_, held, Value.read_eq_unreadable_iff.mp reads, rfl⟩

/-- A phase is at fault by itself, or trips over an operand. -/
theorem Phase.Fails.cases {phase : Phase} {instruction : Option String}
    (fails : phase.Fails program trouble) (found : program.current = .ok instruction) :
    trouble.Own ∨ ∃ value, program.Trips value ∧ trouble = .mishap (.unreadable value) := by
  cases fails with
  | lost astray =>
    rw [found] at astray
    cases astray
  | unknown => exact .inl (.ofCause rfl)
  | pastEnd => exact .inl (.ofCause rfl)
  | foreign => cases phase <;> exact .inl (.ofCause rfl)
  | carry found read fails =>
    cases fails with
    | leftOperand unfit =>
      refine unfit.cases.imp_right ?_
      rintro ⟨value, held, separated, rfl⟩
      exact ⟨value, .left found read held separated, rfl⟩
    | rightOperand leftRead unfit =>
      refine unfit.cases.imp_right ?_
      rintro ⟨value, held, separated, rfl⟩
      exact ⟨value, .right found read leftRead held separated, rfl⟩
    | _ => exact .inl (.ofCause rfl)

namespace Machine

variable {machine after : Machine} {phase : Phase} {instruction : Option String} {message : String}

/-- What goes wrong in a phase, and the message that comes with it. -/
inductive Raises (machine : Machine) (phase : Phase) : Trouble → String → Prop where
  | unhandled (missing : phase ∉ machine.handled) :
      Raises machine phase (.ofCause (.noHandler phase)) ("No handler for state " ++ phase.name)
  /-- The phase finds something wrong by itself. -/
  | own {cause : Fault.Cause} (own : cause.isOwn = true) (handled : phase ∈ machine.handled)
      (planned : phase.plan machine.program = Trouble.raise cause) :
      Raises machine phase (.ofCause cause) cause.message
  | operand {value : String} (trips : machine.program.Trips value)
    (handled : phase ∈ machine.handled)
      (planned : phase.plan machine.program = .error (.mishap (.unreadable value))) :
      Raises machine phase (.mishap (.unreadable value))
        ("Internal interpreter error: " ++ (Mishap.unreadable value).message)
  /-- There is nothing to read any more. -/
  | closed {target message : String} {console : Console} (handled : phase ∈ machine.handled)
      (planned : phase.plan machine.program = .ok (.read target))
      (refused : machine.console.read = (.error (.closed message), console)) :
      Raises machine phase (.ofCause .inputClosed) "Input stream closed"
  | failedRead {target message : String} {console : Console} (handled : phase ∈ machine.handled)
      (planned : phase.plan machine.program = .ok (.read target))
      (refused : machine.console.read = (.error (.failure message), console)) :
      Raises machine phase (.mishap (.failure message))
        ("Internal interpreter error: " ++ message)
  | faultyRead {target : String} {fault : Fault} {console : Console}
      (handled : phase ∈ machine.handled)
      (planned : phase.plan machine.program = .ok (.read target))
      (refused : machine.console.read = (.error (.fault fault), console)) :
      Raises machine phase (.fault fault) fault.message
  | failedWrite {text message : String} {console : Console} (handled : phase ∈ machine.handled)
      (planned : phase.plan machine.program = .ok (.write text))
      (refused : machine.console.write text = (.error (.failure message), console)) :
      Raises machine phase (.mishap (.failure message))
        ("Internal interpreter error: " ++ message)
  /-- Only reading takes a closed console for the end of the input. -/
  | closedWrite {text message : String} {console : Console} (handled : phase ∈ machine.handled)
      (planned : phase.plan machine.program = .ok (.write text))
      (refused : machine.console.write text = (.error (.closed message), console)) :
      Raises machine phase (.mishap (.closed message))
        ("Internal interpreter error: " ++ message)
  | faultyWrite {text : String} {fault : Fault} {console : Console}
      (handled : phase ∈ machine.handled)
      (planned : phase.plan machine.program = .ok (.write text))
      (refused : machine.console.write text = (.error (.fault fault), console)) :
      Raises machine phase (.fault fault) fault.message

theorem Raises.message_eq (raises : machine.Raises phase trouble message) :
    trouble.toFault.message = message := by
  cases raises <;> rfl

/-- Nothing else goes wrong in a phase. -/
theorem raises_of_dispatch (found : machine.program.current = .ok instruction)
    (failed : machine.dispatch phase = (.error trouble, after)) :
    ∃ message, machine.Raises phase trouble message := by
  by_cases handled : phase ∈ machine.handled
  · rw [dispatch_of_handled handled] at failed
    cases planned : phase.plan machine.program with
    | error met =>
      rw [planned, follow] at failed
      cases failed
      rcases (Phase.fails_of_plan planned).cases found with ⟨cause, own, rfl⟩ | ⟨value, trips, rfl⟩
      · exact ⟨_, .own own handled planned⟩
      · exact ⟨_, .operand trips handled planned⟩
    | ok action =>
      rw [planned, follow] at failed
      cases action with
      | proceed program next => cases failed
      | read target =>
        rw [perform] at failed
        rcases refused : machine.console.read with ⟨disruption | line, called⟩
        · simp only [refused] at failed
          cases failed
          cases disruption with
          | failure text => exact ⟨_, .failedRead handled planned refused⟩
          | closed text => exact ⟨_, .closed handled planned refused⟩
          | fault fault => exact ⟨_, .faultyRead handled planned refused⟩
        · simp only [refused] at failed
          cases failed
      | write text =>
        rw [perform] at failed
        rcases refused : machine.console.write text with ⟨disruption | _, called⟩
        · simp only [refused] at failed
          cases failed
          cases disruption with
          | failure text => exact ⟨_, .failedWrite handled planned refused⟩
          | closed text => exact ⟨_, .closedWrite handled planned refused⟩
          | fault fault => exact ⟨_, .faultyWrite handled planned refused⟩
        · simp only [refused] at failed
          cases failed
  · rw [dispatch_of_unhandled handled] at failed
    cases failed
    exact ⟨_, .unhandled handled⟩

end Machine

end LineScript
