import LineScript.Proofs.Machine.Plan

/-!
The work of every phase follows the plan of that phase: whatever is at fault shows before the first
act that leaves a trace.
-/

namespace LineScript

/-- The machine with another program. -/
def Machine.withProgram (machine : Machine) (program : Program) : Machine :=
  { machine with program }

namespace Work

variable {α β : Type} (machine : Machine)

@[simp] theorem on_pure (value : α) : (pure value : Work α).on machine = (.ok value, machine) := rfl

@[simp] theorem on_raise (cause : Fault.Cause) :
    (raise cause : Work α).on machine = (.error (.ofCause cause), machine) := rfl

/-- Work that follows other work goes on with what that left, unless it went wrong. -/
theorem on_bind (work : Work α) (next : α → Work β) :
    (work >>= next).on machine =
      match work.on machine with
      | (.ok value, after) => (next value).on after
      | (.error trouble, after) => (.error trouble, after) := by
  rw [on, on, ExceptT.run_bind, StateT.run_bind]
  rcases work.run.run machine with ⟨_ | _, after⟩ <;> rfl

@[simp] theorem on_get : (get : Work Machine).on machine = (.ok machine, machine) := rfl

@[simp] theorem on_program : program.on machine = (.ok machine.program, machine) := rfl

@[simp] theorem on_unlessMishap (result : Except Mishap α) :
    (unlessMishap result).on machine = (result.mapError .mishap, machine) := by
  cases result <;> rfl

@[simp] theorem on_jump (target : Nat) :
    (jump target).on machine = (.ok (), machine.withProgram (machine.program.jump target)) := rfl

theorem on_pop :
    pop.on machine =
      match machine.program.pop? with
      | some (value, rest) => (.ok (some value), machine.withProgram rest)
      | none => (.ok none, machine) := by
  rw [pop, on_bind, on_program]
  cases found : machine.program.pop? <;> simp only [found] <;> rfl

theorem on_instruction? :
    instruction?.on machine = (machine.program.current.mapError .mishap, machine) := by
  simp [instruction?, on_bind]

theorem on_instruction :
    instruction.on machine = (machine.program.trimmedInstruction, machine) := by
  rw [instruction, on_bind, on_instruction?, Program.trimmedInstruction]
  rcases machine.program.current with _ | _ | _ <;> rfl

theorem on_require (name : String) :
    (require name).on machine = (machine.program.require name, machine) := by
  rw [require, on_bind, on_program, Program.require]
  cases found : machine.program.vars.get? name <;> simp [found, Trouble.raise]

theorem on_operand (name : String) :
    (operand name).on machine = (machine.program.operand name, machine) := by
  rw [operand, on_bind, on_require, Program.operand]
  cases machine.program.require name with
  | error trouble => rfl
  | ok value =>
    cases reading : Value.read value <;> simp [reading, bind, Except.bind] <;> rfl

theorem on_goTo (line : String) :
    (goTo line).on machine =
      match machine.program.goTo line with
      | .ok program => (.ok (), machine.withProgram program)
      | .error trouble => (.error trouble, machine) := by
  by_cases inside : Text.numeral line.toList < machine.program.code.length <;>
    simp [goTo, Program.goTo, on_bind, inside, Trouble.raise]

theorem on_copy {source value : String} (target : String)
    (found : machine.program.vars.get? source = some value) :
    (copy target source).on machine =
      (.ok (), machine.withProgram (machine.program.set target value)) := by
  have copied : machine.program.copy target source = .ok (machine.program.set target value) := by
    rw [Program.copy, found]
  rw [copy, on_bind, on_program]
  simp only [copied]
  rfl

theorem on_readLine :
    readLine.on machine =
      match machine.console.read with
      | (.ok line, console) => (.ok line, { machine with console })
      | (.error disruption, console) =>
        (.error disruption.whileReading, { machine with console }) := by
  rw [readLine, on_bind, on_get]
  rcases found : machine.console.read with ⟨_ | _, console⟩ <;> simp only [found] <;> rfl

theorem on_writeText (text : String) :
    (writeText text).on machine =
      match machine.console.write text with
      | (.ok (), console) => (.ok (), { machine with console })
      | (.error disruption, console) =>
        (.error disruption.whileWriting, { machine with console }) := by
  rw [writeText, on_bind, on_get]
  rcases found : machine.console.write text with ⟨_ | _, console⟩ <;> simp only [found] <;> rfl

/-- A phase that carries out instructions begins with a look at the current one. -/
theorem instruction_bind_on {phase : Phase} {body : String → Work (Option Phase)}
    (looks : ∀ program, phase.plan program =
      program.trimmedInstruction >>= fun text => phase.planFor program text)
    (follows : ∀ text, (body text).on machine =
      machine.follow (phase.planFor machine.program text)) :
    (instruction >>= body).on machine = machine.follow (phase.plan machine.program) := by
  rw [on_bind, on_instruction, looks]
  cases machine.program.trimmedInstruction with
  | error trouble => rfl
  | ok text => exact follows text

theorem assign_on : assign.on machine = machine.follow (Phase.assign.plan machine.program) := by
  refine instruction_bind_on machine (fun _ => rfl) fun text => ?_
  rw [Phase.planFor]
  cases Statement.parse? text.toList with
  | none => rfl
  | some statement =>
    cases statement with
    | assign target origin =>
      cases origin with
      | literal literal => rfl
      | stack =>
        change _ = machine.follow (Statement.plan machine.program (.assign target .stack))
        simp only [on_bind, on_pop, Statement.plan]
        cases machine.program.pop? <;> rfl
      | input =>
        change _ = machine.perform (.read target)
        simp only [on_bind, on_readLine, Machine.perform]
        rcases machine.console.read with ⟨_ | _, console⟩ <;> rfl
      | copy source =>
        change _ = machine.follow (Statement.plan machine.program (.assign target (.copy source)))
        simp only [on_bind, on_require, Statement.plan, Program.require]
        cases found : machine.program.vars.get? source with
        | none => rfl
        | some value =>
          simp only [on_copy machine target found]
          rfl
      | arithmetic left operator right => rfl
    | jump line => rfl
    | branch left comparison right line => rfl
    | output name => rfl

theorem compute_on (target : String) (operator : Operator) (left right : Int) :
    (compute target operator left right).on machine =
      match machine.program.compute target operator left right with
      | .ok program => (.ok (), machine.withProgram program)
      | .error trouble => (.error trouble, machine) := by
  cases operator with
  | add => rfl
  | subtract => rfl
  | multiply => rfl
  | divide =>
    simp only [compute, Program.compute]
    cases Arithmetic.divide? left right <;> rfl

theorem arithmetic_on :
    arithmetic.on machine = machine.follow (Phase.arithmetic.plan machine.program) := by
  refine instruction_bind_on machine (fun _ => rfl) fun text => ?_
  rw [Phase.planFor]
  cases Statement.parse? text.toList with
  | none => rfl
  | some statement =>
    cases statement with
    | assign target origin =>
      cases origin with
      | arithmetic left operator right =>
        change _ = machine.follow
          (Statement.plan machine.program (.assign target (.arithmetic left operator right)))
        simp only [on_bind, on_operand, compute_on, Statement.plan]
        cases machine.program.operand left with
        | error trouble => rfl
        | ok leftValue =>
          dsimp only
          cases machine.program.operand right with
          | error trouble => rfl
          | ok rightValue =>
            simp only [ok_bind]
            cases machine.program.compute target operator leftValue rightValue <;> rfl
      | _ => rfl
    | _ => rfl

theorem goto_on : goto.on machine = machine.follow (Phase.goto.plan machine.program) := by
  refine instruction_bind_on machine (fun _ => rfl) fun text => ?_
  rw [Phase.planFor]
  cases Statement.parse? text.toList with
  | none => rfl
  | some statement =>
    cases statement with
    | jump line =>
      change _ = machine.follow (Statement.plan machine.program (.jump line))
      simp only [on_bind, on_goTo, Statement.plan]
      cases machine.program.goTo line <;> rfl
    | assign target origin => cases origin <;> rfl
    | _ => rfl

theorem branch_on : branch.on machine = machine.follow (Phase.branch.plan machine.program) := by
  refine instruction_bind_on machine (fun _ => rfl) fun text => ?_
  rw [Phase.planFor]
  cases Statement.parse? text.toList with
  | none => rfl
  | some statement =>
    cases statement with
    | branch left comparison right line =>
      change _ = machine.follow
        (Statement.plan machine.program (.branch left comparison right line))
      simp only [on_bind, on_require, Statement.plan]
      cases machine.program.require left with
      | error trouble => rfl
      | ok leftValue =>
        dsimp only
        cases machine.program.require right with
        | error trouble => rfl
        | ok rightValue =>
          by_cases holds : comparison.holds leftValue rightValue = true
          · simp only [ok_bind, holds, ↓reduceIte, on_bind, on_goTo]
            cases machine.program.goTo line <;> rfl
          · simp only [ok_bind, holds]
            rfl
    | assign target origin => cases origin <;> rfl
    | _ => rfl

theorem output_on : output.on machine = machine.follow (Phase.output.plan machine.program) := by
  refine instruction_bind_on machine (fun _ => rfl) fun text => ?_
  rw [Phase.planFor]
  cases Statement.parse? text.toList with
  | none => rfl
  | some statement =>
    cases statement with
    | output name =>
      change _ = machine.follow (Statement.plan machine.program (.output name))
      simp only [on_bind, on_require, on_writeText, Statement.plan]
      cases machine.program.require name with
      | error trouble => rfl
      | ok value =>
        change _ = machine.perform (.write value)
        simp only [Machine.perform]
        rcases machine.console.write value with ⟨_ | _, console⟩ <;> rfl
    | assign target origin => cases origin <;> rfl
    | _ => rfl

theorem execute_on : execute.on machine = machine.follow (Phase.execute.plan machine.program) := by
  rw [execute, on_bind, on_instruction?, Phase.plan]
  cases machine.program.current with
  | error mishap => rfl
  | ok found =>
    cases found with
    | none => rfl
    | some text =>
      have same : (Except.ok (some text)).mapError Trouble.mishap = .ok (some text) := rfl
      simp only [same, Phase.named?]
      cases Phase.keywords.lookup _ <;> rfl

end Work

/-- The work of a phase follows its plan. -/
theorem Phase.work_on (phase : Phase) (machine : Machine) :
    phase.work.on machine = machine.follow (phase.plan machine.program) := by
  cases phase with
  | execute => exact Work.execute_on machine
  | assign => exact Work.assign_on machine
  | goto => exact Work.goto_on machine
  | branch => exact Work.branch_on machine
  | output => exact Work.output_on machine
  | arithmetic => exact Work.arithmetic_on machine
  | finish => rfl

end LineScript
