import LineScript.Machine.Handlers

/-!
The machine at work. A step records the instruction at hand, carries out one phase and says which
comes next.
-/

namespace LineScript

/-- The phase that follows, none at the end of the run, or what went wrong. -/
abbrev Outcome := Except Trouble (Option Phase)

/-- How a run ends: at its end, with trouble, or because its budget is used up. -/
inductive Ending where
  | done
  | stopped (trouble : Trouble)
  | paused (next : Phase)
  deriving DecidableEq, Repr

namespace Machine

/-- Carries out a phase, without a record of it. -/
def dispatch (machine : Machine) (phase : Phase) : Outcome × Machine :=
  if machine.handled.contains phase then phase.work.on machine
  else (.error (.ofCause (.noHandler phase)), machine)

/-- Records a step that is about to be taken. -/
def record (machine : Machine) (phase : Phase) (instruction : Option String) : Machine :=
  let snapshot := if machine.verbose then some machine.program.snapshot else none
  { machine with
    journal := machine.journal.record phase.name (some machine.program.ip) instruction snapshot }

/-- Records and carries out a phase. Whatever goes wrong becomes a fault with a place; only a
position outside the code is found before the record and stays as it is. -/
def step (machine : Machine) (phase : Phase) : Outcome × Machine :=
  match machine.program.current with
  | .error mishap => (.error (.mishap mishap), machine)
  | .ok instruction =>
    match (machine.record phase instruction).dispatch phase with
    | (.ok next, after) => (.ok next, after)
    | (.error trouble, after) =>
      let number := after.journal.last?.map Journal.Entry.step
      (.error (.fault (trouble.toFault.locate phase machine.program.ip instruction number)), after)

/-- Steps from a phase on, as many as a budget allows. -/
def runFrom (phase : Phase) (machine : Machine) : Nat → Ending × Machine
  | 0 =>
    match machine.program.current with
    | .error mishap => (.stopped (.mishap mishap), machine)
    | .ok _ => (.paused phase, machine)
  | budget + 1 =>
    match machine.step phase with
    | (.ok (some next), after) => runFrom next after budget
    | (.ok none, after) => (.done, after)
    | (.error trouble, after) => (.stopped trouble, after)

def run (machine : Machine) (budget : Nat) : Ending × Machine :=
  machine.runFrom .execute budget

end Machine

end LineScript
