import Mathlib.Data.List.Forall2
import LineScript.Proofs.Machine.Atomicity
import LineScript.Proofs.Statement.Reading

/-!
The course of a run: the steps that it completes, each with the program that it was taken on and the
program that it left. The journal has one entry for each of them, and one more for a step that
failed.
-/

namespace LineScript

variable {program : Program} {statement : Statement}

/-- The statement that the instruction at hand writes. -/
def Program.statement? (program : Program) : Option Statement :=
  match program.current with
  | .ok (some text) => Statement.parse? (Text.trim text).toList
  | _ => none

theorem Program.statement?_eq_some_iff :
    program.statement? = some statement ↔ ∃ text, program.current = .ok (some text) ∧
      Statement.parse? (Text.trim text).toList = some statement := by
  rw [Program.statement?]
  constructor
  · intro read
    split at read
    · rename_i text found
      exact ⟨text, found, read⟩
    · contradiction
  · rintro ⟨text, found, read⟩
    rw [found]
    exact read

/-- A completed step: its phase, and the program before and after it. -/
structure Stage where
  phase : Phase
  before : Program
  after : Program
  deriving DecidableEq, Repr

namespace Stage

variable {stage : Stage}

/-- The statement that a step carries out. A step that looks for the phase of an instruction, hands
it on to another phase or ends the run carries out none. -/
def statement? (stage : Stage) : Option Statement :=
  stage.before.statement?.filter fun statement => statement.carrier = stage.phase

theorem statement?_eq_some_iff :
    stage.statement? = some statement ↔
      stage.before.statement? = some statement ∧ statement.carrier = stage.phase := by
  rw [statement?, Option.filter_eq_some_iff, decide_eq_true_iff]

theorem statement?_eq_none
    (apart : ∀ statement, stage.before.statement? = some statement →
      statement.carrier ≠ stage.phase) :
    stage.statement? = none := by
  apply Option.eq_none_iff_forall_ne_some.mpr
  intro statement carries
  obtain ⟨read, own⟩ := statement?_eq_some_iff.mp carries
  exact apart statement read own

/-- The entry of a step names its phase, and the position and the instruction that it found. -/
structure Leaves (stage : Stage) (entry : Journal.Entry) : Prop where
  rule : entry.rule = stage.phase.name
  ip : entry.ip = some stage.before.ip
  instruction : stage.before.current = .ok entry.instruction

end Stage

/-- How many entries of a run belong to a step that failed. -/
def Ending.failures : Ending → Nat
  | .stopped (.fault _) => 1
  | _ => 0

/-- The entries that a run adds to the journal: one for every completed step, in order, and one more
for a step that failed. -/
structure Journal.Lists (stages : List Stage) (ending : Ending)
    (entries : List Journal.Entry) : Prop where
  completed : List.Forall₂ Stage.Leaves stages (entries.take stages.length)
  length : entries.length = stages.length + ending.failures

namespace Machine

variable {machine after : Machine} {phase : Phase} {outcome : Option Phase} {budget : Nat}

/-- The step that leaves another machine, once it is completed. -/
def stage (machine : Machine) (phase : Phase) (after : Machine) : Stage :=
  ⟨phase, machine.program, after.program⟩

/-- The steps that are completed from a phase on, as many as a budget allows. -/
def courseFrom (phase : Phase) (machine : Machine) : Nat → List Stage
  | 0 => []
  | budget + 1 =>
    match machine.step phase with
    | (.ok (some next), after) => machine.stage phase after :: courseFrom next after budget
    | (.ok none, after) => [machine.stage phase after]
    | (.error _, _) => []

def course (machine : Machine) (budget : Nat) : List Stage :=
  machine.courseFrom .execute budget

/-- A step that fails changes at most the journal and how often the console was called. -/
theorem untouched_of_step_error {trouble : Trouble}
    (failed : machine.step phase = (.error trouble, after)) : machine.Untouched after := by
  cases found : machine.program.current with
  | error mishap =>
    rw [step, found] at failed
    cases failed
    exact .refl machine
  | ok instruction => exact (step_error found failed).1

/-- A completed step carries a statement out, or it changes neither the program nor what was
said. -/
theorem completed_cases (taken : machine.step phase = (.ok outcome, after)) :
    ((machine.stage phase after).statement? = none ∧ after.program = machine.program ∧
        after.events = machine.events) ∨
      ∃ statement instruction action, (machine.stage phase after).statement? = some statement ∧
        statement.Acts machine.program action ∧
        (machine.record phase instruction).perform action = (.ok outcome, after) := by
  obtain ⟨instruction, action, -, -, planned, performed⟩ := step_ok taken
  cases Phase.acts_of_plan planned with
  | ended =>
    cases performed
    exact .inl ⟨Stage.statement?_eq_none fun statement _ => (Phase.carrier_inside statement).1, rfl,
      rfl⟩
  | named =>
    cases performed
    exact .inl ⟨Stage.statement?_eq_none fun statement _ => (Phase.carrier_inside statement).1, rfl,
      rfl⟩
  | @handOn text statement found read apart =>
    cases performed
    have carried : machine.program.statement? = some statement :=
      Program.statement?_eq_some_iff.mpr ⟨text, found, read⟩
    refine .inl ⟨Stage.statement?_eq_none fun other here => ?_, rfl, rfl⟩
    obtain rfl := Option.some.inj (carried.symm.trans here)
    exact apart
  | @carry text statement action found read acts =>
    have carried := Program.statement?_eq_some_iff.mpr ⟨text, found, read⟩
    exact .inr ⟨statement, instruction, action, Stage.statement?_eq_some_iff.mpr ⟨carried, rfl⟩,
      acts, performed⟩
  | finish =>
    cases performed
    exact .inl ⟨Stage.statement?_eq_none fun statement _ => (Phase.carrier_inside statement).2, rfl,
      rfl⟩

/-- A property of a machine and of the steps that led to it, kept by every step: one that is
completed comes after the others, and one that fails is not among them. -/
structure Charts (Holds : List Stage → Machine → Prop) : Prop where
  completed :
    ∀ {stages : List Stage} {machine after : Machine} {phase : Phase} {outcome : Option Phase},
    Holds stages machine → machine.step phase = (.ok outcome, after) →
      Holds (stages ++ [machine.stage phase after]) after
  failed : ∀ {stages : List Stage} {machine after : Machine} {phase : Phase} {trouble : Trouble},
    Holds stages machine → machine.step phase = (.error trouble, after) → Holds stages after

theorem Charts.runFrom {Holds : List Stage → Machine → Prop} {stages : List Stage}
    (charts : Charts Holds) (holds : Holds stages machine) (phase : Phase) (budget : Nat) :
    Holds (stages ++ machine.courseFrom phase budget) (machine.runFrom phase budget).2 := by
  induction budget generalizing machine phase stages with
  | zero =>
    rw [courseFrom, List.append_nil, Machine.runFrom]
    split <;> exact holds
  | succ budget ih =>
    rw [courseFrom, Machine.runFrom]
    rcases taken : machine.step phase with ⟨trouble | _ | next, after⟩
    · rw [List.append_nil]
      exact charts.failed holds taken
    · exact charts.completed holds taken
    · rw [List.append_cons]
      exact ih (charts.completed holds taken) next

/-- Every step of a course is taken by the machine to which the steps before it lead. -/
theorem courseFrom_split {front rest : List Stage} {stage : Stage}
    (split : machine.courseFrom phase budget = front ++ stage :: rest) :
    machine.courseFrom phase front.length = front ∧ ∃ before last outcome after,
      machine.runFrom phase front.length = (.paused last, before) ∧
      before.step last = (.ok outcome, after) ∧ stage = before.stage last after := by
  induction budget generalizing machine phase front with
  | zero =>
    rw [courseFrom] at split
    exact absurd split.symm (List.append_ne_nil_of_right_ne_nil front (List.cons_ne_nil stage rest))
  | succ budget ih =>
    rw [courseFrom] at split
    rcases taken : machine.step phase with ⟨trouble | next, middle⟩
    · rw [taken] at split
      exact absurd split.symm
        (List.append_ne_nil_of_right_ne_nil front (List.cons_ne_nil stage rest))
    · cases front with
      | nil =>
        have first : stage = machine.stage phase middle := by
          rw [taken] at split
          cases next with
          | none => exact (List.cons.inj split).1.symm
          | some next => exact (List.cons.inj split).1.symm
        obtain ⟨instruction, action, found, -⟩ := step_ok taken
        exact ⟨rfl, machine, phase, next, middle, runFrom_zero_of_current found, taken, first⟩
      | cons first front =>
        rw [taken] at split
        cases next with
        | none =>
          obtain ⟨-, nothing⟩ := List.cons.inj split
          exact absurd nothing.symm
            (List.append_ne_nil_of_right_ne_nil front (List.cons_ne_nil stage rest))
        | some next =>
          obtain ⟨rfl, later⟩ := List.cons.inj split
          obtain ⟨same, before, last, outcome, after, paused, step, here⟩ := ih later
          refine ⟨?_, before, last, outcome, after, ?_, step, here⟩
          · rw [List.length_cons, courseFrom, taken]
            exact congrArg _ same
          · rw [List.length_cons, Machine.runFrom, taken]
            exact paused

/-- A step that is completed leaves its entry in the journal. -/
theorem leaves_of_step (taken : machine.step phase = (.ok outcome, after)) :
    ∃ entry, after.journal.entries = machine.journal.entries.push entry ∧
      (machine.stage phase after).Leaves entry := by
  obtain ⟨instruction, action, found, -, -, performed⟩ := step_ok taken
  have journal := (machine.record phase instruction).follow_journal (.ok action)
  rw [follow, performed, record_journal] at journal
  exact ⟨machine.entry phase instruction, congrArg Journal.entries journal, rfl, rfl, found⟩

/-- A run adds the entries of its steps to the journal. -/
theorem lists_of_run (machine : Machine) (phase : Phase) (budget : Nat) :
    ∃ entries, (machine.runFrom phase budget).2.journal.entries.toList =
        machine.journal.entries.toList ++ entries ∧
      Journal.Lists (machine.courseFrom phase budget) (machine.runFrom phase budget).1 entries := by
  induction budget generalizing machine phase with
  | zero =>
    rw [courseFrom, Machine.runFrom]
    split <;> exact ⟨[], (List.append_nil _).symm, .nil, rfl⟩
  | succ budget ih =>
    rw [courseFrom, Machine.runFrom]
    rcases taken : machine.step phase with ⟨trouble | next, after⟩
    · cases found : machine.program.current with
      | error mishap =>
        rw [step, found] at taken
        cases taken
        exact ⟨[], (List.append_nil _).symm, .nil, rfl⟩
      | ok instruction =>
        obtain ⟨-, pushed, met, rfl⟩ := step_error found taken
        refine ⟨[machine.entry phase instruction], ?_, .nil, rfl⟩
        rw [pushed, Array.toList_push]
    · obtain ⟨entry, pushed, leaves⟩ := leaves_of_step taken
      have grown : after.journal.entries.toList = machine.journal.entries.toList ++ [entry] := by
        rw [pushed, Array.toList_push]
      cases next with
      | none => exact ⟨[entry], grown, .cons leaves .nil, rfl⟩
      | some next =>
        obtain ⟨entries, recorded, completed, length⟩ := ih after next
        refine ⟨entry :: entries, ?_, .cons leaves completed, ?_⟩
        · rw [recorded, grown, List.append_assoc, List.singleton_append]
        · rw [List.length_cons, length, Nat.add_right_comm]
          rfl

end Machine

end LineScript
