import LineScript.Proofs.Journal.Course
import LineScript.Proofs.Machine.Invariants

/-!
What was said and what was done. Every text that the console took and every line that it gave is
said once, in order, whatever goes wrong in between and however often the machine is called; in a
run, what was said belongs to the completed steps that called the console.
-/

namespace LineScript

namespace Event

/-- The line that was read. -/
def read? : Event → Option String
  | .input text => some text
  | .output _ => none

/-- The text that was written. -/
def written? : Event → Option String
  | .input _ => none
  | .output text => some text

end Event

namespace Stage

/-- The step completes a statement that reads a line or writes a text. -/
def asks (stage : Stage) : Bool :=
  match stage.statement? with
  | some (.assign _ .input) => true
  | some (.output _) => true
  | _ => false

/-- What a step says: the line that it bound, or the text that it found. -/
inductive Says (stage : Stage) : Event → Prop where
  | input {target line : String} (carries : stage.statement? = some (.assign target .input))
      (bound : stage.after.vars.get? target = some line) : Says stage (.input line)
  | output {name text : String} (carries : stage.statement? = some (.output name))
      (held : stage.before.vars.get? name = some text) : Says stage (.output text)

end Stage

namespace Machine

variable {machine after : Machine} {phase : Phase} {outcome : Option Phase} {lines : List String}

/-- What was said accounts for what was written to the console, and for what was read of some
lines. -/
structure Accounts (lines : List String) (machine : Machine) : Prop where
  written : machine.console.outputs.toList = machine.events.toList.filterMap Event.written?
  read : lines = machine.events.toList.filterMap Event.read? ++ machine.console.inputs

theorem Accounts.perform (accounts : Accounts lines machine) (action : Action) :
    Accounts lines (machine.perform action).2 := by
  obtain ⟨written, read⟩ := accounts
  cases action with
  | proceed program next => exact ⟨written, read⟩
  | read target =>
    rcases machine.console.read_cases with ⟨line, rest, held, answered⟩ | ⟨disruption, answered⟩
    · simp only [Machine.perform, answered]
      constructor
      · rw [Array.toList_push, List.filterMap_append, ← written]
        exact (List.append_nil _).symm
      · rw [Array.toList_push, List.filterMap_append, List.append_assoc, read, held]
        rfl
    · simp only [Machine.perform, answered]
      exact ⟨written, read⟩
  | write text =>
    rcases machine.console.write_cases text with answered | ⟨disruption, answered⟩
    · simp only [Machine.perform, answered]
      constructor
      · rw [Array.toList_push, Array.toList_push, List.filterMap_append, ← written]
        rfl
      · rw [Array.toList_push, List.filterMap_append, List.append_assoc, read]
        rfl
    · simp only [Machine.perform, answered]
      exact ⟨written, read⟩

theorem accounts_kept (lines : List String) : Kept (Accounts lines) where
  record _ _ _ accounts := ⟨accounts.written, accounts.read⟩
  perform _ _ action accounts _ := accounts.perform action

/-- A call of the machine: for one phase, for one step, or for a run. -/
inductive Call where
  | dispatch (phase : Phase)
  | step (phase : Phase)
  | run (budget : Nat)
  deriving DecidableEq, Repr

/-- The machine after a call with some program. -/
def serve (machine : Machine) (program : Program) : Call → Machine
  | .dispatch phase => ((machine.withProgram program).dispatch phase).2
  | .step phase => ((machine.withProgram program).step phase).2
  | .run budget => ((machine.withProgram program).run budget).2

/-- The machine after calls that follow one another, each with a program of its own. -/
def serveAll (machine : Machine) (calls : List (Program × Call)) : Machine :=
  calls.foldl (fun machine call => machine.serve call.1 call.2) machine

theorem Accounts.serve (accounts : Accounts lines machine) (program : Program) (call : Call) :
    Accounts lines (machine.serve program call) := by
  have given : Accounts lines (machine.withProgram program) := ⟨accounts.written, accounts.read⟩
  cases call with
  | dispatch phase => exact (accounts_kept lines).dispatch given phase
  | step phase => exact (accounts_kept lines).step given phase
  | run budget => exact (accounts_kept lines).runFrom given .execute budget

theorem Accounts.serveAll (accounts : Accounts lines machine) (calls : List (Program × Call)) :
    Accounts lines (machine.serveAll calls) := by
  induction calls generalizing machine with
  | nil => exact accounts
  | cons call calls ih =>
    obtain ⟨program, call⟩ := call
    exact ih (accounts.serve program call)

theorem accounts_fresh (quiet : machine.events = #[]) (unwritten : machine.console.outputs = #[]) :
    Accounts machine.console.inputs machine := by
  constructor
  · rw [unwritten, quiet]
    rfl
  · rw [quiet]
    rfl

/-- A completed step says something exactly if it called the console. -/
theorem says_of_step (taken : machine.step phase = (.ok outcome, after)) :
    ((machine.stage phase after).asks = false ∧ after.events = machine.events) ∨
      ∃ event, (machine.stage phase after).asks = true ∧ (machine.stage phase after).Says event ∧
        after.events = machine.events.push event := by
  unfold Stage.asks
  rcases completed_cases taken with
    ⟨idle, -, events⟩ | ⟨statement, instruction, action, carries, acts, performed⟩
  · rw [idle]
    exact .inl ⟨rfl, events⟩
  · rw [carries]
    cases acts with
    | input target =>
      rw [perform] at performed
      split at performed <;> cases performed
      exact .inr ⟨_, rfl, .input carries ((Bindings.get?_insert _ _ _ _).trans (if_pos rfl)), rfl⟩
    | output held =>
      rw [perform] at performed
      split at performed <;> cases performed
      exact .inr ⟨_, rfl, .output carries held, rfl⟩
    | _ =>
      cases performed
      exact .inl ⟨rfl, rfl⟩

theorem charts_says :
    Charts fun stages machine =>
      List.Forall₂ Stage.Says (stages.filter Stage.asks) machine.events.toList where
  completed := by
    intro stages machine after phase outcome said taken
    rw [List.filter_append]
    rcases says_of_step taken with ⟨silent, same⟩ | ⟨event, asks, told, pushed⟩
    · rw [same, List.filter_cons_of_neg (Bool.eq_false_iff.mp silent), List.filter_nil,
        List.append_nil]
      exact said
    · rw [pushed, Array.toList_push, List.filter_cons_of_pos asks]
      exact List.rel_append said (.cons told .nil)
  failed := by
    intro stages machine after phase trouble said failed
    obtain ⟨reads, writes, journal, rfl⟩ := untouched_of_step_error failed
    exact said

/-- What a machine said accounts for its console, whatever it was called for: the texts that were
written are those it said were written, and the lines that were taken are those it said were read,
in order. In a run the events belong one by one to the completed steps that called the console. -/
theorem events_account_for_console :
    (∀ (machine : Machine) (calls : List (Program × Call)), machine.events = #[] →
      machine.console.outputs = #[] → Accounts machine.console.inputs (machine.serveAll calls)) ∧
    ∀ (machine after : Machine) (budget : Nat) (ending : Ending), machine.events = #[] →
      machine.run budget = (ending, after) →
        (∃ entries, after.journal.entries.toList = machine.journal.entries.toList ++ entries ∧
          Journal.Lists (machine.course budget) ending entries) ∧
        List.Forall₂ Stage.Says ((machine.course budget).filter Stage.asks)
          after.events.toList := by
  constructor
  · intro machine calls quiet unwritten
    exact (accounts_fresh quiet unwritten).serveAll calls
  · intro machine after budget ending quiet ended
    have silent : List.Forall₂ Stage.Says ([].filter Stage.asks) machine.events.toList := by
      rw [quiet]
      exact .nil
    have listed := lists_of_run machine .execute budget
    have said := charts_says.runFrom silent .execute budget
    rw [← run, ended] at listed said
    exact ⟨listed, said⟩

/-- A line is read and written, on a console that refuses the first text. -/
def relay : Machine where
  program := .ofListing ⟨[], ["let $x = input", "output $x"]⟩
  console :=
    { inputs := ["a", "b", "c"]
      writeDisruption := fun call => if call = 0 then some (.failure "refused") else none }

theorem relay_accounts :
    ∃ twice after, twice = relay.serveAll [(relay.program, .run 6), (relay.program, .run 6)] ∧
      twice.events = #[.input "a", .input "b", .output "b"] ∧ Accounts ["a", "b", "c"] twice ∧
      relay.run 3 = (.paused .output, after) ∧ after.events = #[.input "a"] ∧
      List.Forall₂ Stage.Says ((relay.course 3).filter Stage.asks) after.events.toList := by
  obtain ⟨sessions, runs⟩ := events_account_for_console
  have accounts := sessions relay [(relay.program, .run 6), (relay.program, .run 6)] rfl rfl
  obtain ⟨-, said⟩ := runs relay (relay.run 3).2 3 (.paused .output) rfl rfl
  exact ⟨_, _, rfl, rfl, accounts, rfl, rfl, said⟩

end Machine

end LineScript
