import LineScript.Proofs.Machine.Lockstep

/-!
Snapshots are for the reader of a journal: a machine works the same without them.
-/

namespace LineScript

/-- A journal without snapshots. -/
def Journal.bare (journal : Journal) : Journal :=
  { journal with entries := journal.entries.map fun entry => { entry with snapshot := none } }

theorem Journal.bare_record (journal : Journal) (rule : String) (ip : Option Int)
    (instruction : Option String) (snapshot : Option Snapshot) :
    journal.bare.record rule ip instruction none =
      (journal.record rule ip instruction snapshot).bare := by
  simp only [bare, record, Array.map_push]

namespace Machine

/-- The machine without snapshots, those of its journal and those to come. -/
def quiet (machine : Machine) : Machine :=
  { machine with journal := machine.journal.bare, verbose := false }

/-- A machine works the same without snapshots. -/
theorem mirrored_quiet : Mirrored quiet fun _ => True where
  kept := ⟨fun _ _ _ _ => trivial, fun _ _ _ _ _ => trivial⟩
  current _ := rfl
  ip _ := rfl
  handled _ := rfl
  next _ := rfl
  record machine phase instruction _ := by
    have same := machine.journal.bare_record phase.name (some machine.program.ip) instruction
      (if machine.verbose then some machine.program.snapshot else none)
    exact congrArg (fun journal => { machine with journal, verbose := false }) same
  follow machine phase _ := by
    have same : (quiet machine).program = machine.program := rfl
    rw [same]
    cases phase.plan machine.program with
    | error trouble => rfl
    | ok action =>
      cases action with
      | proceed program next => rfl
      | read target =>
        simp only [Machine.follow, perform, quiet]
        cases machine.console.read with
        | mk answer console => cases answer <;> rfl
      | write text =>
        simp only [Machine.follow, perform, quiet]
        cases machine.console.write text with
        | mk answer console => cases answer <;> rfl

end Machine

end LineScript
