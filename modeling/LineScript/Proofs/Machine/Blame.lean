import LineScript.Proofs.Machine.Frame
import LineScript.Proofs.Machine.Troubles

/-!
Who is to blame for a fault that ends a run. The console may bring up a fault of its own, with a
place or without one; every other fault starts out with its cause alone.
-/

namespace LineScript

/-- The console brought up a fault of its own at a call between two moments. -/
inductive Console.Brought (before after : Console) (fault : Fault) : Prop where
  | reading {call : Nat} (first : before.reads ≤ call) (last : call < after.reads)
      (disturbed : before.readDisruption call = some (.fault fault)) : Brought before after fault
  | writing {call : Nat} (first : before.writes ≤ call) (last : call < after.writes)
      (disturbed : before.writeDisruption call = some (.fault fault)) : Brought before after fault

namespace Console

variable {console called : Console} {fault : Fault} {text : String}

theorem brought_of_read (refused : console.read = (.error (.fault fault), called)) :
    console.Brought called fault := by
  rw [read] at refused
  split at refused
  · rename_i disturbed
    cases refused
    exact .reading le_rfl (Nat.lt_succ_self _) disturbed
  · cases refused
  · cases refused

theorem brought_of_write (refused : console.write text = (.error (.fault fault), called)) :
    console.Brought called fault := by
  simp only [write] at refused
  split at refused
  · rename_i disturbed
    cases refused
    exact .writing le_rfl (Nat.lt_succ_self _) disturbed
  · cases refused

end Console

namespace Machine

variable {machine before after : Machine} {phase : Phase} {trouble : Trouble} {message : String}
  {fault : Fault}

theorem brought_of_read (handled : phase ∈ machine.handled) {target : String} {called : Console}
    (planned : phase.plan machine.program = .ok (.read target))
    (refused : machine.console.read = (.error (.fault fault), called))
    (failed : machine.dispatch phase = (.error trouble, after)) :
    machine.console.Brought after.console fault := by
  rw [dispatch_of_handled handled, planned, follow, perform] at failed
  simp only [refused] at failed
  cases failed
  exact Console.brought_of_read refused

theorem brought_of_write (handled : phase ∈ machine.handled) {text : String} {called : Console}
    (planned : phase.plan machine.program = .ok (.write text))
    (refused : machine.console.write text = (.error (.fault fault), called))
    (failed : machine.dispatch phase = (.error trouble, after)) :
    machine.console.Brought after.console fault := by
  rw [dispatch_of_handled handled, planned, follow, perform] at failed
  simp only [refused] at failed
  cases failed
  exact Console.brought_of_write refused

/-- What goes wrong in a phase has no place yet, unless the console brought it up. -/
theorem Raises.plain_or_brought (raises : machine.Raises phase trouble message)
    (failed : machine.dispatch phase = (.error trouble, after)) :
    (∃ cause, trouble.toFault = { cause }) ∨
      machine.console.Brought after.console trouble.toFault := by
  cases raises with
  | faultyRead handled planned refused =>
    exact .inr (brought_of_read handled planned refused failed)
  | faultyWrite handled planned refused =>
    exact .inr (brought_of_write handled planned refused failed)
  | _ => exact .inl ⟨_, rfl⟩

/-- The console was called at least so often. -/
def Called (reads writes : Nat) (machine : Machine) : Prop :=
  reads ≤ machine.console.reads ∧ writes ≤ machine.console.writes

theorem called_kept (reads writes : Nat) : Kept (Called reads writes) where
  record _ _ _ called := called
  perform machine _ action called _ := by
    obtain ⟨enough, often⟩ := called
    cases action with
    | proceed program next => exact ⟨enough, often⟩
    | read target =>
      rcases machine.console.read_cases with ⟨line, rest, -, answered⟩ | ⟨disruption, answered⟩ <;>
        simp only [perform, answered] <;> exact ⟨Nat.le_succ_of_le enough, often⟩
    | write text =>
      rcases machine.console.write_cases text with answered | ⟨disruption, answered⟩ <;>
        simp only [perform, answered] <;> exact ⟨enough, Nat.le_succ_of_le often⟩

/-- What the console brings up in a step of a run, it brings up in the run. -/
theorem brought_earlier (alike : machine.Alike before)
    (called : before.Called machine.console.reads machine.console.writes)
    (brought : before.console.Brought after.console fault) :
    machine.console.Brought after.console fault := by
  cases brought with
  | reading first last disturbed =>
    rw [alike.reads] at disturbed
    exact .reading (called.1.trans first) last disturbed
  | writing first last disturbed =>
    rw [alike.writes] at disturbed
    exact .writing (called.2.trans first) last disturbed

/-- The last step of a run that ends with a fault: the machine and the phase that it is taken from,
the instruction that it finds, and what its phase raises. -/
structure Breaks (machine : Machine) (fault : Fault) (after before : Machine) (last : Phase)
    (instruction : Option String) (met : Trouble) : Prop where
  found : before.program.current = .ok instruction
  same : before.program = after.program
  alike : machine.Alike before
  called : before.Called machine.console.reads machine.console.writes
  dispatched : (before.record last instruction).dispatch last = (.error met, after)
  raises : ∃ message, (before.record last instruction).Raises last met message
  entries : after.journal.entries = before.journal.entries.push (before.entry last instruction)
  placed : fault = before.faultOf last instruction met

namespace Breaks

variable {last : Phase} {instruction : Option String} {met : Trouble} {other : Fault}

theorem brought (breaks : machine.Breaks fault after before last instruction met)
    (raised : before.console.Brought after.console other) :
    machine.console.Brought after.console other :=
  brought_earlier breaks.alike breaks.called raised

theorem plain_or_brought (breaks : machine.Breaks fault after before last instruction met) :
    (∃ cause, met.toFault = { cause }) ∨ machine.console.Brought after.console met.toFault := by
  obtain ⟨message, raises⟩ := breaks.raises
  exact (raises.plain_or_brought breaks.dispatched).imp_right breaks.brought

end Breaks

theorem breaks_of_run {budget : Nat}
    (ended : machine.run budget = (.stopped (.fault fault), after)) :
    ∃ count before last instruction met, machine.run count = (.paused last, before) ∧
      machine.Breaks fault after before last instruction met := by
  obtain ⟨count, last, before, -, faults⟩ := faultsAt_of_run ended
  obtain ⟨instruction, found⟩ := current_of_fault faults.failed
  obtain ⟨met, dispatched, same⟩ := step_error_of_current found faults.failed
  obtain rfl := Trouble.fault.inj same
  obtain ⟨untouched, entries, -⟩ := step_error found faults.failed
  have recorded : (before.record last instruction).program.current = .ok instruction := found
  have alike := machine.runFrom_alike .execute count
  have called := (called_kept _ _).runFrom
    ⟨le_refl machine.console.reads, le_refl machine.console.writes⟩ .execute count
  rw [← run, faults.reached] at alike called
  refine ⟨count, before, last, instruction, met, faults.reached, ?_⟩
  exact {
    found := found
    same := untouched.program.symm
    alike := alike
    called := called
    dispatched := dispatched
    raises := raises_of_dispatch recorded dispatched
    entries := entries
    placed := rfl }

end Machine

end LineScript
