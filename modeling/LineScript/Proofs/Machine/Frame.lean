import LineScript.Proofs.Machine.Atomicity
import LineScript.Proofs.Machine.Invariants

/-!
What no run changes: the phases that can be carried out, the disruptions of the console, and whether
the journal keeps snapshots.
-/

/-- Nothing disturbs a console. -/
structure LineScript.Console.Calm (console : LineScript.Console) : Prop where
  reads : ∀ number, console.readDisruption number = none
  writes : ∀ number, console.writeDisruption number = none

namespace LineScript.Machine

/-- What no run changes: the phases that can be carried out, and when the console is disturbed. -/
structure Alike (before after : Machine) : Prop where
  handled : after.handled = before.handled
  reads : after.console.readDisruption = before.console.readDisruption
  writes : after.console.writeDisruption = before.console.writeDisruption

theorem perform_alike (machine : Machine) (action : Action) :
    machine.Alike (machine.perform action).2 := by
  cases action with
  | proceed program next => exact ⟨rfl, rfl, rfl⟩
  | read target =>
    rcases machine.console.read_cases with ⟨line, rest, -, answered⟩ | ⟨disruption, answered⟩ <;>
      simp only [perform, answered] <;> exact ⟨rfl, rfl, rfl⟩
  | write text =>
    rcases machine.console.write_cases text with answered | ⟨disruption, answered⟩ <;>
      simp only [perform, answered] <;> exact ⟨rfl, rfl, rfl⟩

theorem alike_kept (machine : Machine) : Kept machine.Alike where
  record _ _ _ alike := ⟨alike.handled, alike.reads, alike.writes⟩
  perform later _ action alike _ :=
    have next := later.perform_alike action
    ⟨next.handled.trans alike.handled, next.reads.trans alike.reads, next.writes.trans alike.writes⟩

theorem runFrom_alike (machine : Machine) (phase : Phase) (budget : Nat) :
    machine.Alike (machine.runFrom phase budget).2 :=
  machine.alike_kept.runFrom ⟨rfl, rfl, rfl⟩ phase budget

theorem calm_kept : Kept fun machine => machine.console.Calm where
  record _ _ _ calm := calm
  perform machine _ action calm _ := by
    obtain ⟨-, reads, writes⟩ := machine.perform_alike action
    exact ⟨fun number => by rw [reads, calm.reads], fun number => by rw [writes, calm.writes]⟩

theorem verbose_kept (verbose : Bool) : Kept fun machine => machine.verbose = verbose where
  record _ _ _ same := same
  perform machine _ action same _ := by
    cases action with
    | proceed program next => exact same
    | read target => rw [perform]; split <;> exact same
    | write text => rw [perform]; split <;> exact same

end LineScript.Machine
