import LineScript.Proofs.Machine.Effects
import LineScript.Proofs.Machine.Steps

/-!
Invariants of runs. What an entry in the journal does not touch and every action that a phase wants
keeps is kept by phases, by steps and by runs, whether they end well or not.
-/

namespace LineScript.Machine

/-- A property of machines that recording a step keeps, and every action that a phase wants. -/
structure Kept (Holds : Machine → Prop) : Prop where
  record : ∀ (machine : Machine) (phase : Phase) (instruction : Option String),
    Holds machine → Holds (machine.record phase instruction)
  perform : ∀ (machine : Machine) (phase : Phase) (action : Action),
    Holds machine → phase.Acts machine.program action → Holds (machine.perform action).2

/-- What every step keeps, whether it is completed or fails, every run keeps. -/
theorem runFrom_of_steps {Holds : Machine → Prop} {machine : Machine}
    (steps : ∀ (machine : Machine) (phase : Phase), Holds machine → Holds (machine.step phase).2)
    (holds : Holds machine) (phase : Phase) (budget : Nat) :
    Holds (machine.runFrom phase budget).2 := by
  induction budget generalizing machine phase with
  | zero =>
    rw [runFrom]
    split <;> exact holds
  | succ budget ih =>
    have still := steps machine phase holds
    rw [runFrom]
    rcases taken : machine.step phase with ⟨trouble | _ | next, after⟩ <;> rw [taken] at still
    · exact still
    · exact still
    · exact ih still next

namespace Kept

variable {Holds : Machine → Prop} {machine : Machine}

theorem and {Also : Machine → Prop} (kept : Kept Holds) (also : Kept Also) :
    Kept fun machine => Holds machine ∧ Also machine where
  record machine phase instruction holds :=
    ⟨kept.record machine phase instruction holds.1, also.record machine phase instruction holds.2⟩
  perform machine phase action holds acts :=
    ⟨kept.perform machine phase action holds.1 acts, also.perform machine phase action holds.2 acts⟩

theorem dispatch (kept : Kept Holds) (holds : Holds machine) (phase : Phase) :
    Holds (machine.dispatch phase).2 := by
  by_cases handled : phase ∈ machine.handled
  · rw [dispatch_of_handled handled]
    cases planned : phase.plan machine.program with
    | error trouble => exact holds
    | ok action => exact kept.perform machine phase action holds (Phase.acts_of_plan planned)
  · rw [dispatch_of_unhandled handled]
    exact holds

theorem step (kept : Kept Holds) (holds : Holds machine) (phase : Phase) :
    Holds (machine.step phase).2 := by
  cases found : machine.program.current with
  | error mishap =>
    rw [Machine.step, found]
    exact holds
  | ok instruction =>
    rw [step_snd_of_current found]
    exact kept.dispatch (kept.record machine phase instruction holds) phase

theorem leads {after : Machine} {phase last : Phase} {phases : List Phase} (kept : Kept Holds)
    (holds : Holds machine) (leads : Leads phase machine phases last after) : Holds after := by
  induction leads with
  | here => exact holds
  | @step phase _ _ _ _ _ _ taken _ ih =>
    have still := kept.step holds phase
    rw [taken] at still
    exact ih still

theorem runFrom (kept : Kept Holds) (holds : Holds machine) (phase : Phase) (budget : Nat) :
    Holds (machine.runFrom phase budget).2 := by
  have steps (machine : Machine) (phase : Phase) (holds : Holds machine) :
      Holds (machine.step phase).2 :=
    kept.step holds phase
  exact runFrom_of_steps steps holds phase budget

/-- What every machine is related to in a way that steps keep, it is related to with more budget. -/
theorem runFrom_add {Related : Machine → Machine → Prop} (kept : ∀ before, Kept (Related before))
    (refl : ∀ machine, Related machine machine) (machine : Machine) (phase : Phase)
    (budget more : Nat) :
    Related (machine.runFrom phase budget).2 (machine.runFrom phase (budget + more)).2 := by
  induction budget generalizing machine phase with
  | zero =>
    have related := (kept machine).runFrom (refl machine) phase more
    rw [Nat.zero_add, Machine.runFrom]
    split <;> exact related
  | succ budget ih =>
    rw [Nat.add_right_comm, Machine.runFrom, Machine.runFrom]
    rcases machine.step phase with ⟨trouble | _ | next, after⟩
    · exact refl after
    · exact refl after
    · exact ih after next

end Kept

end LineScript.Machine
