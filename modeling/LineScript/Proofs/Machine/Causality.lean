import LineScript.Proofs.Journal.Numbering
import LineScript.Proofs.Machine.Frame
import LineScript.Proofs.Machine.Lockstep

/-!
Causality. What a run does depends on the lines that it has read and on no others: with more lines
to read, a run does the same until it asks for a line that was not there before.
-/

namespace LineScript

/-- Only an assignment asks for a line. -/
theorem Phase.Acts.assign_of_read {program : Program} {phase : Phase} {target : String}
    (acts : phase.Acts program (.read target)) : phase = .assign := by
  cases acts with
  | carry _ _ acts => cases acts with
    | input => rfl

namespace Machine

variable {machine after : Machine} {phase : Phase} {instruction : Option String}

/-- The machine on a fresh console with lines to read. -/
def fed (machine : Machine) (lines : List String) : Machine :=
  { machine with console := { inputs := lines } }

/-- The machine with more lines to read after its own. -/
def supplied (machine : Machine) (lines : List String) : Machine :=
  { machine with console := { machine.console with inputs := machine.console.inputs ++ lines } }

/-- Nothing disturbs the console, and its lines and calls to read add up to the lines of the
start. -/
structure Rationed (total : Nat) (machine : Machine) : Prop where
  calm : machine.console.Calm
  count : machine.console.reads + machine.console.inputs.length = total

/-- More lines make no difference until a line is read that was not there before. -/
theorem carried_supplied (lines : List String) (total : Nat) :
    Carried (supplied · lines) (Rationed total)
      (fun machine action => machine.console.inputs = [] ∧ ∃ target, action = .read target) where
  program _ := rfl
  handled _ := rfl
  journal _ := rfl
  record _ _ _ := rfl
  holds _ _ _ rationed := ⟨rationed.calm, rationed.count⟩
  perform machine action rationed := by
    obtain ⟨calm, count⟩ := rationed
    have still : (machine.supplied lines).console.Calm := ⟨calm.reads, calm.writes⟩
    cases action with
    | proceed program next => exact .inr ⟨rfl, calm, count⟩
    | read target =>
      cases held : machine.console.inputs with
      | nil => exact .inl ⟨rfl, target, rfl⟩
      | cons line rest =>
        have more : (machine.supplied lines).console.inputs = line :: (rest ++ lines) := by
          rw [supplied, held, List.cons_append]
        rw [perform, perform, Console.read_of_cons (calm.reads _) held,
          Console.read_of_cons (still.reads _) more]
        refine .inr ⟨rfl, ⟨calm.reads, calm.writes⟩, ?_⟩
        rw [held, List.length_cons] at count
        change machine.console.reads + 1 + rest.length = total
        omega
    | write text =>
      rw [perform, perform, Console.write_of_undisturbed (calm.writes _),
        Console.write_of_undisturbed (still.writes _)]
      exact .inr ⟨rfl, ⟨calm.reads, calm.writes⟩, count⟩

/-- A read beyond the last line ends a run, and with more lines it would have gone on from there. -/
theorem runFrom_beyond_lines {target : String} (lines : List String) (budget : Nat)
    (calm : machine.console.Calm) (exhausted : machine.console.inputs = [])
    (found : machine.program.current = .ok instruction) (handled : phase ∈ machine.handled)
    (planned : phase.plan machine.program = .ok (.read target)) :
    ∃ fault after, machine.runFrom phase (budget + 1) = (.stopped (.fault fault), after) ∧
      fault.message = "Input stream closed" ∧ fault.phase = some "ASSIGN" ∧
      after.console.reads = machine.console.reads + 1 ∧ after.console.inputs = [] ∧
      after.Extends ((machine.supplied lines).runFrom phase (budget + 1)).2 := by
  obtain rfl := (Phase.acts_of_plan planned).assign_of_read
  have refused := Console.read_of_nil (calm.reads _) exhausted
  have ends := Ends.stopped (step_read_error found handled planned refused)
  refine ⟨_, _, ends.runFrom budget, rfl, rfl, rfl, exhausted, ?_⟩
  have same : (machine.supplied lines).program.current = .ok instruction := found
  have longer := extends_runFrom_succ same .assign budget
  exact ⟨longer.entries, longer.events, longer.outputs⟩

/-- A run that asks for no line beyond those it has does the same with more of them. One that does
ask ends there with a fault, once it has read them all, and all that it did the run with more lines
does first. -/
theorem runs_causal (machine after : Machine) (first later : List String) (budget : Nat)
    (ending : Ending) (ran : (machine.fed first).run budget = (ending, after)) :
    (after.console.reads ≤ first.length →
      (machine.fed (first ++ later)).run budget = (ending, after.supplied later)) ∧
    (first.length < after.console.reads →
      ∃ fault other longer, ending = .stopped (.fault fault) ∧
        fault.message = "Input stream closed" ∧ fault.phase = some "ASSIGN" ∧
        after.console.reads = first.length + 1 ∧ after.console.inputs = [] ∧
        (machine.fed (first ++ later)).run budget = (other, longer) ∧ after.Extends longer) := by
  have rationed : (machine.fed first).Rationed first.length :=
    ⟨⟨fun _ => rfl, fun _ => rfl⟩, Nat.zero_add _⟩
  rw [run] at ran
  obtain ⟨phases, last, before, instruction, action, short, ⟨calm, count⟩, leads, follows, found,
    handled, planned, exhausted, target, rfl⟩ | ⟨same, -, count⟩ :=
    (carried_supplied later first.length).runFrom rationed .execute budget
  · obtain ⟨rest, rfl⟩ := Nat.exists_eq_add_of_lt short
    obtain ⟨fault, left, ended, message, place, reads, inputs, longer⟩ :=
      runFrom_beyond_lines later rest calm exhausted found handled planned
    rw [Nat.add_assoc, leads.runFrom, ended] at ran
    obtain ⟨rfl, rfl⟩ := Prod.mk.inj ran
    have asked : left.console.reads = first.length + 1 := by
      have spent : before.console.inputs = [] := exhausted
      rw [spent] at count
      exact reads.trans (congrArg (· + 1) count)
    refine ⟨fun within => absurd within (by omega), fun _ => ?_⟩
    refine ⟨fault, _, _, rfl, message, place, asked, inputs, rfl, ?_⟩
    rw [← follows.runFrom] at longer
    exact longer
  · rw [ran] at same count
    refine ⟨fun _ => same, fun beyond => ?_⟩
    have within : after.console.reads + after.console.inputs.length = first.length := count
    omega

/-- Two lines are read, and the second one is written. -/
def asksTwice : Machine where
  program := .ofListing ⟨[], ["let $x = input", "let $y = input", "output $y"]⟩
  console := { inputs := [] }

theorem asksTwice_causal :
    ∃ middle after fault other longer,
      (asksTwice.fed ["a"]).run 3 = (.paused .assign, middle) ∧
      (asksTwice.fed ["a", "b"]).run 3 = (.paused .assign, middle.supplied ["b"]) ∧
      (asksTwice.fed ["a"]).run 8 = (.stopped (.fault fault), after) ∧
      fault.message = "Input stream closed" ∧
      (asksTwice.fed ["a", "b"]).run 8 = (other, longer) ∧ after.Extends longer := by
  obtain ⟨middle, paused, within⟩ : ∃ middle,
      (asksTwice.fed ["a"]).run 3 = (.paused .assign, middle) ∧ middle.console.reads ≤ 1 :=
    ⟨_, rfl, Nat.le_refl 1⟩
  obtain ⟨ending, after, ended, beyond⟩ : ∃ ending after,
      (asksTwice.fed ["a"]).run 8 = (ending, after) ∧ 1 < after.console.reads :=
    ⟨_, _, rfl, Nat.lt_succ_self 1⟩
  have same := (runs_causal asksTwice middle ["a"] ["b"] 3 _ paused).1 within
  obtain ⟨fault, other, longer, rfl, message, -, -, -, ran, follows⟩ :=
    (runs_causal asksTwice after ["a"] ["b"] 8 ending ended).2 beyond
  exact ⟨middle, after, fault, other, longer, paused, same, ended, message, ran, follows⟩

end Machine

end LineScript
