import LineScript.Machine.Basic
import LineScript.Proofs.Machine.Work

/-!
Steps and runs. A step adds one entry to the journal and follows the plan of its phase; a run takes
one step after the other until a step ends it.
-/

namespace LineScript.Console

variable {console : Console}

theorem read_of_cons {line : String} {rest : List String}
    (undisturbed : console.readDisruption console.reads = none)
    (held : console.inputs = line :: rest) :
    console.read = (.ok line, { console with reads := console.reads + 1, inputs := rest }) := by
  simp [read, undisturbed, held]

theorem read_of_nil (undisturbed : console.readDisruption console.reads = none)
    (exhausted : console.inputs = []) :
    console.read = (.error (.closed ""), { console with reads := console.reads + 1 }) := by
  simp [read, undisturbed, exhausted]

theorem write_of_undisturbed (undisturbed : console.writeDisruption console.writes = none)
    (text : String) :
    console.write text = (.ok (), { console with
      writes := console.writes + 1, outputs := console.outputs.push text }) := by
  simp [write, undisturbed]

end LineScript.Console

namespace LineScript.Machine

variable {machine middle after : Machine} {phase next last : Phase} {instruction : Option String}

section Record

variable (machine : Machine) (phase : Phase) (instruction : Option String)

@[simp] theorem record_console : (machine.record phase instruction).console = machine.console := rfl

/-- The entry that a step adds to the journal. -/
def entry : Journal.Entry where
  step := machine.journal.next
  rule := phase.name
  ip := some machine.program.ip
  instruction := instruction
  snapshot := if machine.verbose then some machine.program.snapshot else none

theorem record_journal :
    (machine.record phase instruction).journal =
      ⟨machine.journal.entries.push (machine.entry phase instruction), machine.journal.next + 1⟩ :=
        rfl

end Record

theorem follow_journal (machine : Machine) (plan : Plan) :
    (machine.follow plan).2.journal = machine.journal := by
  rcases plan with trouble | action
  · rfl
  · cases action with
    | proceed program next => rfl
    | read target =>
      simp only [follow, perform]
      rcases machine.console.read with ⟨_ | _, console⟩ <;> rfl
    | write text =>
      simp only [follow, perform]
      rcases machine.console.write text with ⟨_ | _, console⟩ <;> rfl

theorem dispatch_of_handled (handled : phase ∈ machine.handled) :
    machine.dispatch phase = machine.follow (phase.plan machine.program) := by
  simp [dispatch, handled, Phase.work_on]

theorem dispatch_of_unhandled (unhandled : phase ∉ machine.handled) :
    machine.dispatch phase = (.error (.ofCause (.noHandler phase)), machine) := by
  simp [dispatch, unhandled]

theorem dispatch_journal (machine : Machine) (phase : Phase) :
    (machine.dispatch phase).2.journal = machine.journal := by
  by_cases handled : phase ∈ machine.handled
  · rw [dispatch_of_handled handled, follow_journal]
  · rw [dispatch_of_unhandled handled]

/-- The fault that a step makes of trouble. -/
def faultOf (machine : Machine) (phase : Phase) (instruction : Option String) (trouble : Trouble) :
    Fault :=
  trouble.toFault.locate phase machine.program.ip instruction (some machine.journal.next)

/-- A step that finds its instruction dispatches the phase on the machine with the step recorded. -/
theorem step_of_current (found : machine.program.current = .ok instruction) :
    machine.step phase =
      match (machine.record phase instruction).dispatch phase with
      | (.ok next, after) => (.ok next, after)
      | (.error trouble, after) =>
        (.error (.fault (machine.faultOf phase instruction trouble)), after) := by
  rw [step, found]
  rcases dispatched : (machine.record phase instruction).dispatch phase with ⟨trouble | next, after⟩
  · have journal : after.journal = (machine.record phase instruction).journal := by
      rw [← dispatch_journal (machine.record phase instruction) phase, dispatched]
    simp [dispatched, journal, record_journal, Journal.last?, faultOf, entry]
  · simp [dispatched]

/-- A step leaves what the phase leaves of the machine with the step recorded. -/
theorem step_snd_of_current (found : machine.program.current = .ok instruction) :
    (machine.step phase).2 = ((machine.record phase instruction).dispatch phase).2 := by
  rw [step_of_current found]
  rcases (machine.record phase instruction).dispatch phase with ⟨trouble | outcome, after⟩ <;> rfl

/-- A step fails because its phase does, and makes a fault of the trouble with it. -/
theorem step_error_of_current {trouble : Trouble}
    (found : machine.program.current = .ok instruction)
    (failed : machine.step phase = (.error trouble, after)) :
    ∃ met, (machine.record phase instruction).dispatch phase = (.error met, after) ∧
      trouble = .fault (machine.faultOf phase instruction met) := by
  rw [step_of_current found] at failed
  rcases dispatched : (machine.record phase instruction).dispatch phase with ⟨met | outcome, left⟩
  · rw [dispatched] at failed
    cases failed
    exact ⟨met, rfl, rfl⟩
  · rw [dispatched] at failed
    cases failed

/-- A step of a phase that can be carried out follows its plan. -/
theorem step_of_handled (found : machine.program.current = .ok instruction)
    (handled : phase ∈ machine.handled) :
    machine.step phase =
      match (machine.record phase instruction).follow (phase.plan machine.program) with
      | (.ok next, after) => (.ok next, after)
      | (.error trouble, after) =>
        (.error (.fault (machine.faultOf phase instruction trouble)), after) := by
  have dispatched : (machine.record phase instruction).dispatch phase =
      (machine.record phase instruction).follow (phase.plan machine.program) :=
    dispatch_of_handled handled
  rw [step_of_current found, dispatched]
  rfl

theorem step_proceed {program : Program} {outcome : Option Phase}
    (found : machine.program.current = .ok instruction) (handled : phase ∈ machine.handled)
    (planned : phase.plan machine.program = .ok (.proceed program outcome)) :
    machine.step phase = (.ok outcome, (machine.record phase instruction).withProgram program) := by
  rw [step_of_handled found handled, planned]
  rfl

/-- A step whose plan is at fault leaves its entry in the journal and nothing else. -/
theorem step_raise {trouble : Trouble} (found : machine.program.current = .ok instruction)
    (handled : phase ∈ machine.handled) (planned : phase.plan machine.program = .error trouble) :
    machine.step phase =
      (.error (.fault (machine.faultOf phase instruction trouble)),
        machine.record phase instruction) := by
  rw [step_of_handled found handled, planned]
  rfl

/-- A step fails when the action that its phase wants does. -/
theorem step_perform_error {action : Action} {trouble : Trouble}
    (found : machine.program.current = .ok instruction) (handled : phase ∈ machine.handled)
    (planned : phase.plan machine.program = .ok action)
    (failed : (machine.record phase instruction).perform action = (.error trouble, after)) :
    machine.step phase = (.error (.fault (machine.faultOf phase instruction trouble)), after) := by
  rw [step_of_handled found handled, planned, follow, failed]

section Console

variable {console : Console} {disruption : Disruption} {target line text : String}
  (found : machine.program.current = .ok instruction) (handled : phase ∈ machine.handled)

include found handled

theorem step_read (planned : phase.plan machine.program = .ok (.read target))
    (answered : machine.console.read = (.ok line, console)) :
    machine.step phase = (.ok (some .execute), { machine.record phase instruction with
      console
      events := machine.events.push (.input line)
      program := (machine.program.set target line).advance }) := by
  rw [step_of_handled found handled, planned]
  simp only [follow, perform, record_console, answered]
  rfl

theorem step_read_error (planned : phase.plan machine.program = .ok (.read target))
    (refused : machine.console.read = (.error disruption, console)) :
    machine.step phase =
      (.error (.fault (machine.faultOf phase instruction disruption.whileReading)),
        { machine.record phase instruction with console }) := by
  rw [step_of_handled found handled, planned]
  simp only [follow, perform, record_console, refused]

theorem step_write (planned : phase.plan machine.program = .ok (.write text))
    (accepted : machine.console.write text = (.ok (), console)) :
    machine.step phase = (.ok (some .execute), { machine.record phase instruction with
      console
      events := machine.events.push (.output text)
      program := machine.program.advance }) := by
  rw [step_of_handled found handled, planned]
  simp only [follow, perform, record_console, accepted]
  rfl

end Console

theorem runFrom_zero_of_current (found : machine.program.current = .ok instruction) :
    machine.runFrom phase 0 = (.paused phase, machine) := by
  rw [runFrom, found]

/-- Phases carried out one after the other, none of them the last of a run. -/
inductive Leads : Phase → Machine → List Phase → Phase → Machine → Prop where
  | here (phase : Phase) (machine : Machine) : Leads phase machine [] phase machine
  | step {phase next last : Phase} {machine middle after : Machine} {phases : List Phase}
      (taken : machine.step phase = (.ok (some next), middle))
      (rest : Leads next middle phases last after) :
      Leads phase machine (phase :: phases) last after

/-- The last step of a run. -/
inductive Ends (machine : Machine) (phase : Phase) : Ending → Machine → Prop where
  | done {after : Machine} (taken : machine.step phase = (.ok none, after)) :
      Ends machine phase .done after
  | stopped {trouble : Trouble} {after : Machine}
      (failed : machine.step phase = (.error trouble, after)) :
      Ends machine phase (.stopped trouble) after

variable {phases : List Phase} {ending : Ending} {budget : Nat}

theorem Leads.trans {more : List Phase} (first : Leads phase machine phases next middle)
    (second : Leads next middle more last after) :
    Leads phase machine (phases ++ more) last after := by
  induction first with
  | here => exact second
  | step taken _ ih => exact .step taken (ih second)

theorem Leads.runFrom (leads : Leads phase machine phases last after) (budget : Nat) :
    machine.runFrom phase (phases.length + budget) = after.runFrom last budget := by
  induction leads with
  | here => rw [List.length_nil, Nat.zero_add]
  | step taken _ ih =>
    rw [List.length_cons, Nat.add_right_comm, Machine.runFrom, taken]
    exact ih

theorem Ends.runFrom (ends : Ends machine phase ending after) (budget : Nat) :
    machine.runFrom phase (budget + 1) = (ending, after) := by
  cases ends with
  | done taken => rw [Machine.runFrom, taken]
  | stopped failed => rw [Machine.runFrom, failed]

/-- A run within a budget either ends with a step, or goes on for as many steps as the budget
allows. -/
theorem runFrom_cases (phase : Phase) (machine : Machine) (budget : Nat) :
    ∃ phases last before, Leads phase machine phases last before ∧
      ((phases.length < budget ∧
          Ends before last (machine.runFrom phase budget).1 (machine.runFrom phase budget).2) ∨
        (phases.length = budget ∧ machine.runFrom phase budget = before.runFrom last 0)) := by
  induction budget generalizing phase machine with
  | zero => exact ⟨[], phase, machine, .here phase machine, .inr ⟨rfl, rfl⟩⟩
  | succ budget ih =>
    rcases taken : machine.step phase with ⟨trouble | next, middle⟩
    · refine ⟨[], phase, machine, .here phase machine, .inl ⟨Nat.succ_pos budget, ?_⟩⟩
      rw [Machine.runFrom, taken]
      exact .stopped taken
    · cases next with
      | none =>
        refine ⟨[], phase, machine, .here phase machine, .inl ⟨Nat.succ_pos budget, ?_⟩⟩
        rw [Machine.runFrom, taken]
        exact .done taken
      | some next =>
        obtain ⟨phases, last, before, leads, ended⟩ := ih next middle
        have same : machine.runFrom phase (budget + 1) = middle.runFrom next budget := by
          rw [Machine.runFrom, taken]
        refine ⟨phase :: phases, last, before, .step taken leads, ?_⟩
        rw [same, List.length_cons]
        exact ended.imp (And.imp_left Nat.succ_lt_succ) (And.imp_left (congrArg (· + 1)))

theorem runFrom_of_current_error {mishap : Mishap} (lost : machine.program.current = .error mishap)
    (budget : Nat) : machine.runFrom phase budget = (.stopped (.mishap mishap), machine) := by
  cases budget with
  | zero => rw [runFrom, lost]
  | succ budget => rw [runFrom, step, lost]

/-- More budget does not change a run that ended. -/
theorem runFrom_stable (ended : machine.runFrom phase budget = (ending, after))
    (final : ∀ next, ending ≠ .paused next) (more : Nat) :
    machine.runFrom phase (budget + more) = (ending, after) := by
  obtain ⟨phases, last, before, leads, ⟨short, ends⟩ | ⟨same, rest⟩⟩ :=
    runFrom_cases phase machine budget
  · rw [ended] at ends
    obtain ⟨left, rfl⟩ := Nat.exists_eq_add_of_lt short
    rw [show phases.length + left + 1 + more = phases.length + (left + more + 1) by omega,
      leads.runFrom, ends.runFrom]
  · rw [ended] at rest
    cases found : before.program.current with
    | ok instruction =>
      rw [runFrom_zero_of_current found] at rest
      exact absurd (Prod.mk.inj rest).1 (final last)
    | error mishap =>
      rw [← same, leads.runFrom, rest, runFrom_of_current_error found,
        runFrom_of_current_error found]

/-- A run ends in one way only. -/
theorem runFrom_unique {other : Ending} {later : Machine} {enough : Nat}
    (ended : machine.runFrom phase budget = (ending, after))
    (again : machine.runFrom phase enough = (other, later))
    (final : ∀ next, ending ≠ .paused next) (last : ∀ next, other ≠ .paused next) :
    ending = other ∧ after = later := by
  have first := runFrom_stable ended final enough
  rw [Nat.add_comm, runFrom_stable again last budget] at first
  exact Prod.mk.inj first.symm

end LineScript.Machine
