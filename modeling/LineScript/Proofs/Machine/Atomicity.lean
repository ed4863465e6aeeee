import LineScript.Proofs.Machine.Effects
import LineScript.Proofs.Machine.Steps

/-!
Faults are atomic: a phase that fails has done nothing, and a step that fails has added its entry to
the journal. The phases before the failing one leave no trace either, so a program that failed by
itself fails again in the same place.
-/

namespace LineScript

namespace Console

variable {console : Console}

/-- No line is left, and the console says so whenever it is asked for one. -/
def Exhausted (console : Console) : Prop :=
  console.inputs = [] ∧ ∀ call, console.reads ≤ call →
    console.readDisruption call = none ∨
      ∃ message, console.readDisruption call = some (.closed message)

theorem Exhausted.read (exhausted : console.Exhausted) :
    ∃ message,
      console.read = (.error (.closed message), { console with reads := console.reads + 1 }) := by
  obtain ⟨none_left, closed⟩ := exhausted
  rcases closed console.reads (Nat.le_refl _) with undisturbed | ⟨message, disturbed⟩
  · exact ⟨"", by rw [Console.read, undisturbed, none_left]⟩
  · exact ⟨message, by rw [Console.read, disturbed]⟩

theorem Exhausted.called (exhausted : console.Exhausted) :
    Exhausted { console with reads := console.reads + 1 } :=
  ⟨exhausted.1, fun call later => exhausted.2 call (Nat.le_of_succ_le later)⟩

/-- From one console to a later one nothing was written, and only an exhausted console was read. -/
def Blameless (before after : Console) : Prop :=
  after.writes = before.writes ∧ (after.reads = before.reads ∨ before.Exhausted)

theorem read_cases (console : Console) :
    (∃ line rest, console.inputs = line :: rest ∧
      console.read = (.ok line, { console with reads := console.reads + 1, inputs := rest })) ∨
    ∃ disruption, console.read =
      (.error disruption, { console with reads := console.reads + 1 }) := by
  rw [Console.read]
  cases console.readDisruption console.reads with
  | some disruption => exact .inr ⟨disruption, rfl⟩
  | none =>
    cases found : console.inputs with
    | nil => exact .inr ⟨.closed "", rfl⟩
    | cons line rest => exact .inl ⟨line, rest, rfl, rfl⟩

theorem write_cases (console : Console) (text : String) :
    console.write text = (.ok (), { console with
      writes := console.writes + 1, outputs := console.outputs.push text }) ∨
    ∃ disruption, console.write text = (.error disruption, { console with
      writes := console.writes + 1 }) := by
  rw [Console.write]
  cases console.writeDisruption console.writes with
  | some disruption => exact .inr ⟨disruption, rfl⟩
  | none => exact .inl rfl

end Console

namespace Machine

variable {machine middle before after : Machine} {phase next last : Phase} {trouble : Trouble}

/-- Two machines that differ at most in their journals and in how often their consoles were
called. -/
def Untouched (before after : Machine) : Prop :=
  ∃ reads writes journal,
    after = { before with console := { before.console with reads, writes }, journal }

theorem Untouched.refl (machine : Machine) : machine.Untouched machine :=
  ⟨_, _, _, rfl⟩

theorem Untouched.trans (first : before.Untouched middle) (second : middle.Untouched after) :
    before.Untouched after := by
  obtain ⟨_, _, _, rfl⟩ := first
  obtain ⟨reads, writes, journal, rfl⟩ := second
  exact ⟨reads, writes, journal, rfl⟩

theorem Untouched.record (machine : Machine) (phase : Phase) (instruction : Option String) :
    machine.Untouched (machine.record phase instruction) :=
  ⟨_, _, _, rfl⟩

theorem Untouched.program (untouched : before.Untouched after) :
    after.program = before.program := by
  obtain ⟨_, _, _, rfl⟩ := untouched
  rfl

theorem Untouched.handled (untouched : before.Untouched after) :
    after.handled = before.handled := by
  obtain ⟨_, _, _, rfl⟩ := untouched
  rfl

/-- An action fails only if the console does, and then before the rest of the action. -/
theorem perform_error_cases {action : Action}
    (failed : machine.perform action = (.error trouble, after)) :
    (∃ target, action = .read target ∧ after = { machine with
      console := { machine.console with reads := machine.console.reads + 1 } }) ∨
    ∃ text, action = .write text ∧ after = { machine with
      console := { machine.console with writes := machine.console.writes + 1 } } := by
  cases action with
  | proceed program next => simp [perform] at failed
  | read target =>
    rcases machine.console.read_cases with ⟨line, rest, -, answered⟩ | ⟨disruption, answered⟩
    · simp [perform, answered] at failed
    · simp only [perform, answered, Prod.mk.injEq] at failed
      exact .inl ⟨target, rfl, failed.2.symm⟩
  | write text =>
    rcases machine.console.write_cases text with answered | ⟨disruption, answered⟩
    · simp [perform, answered] at failed
    · simp only [perform, answered, Prod.mk.injEq] at failed
      exact .inr ⟨text, rfl, failed.2.symm⟩

theorem perform_error {action : Action}
    (failed : machine.perform action = (.error trouble, after)) :
    machine.Untouched after ∧ after.journal = machine.journal := by
  obtain ⟨target, -, rfl⟩ | ⟨text, -, rfl⟩ := perform_error_cases failed
  · exact ⟨⟨_, _, _, rfl⟩, rfl⟩
  · exact ⟨⟨_, _, _, rfl⟩, rfl⟩

/-- An action that asks the console ends its instruction. -/
theorem perform_ok {action : Action} {outcome : Option Phase}
    (performed : machine.perform action = (.ok outcome, after)) :
    outcome = some .execute ∨
      ∃ program, action = .proceed program outcome ∧ after = machine.withProgram program := by
  cases action with
  | proceed program next =>
    simp only [perform, Prod.mk.injEq, Except.ok.injEq] at performed
    obtain ⟨rfl, rfl⟩ := performed
    exact .inr ⟨program, rfl, rfl⟩
  | read target =>
    rcases machine.console.read_cases with ⟨line, rest, -, answered⟩ | ⟨disruption, answered⟩
    · simp only [perform, answered, Prod.mk.injEq, Except.ok.injEq] at performed
      exact .inl performed.1.symm
    · simp [perform, answered] at performed
  | write text =>
    rcases machine.console.write_cases text with answered | ⟨disruption, answered⟩
    · simp only [perform, answered, Prod.mk.injEq, Except.ok.injEq] at performed
      exact .inl performed.1.symm
    · simp [perform, answered] at performed

/-- An exhausted console stays exhausted, so every read comes to the same. -/
theorem perform_read_exhausted (exhausted : machine.console.Exhausted) (target : String) :
    ∃ after, machine.perform (.read target) = (.error (.ofCause .inputClosed), after) ∧
      after.console.Exhausted := by
  obtain ⟨message, closed⟩ := exhausted.read
  simp only [perform, closed]
  exact ⟨_, rfl, exhausted.called⟩

theorem dispatch_error (failed : machine.dispatch phase = (.error trouble, after)) :
    machine.Untouched after ∧ after.journal = machine.journal := by
  by_cases handled : phase ∈ machine.handled
  · rw [dispatch_of_handled handled] at failed
    cases planned : phase.plan machine.program with
    | ok action =>
      rw [planned, follow] at failed
      exact perform_error failed
    | error met =>
      rw [planned, follow, Prod.mk.injEq] at failed
      obtain ⟨-, rfl⟩ := failed
      exact ⟨.refl machine, rfl⟩
  · rw [dispatch_of_unhandled handled, Prod.mk.injEq] at failed
    obtain ⟨-, rfl⟩ := failed
    exact ⟨.refl machine, rfl⟩

/-- A step that fails at a position inside the code leaves one entry in the journal, and its trouble
is a fault. -/
theorem step_error {instruction : Option String} (found : machine.program.current = .ok instruction)
    (failed : machine.step phase = (.error trouble, after)) :
    machine.Untouched after ∧
      after.journal.entries = machine.journal.entries.push (machine.entry phase instruction) ∧
      ∃ met, trouble = .fault (machine.faultOf phase instruction met) := by
  obtain ⟨met, dispatched, rfl⟩ := step_error_of_current found failed
  obtain ⟨untouched, journal⟩ := dispatch_error dispatched
  refine ⟨(Untouched.record machine phase instruction).trans untouched, ?_, met, rfl⟩
  rw [journal, record_journal]

/-- What a step that succeeds went by. -/
theorem step_ok {outcome : Option Phase} (taken : machine.step phase = (.ok outcome, after)) :
    ∃ instruction action, machine.program.current = .ok instruction ∧ phase ∈ machine.handled ∧
      phase.plan machine.program = .ok action ∧
      (machine.record phase instruction).perform action = (.ok outcome, after) := by
  cases found : machine.program.current with
  | error mishap => simp [step, found] at taken
  | ok instruction =>
    by_cases handled : phase ∈ machine.handled
    · rw [step_of_handled found handled] at taken
      cases planned : phase.plan machine.program with
      | error met => simp [planned, follow] at taken
      | ok action =>
        rw [planned, follow] at taken
        refine ⟨instruction, action, rfl, handled, rfl, ?_⟩
        rcases performed : (machine.record phase instruction).perform action with
            ⟨met | other, left⟩
        · simp [performed] at taken
        · simpa [performed] using taken
    · have unhandled : phase ∉ (machine.record phase instruction).handled := handled
      rw [step_of_current found, dispatch_of_unhandled unhandled] at taken
      simp at taken

/-- How a phase is reached from the start of its instruction: the phases before it hand the program
on as it is. -/
inductive Routed (machine : Machine) : Phase → Prop where
  | start : Routed machine .execute
  | pass {phase next : Phase} (routed : Routed machine phase) (handled : phase ∈ machine.handled)
      (planned : phase.plan machine.program = .ok (.proceed machine.program (some next))) :
      Routed machine next

theorem Routed.of_untouched (routed : machine.Routed phase) (untouched : machine.Untouched after) :
    after.Routed phase := by
  obtain ⟨_, _, _, rfl⟩ := untouched
  induction routed with
  | start => exact .start
  | pass _ handled planned ih => exact .pass ih handled planned

/-- A step hands its phase on, or it ends the instruction and the next one starts. -/
theorem Routed.step (routed : machine.Routed phase)
    (taken : machine.step phase = (.ok (some next), after)) : after.Routed next := by
  obtain ⟨instruction, action, -, handled, planned, performed⟩ := step_ok taken
  by_cases begins : next = .execute
  · subst begins
    exact .start
  · rcases perform_ok performed with same | ⟨program, rfl, rfl⟩
    · exact absurd (Option.some.inj same) begins
    · obtain rfl := (Phase.acts_of_plan planned).pass begins
      exact (Routed.pass routed handled planned).of_untouched (.record machine phase instruction)

theorem Leads.routed {phases : List Phase} (leads : Leads phase machine phases last after)
    (routed : machine.Routed phase) : after.Routed last := by
  induction leads with
  | here => exact routed
  | step taken _ ih => exact ih (routed.step taken)

/-- A later machine has only a longer journal. -/
def Logged (before after : Machine) : Prop :=
  ∃ journal entries, after = { before with journal } ∧
    journal.entries = before.journal.entries ++ entries

theorem Logged.refl (machine : Machine) : machine.Logged machine :=
  ⟨machine.journal, #[], rfl, by simp⟩

theorem Logged.record (logged : before.Logged after) (phase : Phase) (instruction : Option String) :
    before.Logged (after.record phase instruction) := by
  obtain ⟨journal, entries, rfl, longer⟩ := logged
  let later : Machine := { before with journal }
  refine ⟨(later.record phase instruction).journal, entries.push (later.entry phase instruction),
    rfl, ?_⟩
  rw [record_journal, Array.append_push, ← longer]

theorem Logged.untouched (logged : before.Logged after) : before.Untouched after := by
  obtain ⟨journal, entries, rfl, -⟩ := logged
  exact ⟨_, _, _, rfl⟩

theorem Logged.console (logged : before.Logged after) : after.console = before.console := by
  obtain ⟨journal, entries, rfl, -⟩ := logged
  rfl

theorem Logged.entries (logged : before.Logged after) :
    ∃ entries, after.journal.entries = before.journal.entries ++ entries := by
  obtain ⟨journal, entries, rfl, longer⟩ := logged
  exact ⟨entries, longer⟩

/-- A phase that was reached once is reached again from the start of the instruction. -/
theorem Routed.leads {instruction : Option String}
    (found : machine.program.current = .ok instruction) (routed : machine.Routed phase) :
    ∃ phases after, Leads .execute machine phases phase after ∧ machine.Logged after := by
  induction routed with
  | start => exact ⟨[], machine, .here .execute machine, .refl machine⟩
  | @pass phase next _ handled planned ih =>
    obtain ⟨phases, middle, leads, logged⟩ := ih
    have taken : middle.step phase = (.ok (some next), middle.record phase instruction) := by
      obtain ⟨journal, entries, rfl, -⟩ := logged
      exact step_proceed found handled planned
    exact ⟨phases ++ [phase], _, leads.trans (.step taken (.here _ _)),
      logged.record phase instruction⟩

/-- Trouble that is not owed to the console comes up again on a machine with the same program. -/
theorem dispatch_again {other : Machine} (failed : machine.dispatch phase = (.error trouble, after))
    (blameless : machine.console.Blameless after.console)
    (program : other.program = machine.program)
    (handled : other.handled = machine.handled) (console : other.console = after.console) :
    ∃ left, other.dispatch phase = (.error trouble, left) := by
  by_cases listed : phase ∈ machine.handled
  · rw [dispatch_of_handled listed] at failed
    rw [dispatch_of_handled (handled ▸ listed), program]
    cases planned : phase.plan machine.program with
    | error met =>
      rw [planned, follow, Prod.mk.injEq] at failed
      exact ⟨other, by rw [follow, failed.1]⟩
    | ok action =>
      rw [planned, follow] at failed
      rw [follow]
      obtain ⟨target, rfl, same⟩ | ⟨text, rfl, same⟩ := perform_error_cases failed
      · have called : after.console.reads ≠ machine.console.reads := by
          rw [same]
          exact Nat.succ_ne_self machine.console.reads
        have exhausted := blameless.2.resolve_left called
        obtain ⟨final, closed, still⟩ := perform_read_exhausted exhausted target
        obtain ⟨raised, rfl⟩ := Prod.mk.inj (closed.symm.trans failed)
        obtain rfl := Except.error.inj raised
        obtain ⟨left, again, -⟩ := perform_read_exhausted (console ▸ still) target
        exact ⟨left, again⟩
      · have called : after.console.writes ≠ machine.console.writes := by
          rw [same]
          exact Nat.succ_ne_self machine.console.writes
        exact absurd blameless.1 called
  · rw [dispatch_of_unhandled listed, Prod.mk.injEq] at failed
    exact ⟨other, by rw [dispatch_of_unhandled (handled ▸ listed), failed.1]⟩

/-- A run takes so many steps to a machine whose next step ends it with a fault. -/
structure FaultsAt (machine : Machine) (count : Nat) (last : Phase) (before : Machine)
    (fault : Fault) (after : Machine) : Prop where
  reached : machine.run count = (.paused last, before)
  failed : before.step last = (.error (.fault fault), after)

variable {count budget : Nat} {fault : Fault}

theorem current_of_fault (failed : machine.step phase = (.error (.fault fault), after)) :
    ∃ instruction, machine.program.current = .ok instruction := by
  cases found : machine.program.current with
  | error mishap => simp [step, found] at failed
  | ok instruction => exact ⟨instruction, rfl⟩

/-- The steps of a pause are steps that succeeded. -/
theorem leads_of_paused (paused : machine.runFrom phase count = (.paused last, after)) :
    ∃ phases, Leads phase machine phases last after ∧ phases.length = count := by
  obtain ⟨phases, final, before, leads, ⟨-, ends⟩ | ⟨size, same⟩⟩ :=
    runFrom_cases phase machine count
  · rw [paused] at ends
    cases ends
  · rw [paused, runFrom] at same
    split at same
    · simp at same
    · obtain ⟨⟨rfl⟩, rfl⟩ := Prod.mk.inj same
      exact ⟨phases, leads, size⟩

/-- A run goes on from where it paused. -/
theorem runFrom_add_of_paused (paused : machine.runFrom phase count = (.paused last, after))
    (more : Nat) : machine.runFrom phase (count + more) = after.runFrom last more := by
  obtain ⟨phases, leads, rfl⟩ := leads_of_paused paused
  exact leads.runFrom more

/-- The last step before a pause was taken where the run would have paused a step earlier. -/
theorem step_of_paused (paused : machine.runFrom phase (count + 1) = (.paused last, after)) :
    ∃ next before, machine.runFrom phase count = (.paused next, before) ∧
      before.step next = (.ok (some last), after) := by
  induction count generalizing machine phase with
  | zero =>
    rw [runFrom] at paused
    rcases taken : machine.step phase with ⟨trouble | _ | next, middle⟩ <;> rw [taken] at paused
    · cases paused
    · cases paused
    · obtain ⟨instruction, action, found, -⟩ := step_ok taken
      simp only [runFrom] at paused
      split at paused <;> cases paused
      exact ⟨phase, machine, runFrom_zero_of_current found, taken⟩
  | succ count ih =>
    rw [runFrom] at paused
    rcases taken : machine.step phase with ⟨trouble | _ | next, middle⟩ <;> rw [taken] at paused
    · cases paused
    · cases paused
    · rw [runFrom, taken]
      exact ih paused

/-- A fault that ends a run is the fault of its last step. -/
theorem faultsAt_of_run (ended : machine.run budget = (.stopped (.fault fault), after)) :
    ∃ count last before, count < budget ∧ machine.FaultsAt count last before fault after := by
  obtain ⟨phases, last, before, leads, ⟨short, ends⟩ | ⟨-, same⟩⟩ :=
    runFrom_cases .execute machine budget
  · rw [← run, ended] at ends
    cases ends with
    | stopped failed =>
      obtain ⟨instruction, found⟩ := current_of_fault failed
      refine ⟨phases.length, last, before, short, ?_, failed⟩
      rw [run, ← Nat.add_zero phases.length, leads.runFrom 0, runFrom_zero_of_current found]
  · rw [← run, ended, runFrom] at same
    split at same <;> simp at same

/-- A fault on the same program has the same place, but for the number of the step. -/
theorem faultOf_again {other : Machine} (same : other.program = machine.program) (phase : Phase)
    (instruction : Option String) (trouble : Trouble) :
    other.faultOf phase instruction trouble =
      { machine.faultOf phase instruction trouble with
        step := (other.faultOf phase instruction trouble).step } := by
  simp [faultOf, Fault.locate, same]

theorem step_again {other : Machine} (failed : machine.step phase = (.error (.fault fault), after))
    (blameless : machine.console.Blameless after.console)
    (program : other.program = machine.program)
    (handled : other.handled = machine.handled) (console : other.console = after.console) :
    ∃ number left, other.step phase = (.error (.fault { fault with step := number }), left) := by
  obtain ⟨instruction, found⟩ := current_of_fault failed
  rw [step_of_current found] at failed
  rcases dispatched : (machine.record phase instruction).dispatch phase with ⟨met | outcome, left⟩
  · rw [dispatched] at failed
    simp only [Prod.mk.injEq, Except.error.injEq, Trouble.fault.injEq] at failed
    obtain ⟨rfl, rfl⟩ := failed
    obtain ⟨final, again⟩ : ∃ final,
        (other.record phase instruction).dispatch phase = (.error met, final) :=
      dispatch_again dispatched blameless program handled console
    refine ⟨(other.faultOf phase instruction met).step, final, ?_⟩
    rw [step_of_current (program ▸ found), again, ← faultOf_again program]
  · rw [dispatched] at failed
    simp at failed

/-- A program that failed by itself fails again, with the same fault but for the number of the
step. -/
theorem FaultsAt.again (faults : machine.FaultsAt count last before fault after)
    (blameless : before.console.Blameless after.console) :
    ∃ steps number again, (∀ more, after.run (steps + more) =
        (.stopped (.fault { fault with step := number }), again)) ∧
      after.Untouched again ∧
        ∃ entries, again.journal.entries = after.journal.entries ++ entries := by
  obtain ⟨instruction, found⟩ := current_of_fault faults.failed
  obtain ⟨untouched, -, -⟩ := step_error found faults.failed
  obtain ⟨_, leads, -⟩ := leads_of_paused faults.reached
  have routed := (leads.routed .start).of_untouched untouched
  rw [← untouched.program] at found
  obtain ⟨phases, retraced, leads, logged⟩ := routed.leads found
  have same := logged.untouched
  obtain ⟨number, again, failed⟩ := step_again faults.failed blameless
    (same.program.trans untouched.program) (same.handled.trans untouched.handled) logged.console
  rw [← same.program] at found
  obtain ⟨still, pushed, -⟩ := step_error found failed
  obtain ⟨entries, longer⟩ := logged.entries
  refine ⟨phases.length + 1, number, again, fun more => ?_, same.trans still, ?_⟩
  · rw [run, Nat.add_assoc, leads.runFrom, Nat.add_comm 1, (Ends.stopped failed).runFrom]
  · exact ⟨_, pushed.trans (by rw [longer, ← Array.append_push])⟩

/-- Trouble leaves everything but the journal as it was, and a program that fails by itself fails
again in the same way. -/
theorem faults_atomic :
    (∀ (machine after : Machine) (phase : Phase) (trouble : Trouble),
      machine.dispatch phase = (.error trouble, after) →
        machine.Untouched after ∧ after.journal = machine.journal) ∧
    (∀ (machine after : Machine) (phase : Phase) (trouble : Trouble),
      -(machine.program.code.length : Int) ≤ machine.program.ip →
      machine.step phase = (.error trouble, after) →
        machine.Untouched after ∧ (∃ fault, trouble = .fault fault) ∧
          ∃ entry, after.journal.entries = machine.journal.entries.push entry) ∧
    (∀ (machine after : Machine) (budget : Nat) (fault : Fault),
      machine.run budget = (.stopped (.fault fault), after) →
        ∃ count last before, count < budget ∧ machine.FaultsAt count last before fault after) ∧
    ∀ (machine before after : Machine) (count : Nat) (last : Phase) (fault : Fault),
      machine.FaultsAt count last before fault after → before.console.Blameless after.console →
        ∃ steps number again,
          (∀ more, after.run (steps + more) =
            (.stopped (.fault { fault with step := number }), again)) ∧
          after.Untouched again ∧
          ∃ entries, again.journal.entries = after.journal.entries ++ entries := by
  refine ⟨?dispatch, ?step, ?run, ?again⟩
  case dispatch =>
    intro machine after phase trouble failed
    exact dispatch_error failed
  case step =>
    intro machine after phase trouble inside failed
    obtain ⟨instruction, found⟩ := Program.current_of_inside inside
    obtain ⟨untouched, pushed, met, rfl⟩ := step_error found failed
    exact ⟨untouched, ⟨_, rfl⟩, _, pushed⟩
  case run =>
    intro machine after budget fault ended
    exact faultsAt_of_run ended
  case again =>
    intro machine before after count last fault faults blameless
    exact faults.again blameless

/-- A division by zero is found in the third step, and again when the program is run again. -/
def halfDone : Machine where
  program := ⟨["let $q = $a / $b"], .ofList [("a", "7"), ("b", "0")], ["left"], 0⟩
  console := { inputs := ["unread"] }

theorem halfDone_faults_again :
    ∃ before after fault, halfDone.FaultsAt 2 .arithmetic before fault after ∧
      fault.cause = .divisionByZero ∧ ∃ steps number again,
        (∀ more, after.run (steps + more) =
          (.stopped (.fault { fault with step := number }), again)) ∧
        after.Untouched again ∧
        ∃ entries, again.journal.entries = after.journal.entries ++ entries := by
  have faults : halfDone.FaultsAt 2 .arithmetic (halfDone.run 2).2
      { cause := .divisionByZero, phase := some "MATH", ip := some 0,
        instruction := some "let $q = $a / $b", step := some 3 }
      ((halfDone.run 2).2.step .arithmetic).2 :=
    ⟨rfl, rfl⟩
  exact ⟨_, _, _, faults, rfl, faults_atomic.2.2.2 _ _ _ _ _ _ faults ⟨rfl, .inl rfl⟩⟩

end Machine

end LineScript
