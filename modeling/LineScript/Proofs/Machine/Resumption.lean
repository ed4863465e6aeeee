import Mathlib.Logic.Function.Basic
import LineScript.Proofs.Machine.Frame
import LineScript.Proofs.Machine.Lockstep

/-!
Resumption. A run that a failing call of the console stops is taken up where it stopped when the
program is run again: it ends as it would have ended without the failure, and nothing is read,
bound, said or written twice or not at all.
-/

namespace LineScript

/-- One call of a console; reads and writes are counted apart, from zero. -/
inductive Console.Call where
  | read (number : Nat)
  | write (number : Nat)
  deriving DecidableEq, Repr

namespace Console

variable {console : Console} {call : Call} {disruption : Disruption}

/-- The console with a disruption of one call. -/
def failing (console : Console) (disruption : Disruption) : Call → Console
  | .read number => { console with
      readDisruption := Function.update console.readDisruption number (some disruption) }
  | .write number => { console with
      writeDisruption := Function.update console.writeDisruption number (some disruption) }

/-- A call has been made. -/
def Reached (console : Console) : Call → Prop
  | .read number => number < console.reads
  | .write number => number < console.writes

theorem reached_failing :
    (console.failing disruption call).Reached call ↔ console.Reached call := by
  cases call <;> rfl

/-- A read is answered by the disruption of its own number only. -/
theorem read_congr {reads : Nat → Option Disruption} (writes : Nat → Option Disruption)
    (same : reads console.reads = console.readDisruption console.reads) :
    { console with readDisruption := reads, writeDisruption := writes }.read =
      (console.read.1,
        { console.read.2 with readDisruption := reads, writeDisruption := writes }) := by
  simp only [read, same]
  split <;> rfl

theorem write_congr (reads : Nat → Option Disruption) {writes : Nat → Option Disruption}
    (text : String) (same : writes console.writes = console.writeDisruption console.writes) :
    { console with readDisruption := reads, writeDisruption := writes }.write text =
      ((console.write text).1,
        { (console.write text).2 with readDisruption := reads, writeDisruption := writes }) := by
  simp only [write, same]
  split <;> rfl

theorem read_moved (console : Console) :
    console.read.2.reads = console.reads + 1 ∧ console.read.2.writes = console.writes ∧
      console.read.2.readDisruption = console.readDisruption ∧
      console.read.2.writeDisruption = console.writeDisruption := by
  rcases console.read_cases with ⟨line, rest, -, answered⟩ | ⟨disruption, answered⟩ <;>
    rw [answered] <;> exact ⟨rfl, rfl, rfl, rfl⟩

theorem write_moved (console : Console) (text : String) :
    (console.write text).2.reads = console.reads ∧
    (console.write text).2.writes = console.writes + 1 ∧
      (console.write text).2.readDisruption = console.readDisruption ∧
      (console.write text).2.writeDisruption = console.writeDisruption := by
  rcases console.write_cases text with answered | ⟨disruption, answered⟩ <;>
    rw [answered] <;> exact ⟨rfl, rfl, rfl, rfl⟩

/-- A read that is not the one to fail is answered as on the console without failures. -/
theorem failing_read (disruption : Disruption) (ahead : ¬ console.Reached call)
    (other : call ≠ .read console.reads) :
    (console.failing disruption call).read =
        (console.read.1, console.read.2.failing disruption call) ∧
      ¬ console.read.2.Reached call := by
  obtain ⟨reads, writes, reading, writing⟩ := console.read_moved
  cases call with
  | read number =>
    have apart : console.reads ≠ number := fun same => other (congrArg Call.read same.symm)
    refine ⟨?_, ?_⟩
    · rw [failing, failing, reading]
      refine (read_congr console.writeDisruption (Function.update_of_ne apart _ _)).trans ?_
      rw [← writing]
    · simp only [Reached, reads] at ahead ⊢
      omega
  | write number =>
    refine ⟨?_, ?_⟩
    · rw [failing, failing, writing]
      refine (read_congr (Function.update console.writeDisruption number _) rfl).trans ?_
      rw [← reading]
    · rwa [Reached, writes]

theorem failing_write (disruption : Disruption) (text : String) (ahead : ¬ console.Reached call)
    (other : call ≠ .write console.writes) :
    (console.failing disruption call).write text =
        ((console.write text).1, (console.write text).2.failing disruption call) ∧
      ¬ (console.write text).2.Reached call := by
  obtain ⟨reads, writes, reading, writing⟩ := console.write_moved text
  cases call with
  | read number =>
    refine ⟨?_, ?_⟩
    · rw [failing, failing, reading]
      refine (write_congr (Function.update console.readDisruption number _) text rfl).trans ?_
      rw [← writing]
    · rwa [Reached, reads]
  | write number =>
    have apart : console.writes ≠ number := fun same => other (congrArg Call.write same.symm)
    refine ⟨?_, ?_⟩
    · rw [failing, failing, writing]
      refine (write_congr console.readDisruption text (Function.update_of_ne apart _ _)).trans ?_
      rw [← reading]
    · simp only [Reached, writes] at ahead ⊢
      omega

/-- The read that fails leaves what follows on the console as it was. -/
theorem Calm.failed_read (calm : console.Calm) (disruption : Disruption) :
    ∃ after, (console.failing disruption (.read console.reads)).read = (.error disruption, after) ∧
      console.Agrees after := by
  refine ⟨{ console.failing disruption (.read console.reads) with reads := console.reads + 1 }, ?_,
    rfl, rfl, fun later => ?_, fun later => rfl⟩
  · simp only [read, failing, Function.update_self]
  · have apart : console.reads + 1 + later ≠ console.reads := by omega
    rw [calm.reads]
    exact (Function.update_of_ne apart _ _).trans (calm.reads _)

theorem Calm.failed_write (calm : console.Calm) (disruption : Disruption) (text : String) :
    ∃ after,
      (console.failing disruption (.write console.writes)).write text = (.error disruption, after) ∧
      console.Agrees after := by
  refine ⟨{ console.failing disruption (.write console.writes) with writes := console.writes + 1 },
    ?_, rfl, rfl, fun later => rfl, fun later => ?_⟩
  · simp only [write, failing, Function.update_self]
  · have apart : console.writes + 1 + later ≠ console.writes := by omega
    rw [calm.writes]
    exact (Function.update_of_ne apart _ _).trans (calm.writes _)

end Console

/-- The action makes a call of the console. -/
def Action.Asks (console : Console) (call : Console.Call) : Action → Prop
  | .proceed .. => False
  | .read _ => call = .read console.reads
  | .write _ => call = .write console.writes

namespace Machine

variable {machine other before after final : Machine} {phase : Phase} {call : Console.Call}
  {disruption : Disruption}

/-- The machine on a console with a disruption of one call. -/
def failing (machine : Machine) (disruption : Disruption) (call : Console.Call) : Machine :=
  { machine with console := machine.console.failing disruption call }

theorem carried_failing (disruption : Disruption) (call : Console.Call) :
    Carried (failing · disruption call) (fun machine => ¬ machine.console.Reached call)
      (fun machine action => action.Asks machine.console call) where
  program _ := rfl
  handled _ := rfl
  journal _ := rfl
  record _ _ _ := rfl
  holds _ _ _ ahead := ahead
  perform machine action ahead := by
    refine or_iff_not_imp_left.mpr fun other => ?_
    cases action with
    | proceed program next => exact ⟨rfl, ahead⟩
    | read target =>
      obtain ⟨answered, still⟩ := Console.failing_read disruption ahead other
      simp only [perform, failing, answered]
      rcases asked : machine.console.read with ⟨_ | line, left⟩ <;> rw [asked] at still <;>
        exact ⟨rfl, still⟩
    | write text =>
      obtain ⟨answered, still⟩ := Console.failing_write disruption text ahead other
      simp only [perform, failing, answered]
      rcases asked : machine.console.write text with ⟨_ | _, left⟩ <;> rw [asked] at still <;>
        exact ⟨rfl, still⟩

/-- The action that makes the failing call does nothing but fail. -/
theorem perform_failing {action : Action} (calm : machine.console.Calm)
    (asks : action.Asks machine.console call) :
    ∃ trouble after, (machine.failing disruption call).perform action = (.error trouble, after) ∧
      machine.Agrees after := by
  cases action with
  | proceed program next => exact asks.elim
  | read target =>
    obtain rfl := asks
    obtain ⟨after, failed, agrees⟩ := calm.failed_read disruption
    simp only [perform, failing, failed]
    exact ⟨_, _, rfl, rfl, agrees, rfl, rfl⟩
  | write text =>
    obtain rfl := asks
    obtain ⟨after, failed, agrees⟩ := calm.failed_write disruption text
    simp only [perform, failing, failed]
    exact ⟨_, _, rfl, rfl, agrees, rfl, rfl⟩

theorem Logged.agrees (logged : machine.Logged after) : machine.Agrees after := by
  obtain ⟨journal, entries, rfl, -⟩ := logged
  exact ⟨rfl, ⟨rfl, rfl, fun _ => rfl, fun _ => rfl⟩, rfl, rfl⟩

theorem Routed.of_agrees (routed : machine.Routed phase) (agrees : machine.Agrees after) :
    after.Routed phase := by
  induction routed with
  | start => exact .start
  | pass _ handled planned ih =>
    refine ih.pass (agrees.handled ▸ handled) ?_
    rw [agrees.program, planned]

/-- A run that the failing call stops leaves a machine that goes through the phases of the
instruction again and then agrees with the one that made the call. -/
theorem retraced_of_stopped {budget : Nat} {trouble : Trouble} (calm : machine.console.Calm)
    (unreached : ¬ machine.console.Reached call)
    (stopped : (machine.failing disruption call).run budget = (.stopped trouble, after))
    (reached : after.console.Reached call) :
    ∃ phases last before again retraced, Leads .execute machine phases last before ∧
      Leads .execute after again last retraced ∧ before.Agrees retraced := by
  obtain ⟨phases, last, before, instruction, action, short, -, leads, follows, found, handled,
      planned, asks⟩ | ⟨same, ahead⟩ :=
    (carried_failing disruption call).runFrom unreached .execute budget
  · have still := calm_kept.record before last instruction (calm_kept.leads calm leads)
    obtain ⟨met, left, failed, agrees⟩ : ∃ met left,
        ((before.failing disruption call).record last instruction).perform action =
          (.error met, left) ∧
          (before.record last instruction).Agrees left :=
      perform_failing still asks
    have ends : Ends (before.failing disruption call) last
        (.stopped (.fault ((before.failing disruption call).faultOf last instruction met))) left :=
      .stopped (step_perform_error found handled planned failed)
    obtain ⟨rest, rfl⟩ := Nat.exists_eq_add_of_lt short
    rw [run, Nat.add_assoc, follows.runFrom, ends.runFrom] at stopped
    obtain ⟨-, rfl⟩ := Prod.mk.inj stopped
    have agrees : before.Agrees left :=
      ⟨agrees.program, agrees.console, agrees.events, agrees.handled⟩
    have found : left.program.current = .ok instruction := agrees.program ▸ found
    have routed : left.Routed last := (leads.routed .start).of_agrees agrees
    obtain ⟨again, retraced, returns, logged⟩ := routed.leads found
    exact ⟨phases, last, before, again, retraced, leads, returns, agrees.trans logged.agrees⟩
  · rw [run, same] at stopped
    obtain ⟨-, rfl⟩ := Prod.mk.inj stopped
    exact absurd (Console.reached_failing.mp reached) ahead

/-- A run that one failing call of the console stops is taken up exactly where it stopped: run
again, the program ends as it would have ended without the failure, but for the numbers of the
steps. -/
theorem resumes_exactly (machine after final : Machine) (call : Console.Call)
    (disruption : Disruption)
    (budget enough : Nat) (trouble : Trouble) (ending : Ending) (calm : machine.console.Calm)
    (unreached : ¬ machine.console.Reached call)
    (stopped : (machine.failing disruption call).run budget = (.stopped trouble, after))
    (reached : after.console.Reached call)
    (ended : machine.run enough = (ending, final)) (settled : ∀ phase, ending ≠ .paused phase) :
    ∃ steps other again, (∀ more, after.run (steps + more) = (other, again)) ∧
      other.unnumbered = ending.unnumbered ∧ again.program = final.program ∧
      again.console.inputs = final.console.inputs ∧ again.console.outputs = final.console.outputs ∧
      again.events = final.events := by
  obtain ⟨phases, last, before, again, retraced, leads, returns, agrees⟩ :=
    retraced_of_stopped calm unreached stopped reached
  have continued : before.runFrom last enough = (ending, final) := by
    rw [← leads.runFrom, Nat.add_comm]
    exact runFrom_stable ended settled phases.length
  obtain ⟨same, alike⟩ := agrees.runFrom last enough
  rw [continued] at same alike
  have lasting : ∀ phase, (retraced.runFrom last enough).1 ≠ .paused phase := by
    intro phase paused
    rw [paused] at same
    cases ending <;> cases same
    exact settled phase rfl
  refine ⟨again.length + enough, _, _, fun more => ?_, same, alike.program, alike.console.inputs,
    alike.console.outputs, alike.events⟩
  rw [run, Nat.add_assoc, returns.runFrom]
  exact runFrom_stable rfl lasting more

/-- A line is read, and the text that should be written is refused. -/
def echo : Machine where
  program := .ofListing ⟨[], ["let $x = input", "output $x"]⟩
  console := { inputs := ["a", "b"] }

theorem echo_resumes :
    ∃ trouble after steps again,
      (echo.failing (.failure "refused") (.write 0)).run 4 = (.stopped trouble, after) ∧
      (∀ more, after.run (steps + more) = (.done, again)) ∧
      again.console.inputs = ["b"] ∧ again.console.outputs = #["a"] ∧
      again.events = #[.input "a", .output "a"] := by
  have ended : echo.run 6 = (.done, (echo.run 6).2) := rfl
  obtain ⟨trouble, after, stopped, reached⟩ : ∃ trouble after,
      (echo.failing (.failure "refused") (.write 0)).run 4 = (.stopped trouble, after) ∧
        after.console.Reached (.write 0) := ⟨_, _, rfl, Nat.one_pos⟩
  obtain ⟨steps, other, again, resumed, same, -, inputs, outputs, events⟩ :=
    resumes_exactly echo after _ (.write 0) (.failure "refused") 4 6 trouble .done
      ⟨fun _ => rfl, fun _ => rfl⟩ (Nat.not_lt_zero 0) stopped reached ended (fun _ => nofun)
  cases other with
  | done => exact ⟨trouble, after, steps, again, stopped, resumed, inputs, outputs, events⟩
  | stopped met => cases same
  | paused next => cases same

end Machine

end LineScript
