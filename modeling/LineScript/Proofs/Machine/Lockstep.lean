import LineScript.Proofs.Machine.Invariants

/-!
Machines in lockstep. What a phase does depends on the program, on what the console answers and on
the phases that can be carried out; two machines that agree on these take the same steps, however
much their journals differ. A change to a machine that its actions carry along is carried along by
runs, up to the step that tells the two machines apart, if there is one.
-/

namespace LineScript

/-- A fault without the number of the step that it arose in. -/
def Fault.unnumbered (fault : Fault) : Fault :=
  { fault with step := none }

def Trouble.unnumbered : Trouble → Trouble
  | .fault found => .fault found.unnumbered
  | .mishap met => .mishap met

/-- An ending without the number of the step that it came in. -/
def Ending.unnumbered : Ending → Ending
  | .stopped trouble => .stopped trouble.unnumbered
  | ending => ending

namespace Console

variable {console other : Console}

/-- Two consoles that have the same lines, were written the same texts and are disturbed alike from
now on. -/
structure Agrees (console other : Console) : Prop where
  inputs : other.inputs = console.inputs
  outputs : other.outputs = console.outputs
  reads : ∀ later,
    other.readDisruption (other.reads + later) = console.readDisruption (console.reads + later)
  writes : ∀ later,
    other.writeDisruption (other.writes + later) = console.writeDisruption (console.writes + later)

theorem Agrees.trans {after : Console} (first : console.Agrees other)
    (second : other.Agrees after) :
    console.Agrees after where
  inputs := second.inputs.trans first.inputs
  outputs := second.outputs.trans first.outputs
  reads later := (second.reads later).trans (first.reads later)
  writes later := (second.writes later).trans (first.writes later)

theorem Agrees.read (agrees : console.Agrees other) :
    ∃ after, other.read = (console.read.1, after) ∧ console.read.2.Agrees after := by
  obtain ⟨inputs, outputs, reads, writes⟩ := agrees
  have next (later : Nat) : other.readDisruption (other.reads + 1 + later) =
      console.readDisruption (console.reads + 1 + later) := by
    simpa only [Nat.add_assoc] using reads (1 + later)
  have now : other.readDisruption other.reads = console.readDisruption console.reads := reads 0
  rw [Console.read, Console.read, now, inputs]
  split
  · exact ⟨_, rfl, rfl, outputs, next, writes⟩
  · exact ⟨_, rfl, rfl, outputs, next, writes⟩
  · exact ⟨_, rfl, rfl, outputs, next, writes⟩

theorem Agrees.write (agrees : console.Agrees other) (text : String) :
    ∃ after, other.write text = ((console.write text).1, after) ∧
      (console.write text).2.Agrees after := by
  obtain ⟨inputs, outputs, reads, writes⟩ := agrees
  have next (later : Nat) : other.writeDisruption (other.writes + 1 + later) =
      console.writeDisruption (console.writes + 1 + later) := by
    simpa only [Nat.add_assoc] using writes (1 + later)
  have now : other.writeDisruption other.writes = console.writeDisruption console.writes := writes 0
  rw [Console.write, Console.write, now]
  split
  · exact ⟨_, rfl, inputs, outputs, reads, next⟩
  · exact ⟨_, rfl, inputs, congrArg (·.push text) outputs, reads, next⟩

end Console

namespace Machine

variable {machine other : Machine}

/-- Two machines with the same program and events and with consoles that answer alike. -/
structure Agrees (machine other : Machine) : Prop where
  program : other.program = machine.program
  console : machine.console.Agrees other.console
  events : other.events = machine.events
  handled : other.handled = machine.handled

theorem Agrees.trans {after : Machine} (first : machine.Agrees other)
    (second : other.Agrees after) :
    machine.Agrees after where
  program := second.program.trans first.program
  console := first.console.trans second.console
  events := second.events.trans first.events
  handled := second.handled.trans first.handled

theorem Agrees.record (agrees : machine.Agrees other) (phase : Phase)
    (instruction : Option String) :
    (machine.record phase instruction).Agrees (other.record phase instruction) :=
  ⟨agrees.program, agrees.console, agrees.events, agrees.handled⟩

theorem Agrees.perform (agrees : machine.Agrees other) (action : Action) :
    ∃ after, other.perform action = ((machine.perform action).1, after) ∧
      (machine.perform action).2.Agrees after := by
  obtain ⟨program, console, events, handled⟩ := agrees
  cases action with
  | proceed program next => exact ⟨_, rfl, rfl, console, events, handled⟩
  | read target =>
    obtain ⟨called, answered, still⟩ := console.read
    rw [Machine.perform, Machine.perform, answered]
    rcases asked : machine.console.read with ⟨disruption | line, left⟩ <;> rw [asked] at still
    · exact ⟨_, rfl, program, still, events, handled⟩
    · exact ⟨_, rfl, by rw [program], still, by rw [events], handled⟩
  | write text =>
    obtain ⟨called, answered, still⟩ := console.write text
    rw [Machine.perform, Machine.perform, answered]
    rcases asked : machine.console.write text with ⟨disruption | _, left⟩ <;> rw [asked] at still
    · exact ⟨_, rfl, program, still, events, handled⟩
    · exact ⟨_, rfl, by rw [program], still, by rw [events], handled⟩

theorem Agrees.dispatch (agrees : machine.Agrees other) (phase : Phase) :
    ∃ after, other.dispatch phase = ((machine.dispatch phase).1, after) ∧
      (machine.dispatch phase).2.Agrees after := by
  by_cases handled : phase ∈ machine.handled
  · rw [dispatch_of_handled handled, dispatch_of_handled (agrees.handled ▸ handled), agrees.program]
    cases phase.plan machine.program with
    | error trouble => exact ⟨other, rfl, agrees⟩
    | ok action => exact agrees.perform action
  · rw [dispatch_of_unhandled handled, dispatch_of_unhandled (agrees.handled ▸ handled)]
    exact ⟨other, rfl, agrees⟩

/-- Machines that agree take steps that end alike, and agree afterwards. -/
theorem Agrees.step (agrees : machine.Agrees other) (phase : Phase) :
    (other.step phase).1.mapError Trouble.unnumbered =
        (machine.step phase).1.mapError Trouble.unnumbered ∧
      (machine.step phase).2.Agrees (other.step phase).2 := by
  cases found : machine.program.current with
  | error mishap =>
    have same : other.program.current = .error mishap := by rw [agrees.program, found]
    rw [Machine.step, Machine.step, found, same]
    exact ⟨rfl, agrees⟩
  | ok instruction =>
    have same : other.program.current = .ok instruction := by rw [agrees.program, found]
    obtain ⟨after, answered, still⟩ := (agrees.record phase instruction).dispatch phase
    rw [step_of_current found, step_of_current same, answered]
    rcases dispatched : (machine.record phase instruction).dispatch phase with
        ⟨trouble | next, left⟩ <;>
      rw [dispatched] at still
    · have placed : (other.faultOf phase instruction trouble).unnumbered =
          (machine.faultOf phase instruction trouble).unnumbered := by
        simp [faultOf, Fault.locate, Fault.unnumbered, agrees.program]
      exact ⟨congrArg (fun fault => Except.error (Trouble.fault fault)) placed, still⟩
    · exact ⟨rfl, still⟩

/-- Machines that agree run alike. -/
theorem Agrees.runFrom (agrees : machine.Agrees other) (phase : Phase) (budget : Nat) :
    (other.runFrom phase budget).1.unnumbered = (machine.runFrom phase budget).1.unnumbered ∧
      (machine.runFrom phase budget).2.Agrees (other.runFrom phase budget).2 := by
  induction budget generalizing machine other phase with
  | zero =>
    rw [Machine.runFrom, Machine.runFrom, agrees.program]
    cases machine.program.current with
    | error mishap => exact ⟨rfl, agrees⟩
    | ok instruction => exact ⟨rfl, agrees⟩
  | succ budget ih =>
    obtain ⟨outcome, still⟩ := agrees.step phase
    rw [Machine.runFrom, Machine.runFrom]
    rcases taken : machine.step phase with ⟨trouble | next, left⟩ <;>
      rcases again : other.step phase with ⟨met | later, right⟩ <;>
      rw [taken, again] at outcome still
    · exact ⟨congrArg Ending.stopped (Except.error.inj outcome), still⟩
    · cases outcome
    · cases outcome
    · obtain rfl := Except.ok.inj outcome
      cases later with
      | none => exact ⟨rfl, still⟩
      | some later => exact ih still later

/-- A change to machines that leaves alone what steps depend on, and that actions carry along as
long as a condition holds and the action does not part the machines. -/
structure Carried (change : Machine → Machine) (Holds : Machine → Prop)
    (Parts : Machine → Action → Prop) : Prop where
  program : ∀ machine, (change machine).program = machine.program
  handled : ∀ machine, (change machine).handled = machine.handled
  journal : ∀ machine, (change machine).journal = machine.journal
  record : ∀ machine phase instruction,
    (change machine).record phase instruction = change (machine.record phase instruction)
  holds : ∀ machine phase instruction, Holds machine → Holds (machine.record phase instruction)
  perform : ∀ machine action, Holds machine → Parts machine action ∨
    (change machine).perform action =
    ((machine.perform action).1, change (machine.perform action).2) ∧
      Holds (machine.perform action).2

namespace Carried

variable {change : Machine → Machine} {Holds : Machine → Prop} {Parts : Machine → Action → Prop}

/-- The step of a machine at which a changed one parts from it. -/
structure PartsAt (Parts : Machine → Action → Prop) (machine : Machine) (phase : Phase)
    (instruction : Option String) (action : Action) : Prop where
  found : machine.program.current = .ok instruction
  handled : phase ∈ machine.handled
  planned : phase.plan machine.program = .ok action
  parts : Parts (machine.record phase instruction) action

theorem step (carried : Carried change Holds Parts) (holds : Holds machine) (phase : Phase) :
    (∃ instruction action, PartsAt Parts machine phase instruction action) ∨
      (change machine).step phase = ((machine.step phase).1, change (machine.step phase).2) ∧
        Holds (machine.step phase).2 := by
  cases found : machine.program.current with
  | error mishap =>
    rw [Machine.step, Machine.step, carried.program, found]
    exact .inr ⟨rfl, holds⟩
  | ok instruction =>
    have same : (change machine).program.current = .ok instruction := by rw [carried.program, found]
    have recorded := carried.holds machine phase instruction holds
    have fault (trouble : Trouble) : (change machine).faultOf phase instruction trouble =
        machine.faultOf phase instruction trouble := by
      rw [faultOf, faultOf, carried.program, carried.journal]
    by_cases handled : phase ∈ machine.handled
    · have listed : phase ∈ (change machine).handled := carried.handled machine ▸ handled
      rw [step_of_handled found handled, step_of_handled same listed, carried.program,
        carried.record]
      simp only [fault]
      cases planned : phase.plan machine.program with
      | error trouble => exact .inr ⟨rfl, recorded⟩
      | ok action =>
        rcases carried.perform _ action recorded with parts | ⟨performed, still⟩
        · exact .inl ⟨instruction, action, found, handled, planned, parts⟩
        · right
          rw [follow, follow, performed]
          rcases left : (machine.record phase instruction).perform action with
              ⟨trouble | next, after⟩ <;>
            rw [left] at still <;> exact ⟨rfl, still⟩
    · have plain : phase ∉ (machine.record phase instruction).handled := handled
      have changed : phase ∉ (change (machine.record phase instruction)).handled :=
        fun listed => plain (carried.handled _ ▸ listed)
      rw [step_of_current found, step_of_current same, carried.record,
        dispatch_of_unhandled changed, dispatch_of_unhandled plain]
      refine .inr ⟨?_, recorded⟩
      simp only [fault]

/-- A changed machine runs like the machine, or up to a step at which they part. -/
theorem runFrom (carried : Carried change Holds Parts) (holds : Holds machine) (phase : Phase)
    (budget : Nat) :
    (∃ phases last before instruction action, phases.length < budget ∧ Holds before ∧
      Leads phase machine phases last before ∧
        Leads phase (change machine) phases last (change before) ∧
      PartsAt Parts before last instruction action) ∨
    (change machine).runFrom phase budget =
        ((machine.runFrom phase budget).1, change (machine.runFrom phase budget).2) ∧
      Holds (machine.runFrom phase budget).2 := by
  induction budget generalizing machine phase with
  | zero =>
    rw [Machine.runFrom, Machine.runFrom, carried.program]
    cases machine.program.current <;> exact .inr ⟨rfl, holds⟩
  | succ budget ih =>
    rcases carried.step holds phase with ⟨instruction, action, parts⟩ | ⟨changed, still⟩
    · exact .inl ⟨[], phase, machine, instruction, action, Nat.succ_pos budget, holds,
        .here phase machine, .here phase _, parts⟩
    · rw [Machine.runFrom, Machine.runFrom, changed]
      rcases taken : machine.step phase with
          ⟨trouble | _ | next, after⟩ <;> rw [taken] at still changed
      · exact .inr ⟨rfl, still⟩
      · exact .inr ⟨rfl, still⟩
      · refine (ih still next).imp_left ?_
        rintro ⟨phases, last, before, instruction, action, short, holds, leads, follows, parts⟩
        exact ⟨phase :: phases, last, before, instruction, action, Nat.succ_lt_succ short, holds,
          .step taken leads, .step changed follows, parts⟩

end Carried

/-- A change to machines that leaves them at the same instruction, and that every phase carries
along as long as a property holds that runs keep. -/
structure Mirrored (change : Machine → Machine) (Holds : Machine → Prop) : Prop where
  kept : Kept Holds
  current : ∀ machine, (change machine).program.current = machine.program.current
  ip : ∀ machine, (change machine).program.ip = machine.program.ip
  handled : ∀ machine, (change machine).handled = machine.handled
  next : ∀ machine, (change machine).journal.next = machine.journal.next
  record : ∀ machine phase instruction, Holds machine →
    (change machine).record phase instruction = change (machine.record phase instruction)
  follow : ∀ machine (phase : Phase), Holds machine →
    (change machine).follow (phase.plan (change machine).program) =
      ((machine.follow (phase.plan machine.program)).1,
        change (machine.follow (phase.plan machine.program)).2)

namespace Mirrored

variable {change : Machine → Machine} {Holds : Machine → Prop}

theorem dispatch (mirrored : Mirrored change Holds) (holds : Holds machine) (phase : Phase) :
    (change machine).dispatch phase =
      ((machine.dispatch phase).1, change (machine.dispatch phase).2) := by
  have same := mirrored.handled machine
  by_cases handled : phase ∈ machine.handled
  · rw [dispatch_of_handled handled, dispatch_of_handled (same ▸ handled),
      mirrored.follow machine phase holds]
  · rw [dispatch_of_unhandled handled, dispatch_of_unhandled (same ▸ handled)]

theorem step (mirrored : Mirrored change Holds) (holds : Holds machine) (phase : Phase) :
    (change machine).step phase = ((machine.step phase).1, change (machine.step phase).2) := by
  have same := mirrored.current machine
  cases found : machine.program.current with
  | error mishap =>
    rw [found] at same
    rw [Machine.step, Machine.step, found, same]
  | ok instruction =>
    rw [found] at same
    have fault (trouble : Trouble) : (change machine).faultOf phase instruction trouble =
        machine.faultOf phase instruction trouble := by
      rw [faultOf, faultOf, mirrored.ip, mirrored.next]
    have recorded := mirrored.kept.record machine phase instruction holds
    rw [step_of_current found, step_of_current same,
      mirrored.record machine phase instruction holds, mirrored.dispatch recorded]
    rcases (machine.record phase instruction).dispatch phase with ⟨trouble | next, after⟩
    · simp only [fault]
    · rfl

/-- A changed machine runs like the machine, and what the run leaves is changed in the same way. -/
theorem runFrom (mirrored : Mirrored change Holds) (holds : Holds machine) (phase : Phase)
    (budget : Nat) :
    (change machine).runFrom phase budget =
      ((machine.runFrom phase budget).1, change (machine.runFrom phase budget).2) := by
  induction budget generalizing machine phase with
  | zero =>
    rw [Machine.runFrom, Machine.runFrom, mirrored.current]
    cases machine.program.current <;> rfl
  | succ budget ih =>
    rw [Machine.runFrom, Machine.runFrom, mirrored.step holds phase]
    rcases taken : machine.step phase with ⟨trouble | _ | next, after⟩
    · rfl
    · rfl
    · have still := mirrored.kept.step holds phase
      rw [taken] at still
      exact ih still next

end Mirrored

end Machine

end LineScript
