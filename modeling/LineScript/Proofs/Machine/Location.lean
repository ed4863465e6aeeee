import LineScript.Proofs.Machine.Troubles

/-!
Location. A step inside the code is recorded before its phase is carried out, and whatever the phase
raises becomes a fault: it keeps its message and what is known of its place, and the entry of the
step says the rest.
-/

namespace LineScript

/-- A part that was known is kept, and one that was not is filled in. -/
inductive Filled {α : Type} (given : Option α) : Option α → Option α → Prop where
  | kept (value : α) : Filled given (some value) (some value)
  | given : Filled given none given

theorem filled_orElse {α : Type} (known given : Option α) :
    Filled given known (known <|> given) := by
  cases known with
  | none => exact .given
  | some value => exact .kept value

/-- A fault is placed by an entry of the journal: it is the fault that was raised, and the entry
says what was not known of its place. -/
structure Fault.PlacedBy (entry : Journal.Entry) (raised placed : Fault) : Prop where
  cause : placed.cause = raised.cause
  phase : Filled (some entry.rule) raised.phase placed.phase
  ip : Filled entry.ip raised.ip placed.ip
  instruction : Filled entry.instruction raised.instruction placed.instruction
  step : placed.step = some entry.step

/-- No disturbance of the console comes with the number of a step. -/
structure Console.Unnumbered (console : Console) : Prop where
  reads : ∀ number fault, console.readDisruption number = some (.fault fault) → fault.step = none
  writes : ∀ number fault, console.writeDisruption number = some (.fault fault) → fault.step = none

namespace Machine

variable {machine after : Machine} {phase : Phase} {instruction : Option String} {trouble : Trouble}

theorem Raises.step_eq_none {message : String} (raises : machine.Raises phase trouble message)
    (unnumbered : machine.console.Unnumbered) : trouble.toFault.step = none := by
  cases raises with
  | faultyRead _ _ refused =>
    simp only [Console.read] at refused
    split at refused
    · rename_i disturbed
      cases refused
      exact unnumbered.reads _ _ disturbed
    · cases refused
    · cases refused
  | faultyWrite _ _ refused =>
    simp only [Console.write] at refused
    split at refused
    · rename_i disturbed
      cases refused
      exact unnumbered.writes _ _ disturbed
    · cases refused
  | _ => rfl

/-- A step inside the code adds its entry to the journal, and then ends as its phase does or with
the fault that the phase raises, placed by the entry. -/
theorem step_of_inside (found : machine.program.current = .ok instruction) (phase : Phase)
    (unnumbered : machine.console.Unnumbered) :
    ∃ after, after.journal.entries =
      machine.journal.entries.push (machine.entry phase instruction) ∧
      ((∃ next, (machine.record phase instruction).dispatch phase = (.ok next, after) ∧
          machine.step phase = (.ok next, after)) ∨
        ∃ trouble message fault, (machine.record phase instruction).Raises phase trouble message ∧
          machine.step phase = (.error (.fault fault), after) ∧ fault.message = message ∧
          trouble.toFault.PlacedBy (machine.entry phase instruction) fault) := by
  have journal := (machine.record phase instruction).dispatch_journal phase
  have recorded : (machine.record phase instruction).program.current = .ok instruction := found
  rw [step_of_current found]
  rcases dispatched : (machine.record phase instruction).dispatch phase with
      ⟨trouble | next, after⟩ <;>
    rw [dispatched] at journal
  · obtain ⟨message, raises⟩ := raises_of_dispatch recorded dispatched
    have placed : trouble.toFault.PlacedBy (machine.entry phase instruction)
        (machine.faultOf phase instruction trouble) :=
      { cause := rfl
        phase := filled_orElse _ _
        ip := filled_orElse _ _
        instruction := filled_orElse _ _
        step := by rw [faultOf, Fault.locate, raises.step_eq_none unnumbered]; rfl }
    refine ⟨after, congrArg Journal.entries journal, .inr ⟨_, message, _, raises, rfl, ?_, placed⟩⟩
    rw [← raises.message_eq]
    exact congrArg Fault.Cause.message placed.cause
  · exact ⟨after, congrArg Journal.entries journal, .inl ⟨next, rfl, rfl⟩⟩

/-- Every fault of a step has a place. A position too far before the code is found out before
anything is recorded or done. From any other position one entry is recorded, and the step ends as
its phase does, or with a fault that keeps the message and the known parts of the place that it was
raised with and takes the rest from the entry. -/
theorem step_located (machine : Machine) (phase : Phase) (unnumbered : machine.console.Unnumbered) :
    (machine.program.ip < -(machine.program.code.length : Int) →
      ∃ mishap, (mishap = .indexOutOfRange machine.program.ip machine.program.code.length ∨
          mishap = .notAnIndex) ∧
        machine.step phase = (.error (.mishap mishap), machine)) ∧
    (-(machine.program.code.length : Int) ≤ machine.program.ip →
      ∃ instruction entry after, machine.program.current = .ok instruction ∧
        (instruction = none ↔ (machine.program.code.length : Int) ≤ machine.program.ip) ∧
        entry.rule = phase.name ∧ entry.ip = some machine.program.ip ∧
        entry.instruction = instruction ∧
        after.journal.entries = machine.journal.entries.push entry ∧
        ((∃ next, (machine.record phase instruction).dispatch phase = (.ok next, after) ∧
            machine.step phase = (.ok next, after)) ∨
          ∃ trouble message fault, (machine.record phase instruction).Raises phase trouble message ∧
            machine.step phase = (.error (.fault fault), after) ∧ fault.message = message ∧
            trouble.toFault.PlacedBy entry fault)) := by
  refine ⟨?outside, ?inside⟩
  case outside =>
    intro outside
    obtain ⟨mishap, kind, astray⟩ := Program.current_of_outside outside
    exact ⟨mishap, kind, by rw [step, astray]⟩
  case inside =>
    intro inside
    obtain ⟨instruction, found⟩ := Program.current_of_inside inside
    obtain ⟨after, pushed, outcome⟩ := step_of_inside found phase unnumbered
    exact ⟨instruction, machine.entry phase instruction, after, found,
      Program.current_eq_none_iff found, rfl, rfl, rfl, pushed, outcome⟩

/-- A console that says who is to blame, and nothing else about the place. -/
def selfReporting (ip : Int) : Machine where
  program := { Program.ofListing ⟨[], ["let $x = input"]⟩ with ip }
  console :=
    { inputs := []
      readDisruption := fun _ =>
        some (.fault { cause := .reported "jammed", phase := some "READER" }) }

theorem selfReporting_located :
    (∃ fault after, (selfReporting 0).step .assign = (.error (.fault fault), after) ∧
      fault.message = "jammed" ∧ fault.phase = some "READER" ∧ fault.ip = some 0 ∧
      fault.instruction = some "let $x = input") ∧
    ∃ mishap, (selfReporting (-2)).step .assign =
      (.error (.mishap mishap), selfReporting (-2)) := by
  have unnumbered (ip : Int) : (selfReporting ip).console.Unnumbered := by
    refine ⟨fun _ fault disturbed => ?_, fun _ _ disturbed => by cases disturbed⟩
    cases disturbed
    rfl
  obtain ⟨mishap, -, astray⟩ :=
    (step_located (selfReporting (-2)) .assign (unnumbered (-2))).1 (by decide)
  refine ⟨?_, mishap, astray⟩
  obtain ⟨instruction, entry, after, found, -, rule, ip, recorded, pushed, ⟨next, -, taken⟩ |
    ⟨trouble, message, fault, raises, failed, same, placed⟩⟩ :=
    (step_located (selfReporting 0) .assign (unnumbered 0)).2 (by decide)
  · cases taken
  · refine ⟨fault, after, failed, ?_⟩
    cases failed
    exact ⟨rfl, rfl, rfl, rfl⟩

end Machine

end LineScript
