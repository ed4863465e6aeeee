import LineScript.Proofs.Journal.Course
import LineScript.Proofs.Journal.Turns
import LineScript.Proofs.Machine.InternalErrors

/-!
Dispatching. A run enters no phase without work of its own: a keyword enters the phase that it
names, and an arithmetic assignment goes on from the phase of its keyword to the phase that
computes. What the phases have as guards against anything else never comes up.
-/

namespace LineScript

variable {program : Program} {statement : Statement} {trouble : Trouble} {name word : String}

namespace Fault

/-- Whether a cause comes up in a run. The other causes belong to guards, or to a console that
brings up faults of its own. -/
def Cause.isExpected : Cause → Bool
  | .noHandler _ => false
  | .pastEnd => false
  | .invalidArithmetic _ => false
  | .reported _ => false
  | _ => true

/-- What the messages of the guards begin with: there is no instruction, it is none that computes,
or the phase cannot be carried out. -/
def guardPrefaces : List String :=
  ["Instruction pointer is past the end of the program", "Invalid arithmetic instruction: ",
    "No handler for state "]

/-- The message of a fault is the message of a guard. -/
def FromGuard (fault : Fault) : Prop :=
  ∃ preface ∈ guardPrefaces, preface.toList <+: fault.message.toList

/-- The preface of an expected cause parts from those of the guards. -/
theorem Cause.apart_of_isExpected {cause : Cause} (expected : cause.isExpected = true) :
    ∀ guard ∈ guardPrefaces, (guard.toList.isPrefixOf cause.preface.toList ||
      cause.preface.toList.isPrefixOf guard.toList) = false := by
  cases cause with
  | noHandler phase => cases expected
  | pastEnd => cases expected
  | invalidArithmetic text => cases expected
  | reported message => cases expected
  | _ =>
    rw [preface]
    decide +kernel

theorem not_fromGuard_of_isExpected {fault : Fault} (expected : fault.cause.isExpected = true) :
    ¬ fault.FromGuard := by
  rintro ⟨guard, member, begins⟩
  exact Cause.not_prefix_of_apart (Cause.apart_of_isExpected expected guard member) begins

end Fault

theorem Program.Unfit.expected (unfit : program.Unfit name trouble) :
    trouble.toFault.cause.isExpected = true := by
  cases unfit <;> rfl

theorem Statement.Fails.expected (fails : statement.Fails program trouble) :
    trouble.toFault.cause.isExpected = true := by
  cases fails with
  | leftOperand unfit => exact unfit.expected
  | rightOperand _ unfit => exact unfit.expected
  | _ => rfl

/-- Only an arithmetic assignment is handed on by the phase that its keyword names. -/
theorem Statement.arithmetic_of_apart (apart : statement.carrier ≠ statement.opening) :
    ∃ target left operator right, statement = .assign target (.arithmetic left operator right) := by
  cases statement with
  | assign target origin =>
    cases origin with
    | arithmetic left operator right => exact ⟨target, left, operator, right, rfl⟩
    | _ => exact absurd rfl apart
  | _ => exact absurd rfl apart

/-- The instruction at hand begins with a word, without the white space around it. -/
def Program.LeadsWith (program : Program) (word : String) : Prop :=
  ∃ text, program.current = .ok (some text) ∧
    String.ofList (Statement.leadingWord (Text.trim text).toList) = word

/-- The instruction at hand is an arithmetic assignment. -/
def Program.Computes (program : Program) : Prop :=
  ∃ target left operator right,
    program.statement? = some (.assign target (.arithmetic left operator right))

namespace Machine

variable {machine after : Machine} {phase : Phase} {instruction : Option String} {fault : Fault}
  {budget : Nat}

/-- A phase is entered by its keyword, or with an arithmetic assignment from the phase of that
keyword. -/
theorem Routed.entered (routed : machine.Routed phase) (start : phase ≠ .execute)
    (finish : phase ≠ .finish) :
    (∃ word, (word, phase) ∈ Phase.keywords ∧ machine.program.LeadsWith word) ∨
      (phase = .arithmetic ∧ machine.program.Computes) := by
  cases routed with
  | start => exact absurd rfl start
  | pass routed handled planned =>
    cases Phase.acts_of_plan planned with
    | ended => exact absurd rfl finish
    | @named text next found word =>
      refine .inl ⟨_, Phase.mem_keywords_of_named? word, text, found, ?_⟩
      rw [Text.trim, String.toList_ofList]
    | handOn found read apart =>
      obtain ⟨target, left, operator, right, rfl⟩ := Statement.arithmetic_of_apart apart
      exact .inr ⟨rfl, target, left, operator, right,
        Program.statement?_eq_some_iff.mpr ⟨_, found, read⟩⟩
    | carry _ _ acts => exact absurd (Option.some.inj acts.proceed) start

/-- No keyword enters the phase that computes. -/
theorem Routed.computes (routed : machine.Routed .arithmetic) : machine.program.Computes := by
  have listed : ∀ pair ∈ Phase.keywords, pair.2 ≠ .arithmetic := by decide
  rcases routed.entered nofun nofun with ⟨word, member, -⟩ | ⟨-, computes⟩
  · exact absurd rfl (listed _ member)
  · exact computes

/-- A phase that a keyword names is entered by that keyword. -/
theorem Routed.leadsWith (routed : machine.Routed phase) (named : (word, phase) ∈ Phase.keywords)
    (finish : phase ≠ .finish) : machine.program.LeadsWith word := by
  have apart : ∀ pair ∈ Phase.keywords, pair.2 ≠ .execute ∧ pair.2 ≠ .arithmetic := by decide
  have single : ∀ pair ∈ Phase.keywords, ∀ other ∈ Phase.keywords, pair.2 = other.2 →
      pair.1 = other.1 := by
    decide
  rcases routed.entered (apart _ named).1 finish with ⟨found, member, leads⟩ | ⟨same, -⟩
  · obtain rfl : found = word := single _ member _ named rfl
    exact leads
  · exact absurd same (apart _ named).2

/-- A phase that was entered as it should be finds fault with its own work only. -/
theorem Routed.expected (routed : machine.Routed phase)
    (planned : phase.plan machine.program = .error trouble) :
    trouble.toFault.cause.isExpected = true := by
  have finish : phase ≠ .finish := by
    rintro rfl
    cases planned
  cases Phase.fails_of_plan planned with
  | lost => rfl
  | unknown => rfl
  | pastEnd start atEnd =>
    obtain ⟨text, found⟩ := routed.current start finish
    rw [atEnd] at found
    cases found
  | foreign start found other =>
    cases phase with
    | execute => exact absurd rfl start
    | arithmetic =>
      obtain ⟨target, left, operator, right, computes⟩ := routed.computes
      obtain ⟨text, here, read⟩ := Program.statement?_eq_some_iff.mp computes
      rw [found] at here
      cases here
      exact absurd rfl (other _ read).1
    | _ => rfl
  | carry _ _ fails => exact fails.expected

/-- On an orderly console no guard stops a run. -/
theorem isExpected_of_run (handled : ∀ phase, phase ∈ machine.handled)
    (orderly : machine.console.Orderly)
    (ended : machine.run budget = (.stopped (.fault fault), after)) :
    fault.cause.isExpected = true := by
  obtain ⟨last, before, instruction, met, routed, alike, -, found, dispatched, caused⟩ :=
    raised_of_run ended
  rw [caused]
  rcases dispatch_error_of_orderly (alike.orderly orderly) found dispatched with
    ⟨missing, -⟩ | planned | rfl
  · exact absurd (alike.handled ▸ handled last) missing
  · exact routed.expected planned
  · rfl

/-- The phase that computes is entered from the phase of assignments, with the instruction that this
phase saw. -/
theorem assign_of_step (taken : machine.step phase = (.ok (some .arithmetic), after)) :
    phase = .assign ∧ after.program = machine.program := by
  obtain ⟨instruction, action, -, -, planned, performed⟩ := step_ok taken
  rcases perform_ok performed with same | ⟨program, rfl, rfl⟩
  · cases same
  · have acts := Phase.acts_of_plan planned
    refine ⟨?_, acts.pass nofun⟩
    rcases acts.turn with ⟨next, same, lead⟩ | ⟨_, _, -, -, -, carried⟩ | ⟨-, same⟩
    · cases same
      cases phase with
      | assign => rfl
      | _ => exact absurd lead (by decide)
    · cases carried.proceed
    · cases same

/-- No guard stops a run, whatever the source and the input: the phase that computes is entered with
the arithmetic assignment that the phase of assignments saw, and the other phases that carry
instructions out are entered with an instruction that begins with their keyword. -/
theorem guards_never_stop (listing : Listing) (machine after : Machine) (budget : Nat)
    (ending : Ending)
    (begins : machine.program = .ofListing listing) (handled : ∀ phase, phase ∈ machine.handled)
    (orderly : machine.console.Orderly) (ended : machine.run budget = (ending, after)) :
    (∀ trouble, ending = .stopped trouble → ∃ fault, trouble = .fault fault ∧ ¬ fault.FromGuard) ∧
    (ending = .paused .arithmetic → ∃ fewer before target left operator right, budget = fewer + 1 ∧
      machine.run fewer = (.paused .assign, before) ∧
      before.step .assign = (.ok (some .arithmetic), after) ∧
      before.program.statement? = some (.assign target (.arithmetic left operator right)) ∧
      after.program.statement? = some (.assign target (.arithmetic left operator right))) ∧
    ∀ word phase,
      (word, phase) ∈
        [("let", Phase.assign), ("if", .branch), ("goto", .goto), ("output", .output)] →
        ending = .paused phase → after.program.LeadsWith word := by
  refine ⟨?guards, ?computes, ?keywords⟩
  case guards =>
    rintro (fault | mishap) rfl
    · exact ⟨fault, rfl,
        Fault.not_fromGuard_of_isExpected (isExpected_of_run handled orderly ended)⟩
    · have inside : machine.program.Inside := begins ▸ Program.inside_ofListing listing
      have faulty := runFrom_ne_mishap inside .execute budget mishap
      rw [← run, ended] at faulty
      exact absurd rfl faulty
  case computes =>
    rintro rfl
    cases budget with
    | zero =>
      rw [run, runFrom] at ended
      split at ended <;> cases ended
    | succ fewer =>
      obtain ⟨last, before, paused, taken⟩ := step_of_paused ended
      obtain ⟨rfl, same⟩ := assign_of_step taken
      obtain ⟨phases, leads, -⟩ := leads_of_paused ended
      obtain ⟨target, left, operator, right, computes⟩ := (leads.routed .start).computes
      exact ⟨fewer, before, target, left, operator, right, rfl, paused, taken, same ▸ computes,
        computes⟩
  case keywords =>
    rintro word phase member rfl
    have listed : ∀ pair ∈
        [("let", Phase.assign), ("if", .branch), ("goto", .goto), ("output", .output)],
        pair ∈ Phase.keywords ∧ pair.2 ≠ .finish := by decide
    obtain ⟨phases, leads, -⟩ := leads_of_paused ended
    exact (leads.routed .start).leadsWith (listed _ member).1 (listed _ member).2

/-- A division by zero, with white space before it. -/
def idleQuotient : Listing where
  registers := ["7", "0"]
  statements := ["  let $q = $0 / $1"]

theorem idleQuotient_enters :
    ∃ middle computing after fault, (unfed idleQuotient).run 1 = (.paused .assign, middle) ∧
      middle.program.LeadsWith "let" ∧
      (unfed idleQuotient).run 2 = (.paused .arithmetic, computing) ∧
      computing.program.statement? = some (.assign "q" (.arithmetic "0" .divide "1")) ∧
      (unfed idleQuotient).run 3 = (.stopped (.fault fault), after) ∧ ¬ fault.FromGuard := by
  have handled : ∀ phase, phase ∈ Phase.all := fun phase => by cases phase <;> decide
  have enters (budget : Nat) := guards_never_stop idleQuotient (unfed idleQuotient)
    ((unfed idleQuotient).run budget).2 budget _ rfl handled (unfed_orderly idleQuotient) rfl
  have word := (enters 1).2.2 "let" .assign (by decide) rfl
  obtain ⟨fewer, before, target, left, operator, right, -, -, -, -, computes⟩ := (enters 2).2.1 rfl
  obtain ⟨fault, stopped, calm⟩ := (enters 3).1 _ rfl
  exact ⟨_, _, _, fault, rfl, word, rfl, rfl, by rw [← stopped]; rfl, calm⟩

end Machine

end LineScript
