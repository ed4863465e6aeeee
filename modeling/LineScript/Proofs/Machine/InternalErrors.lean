import LineScript.Proofs.Machine.Alphabet
import LineScript.Proofs.Machine.Blame
import LineScript.Proofs.Machine.Position
import LineScript.Proofs.Text.Numerals

/-!
Internal errors: faults that no statement is to blame for. On a console that fails in no other way
than by being closed, a run meets one exactly where an arithmetic statement takes a value that
passes for a number and is not read as one, because an information separator stands around it.
-/

namespace LineScript

variable {program : Program} {trouble : Trouble}

/-- What the messages of internal errors begin with. -/
def Fault.internalPreface : String := "Internal interpreter error"

/-- The message of a fault blames the machine. -/
def Fault.Internal (fault : Fault) : Prop :=
  Fault.internalPreface.toList <+: fault.message.toList

theorem Fault.Cause.not_internal_of_isOwn {cause : Cause} (own : cause.isOwn = true) :
    ¬ internalPreface.toList <+: cause.message.toList := by
  -- Each message is told apart by its preface; the parts that vary come later.
  cases cause with
  | mishap mishap => cases own
  | reported text => cases own
  | _ =>
    refine not_prefix_of_apart ?_
    rw [preface]
    rfl

theorem Fault.internal_of_mishap {fault : Fault} {mishap : Mishap}
    (caused : fault.cause = .mishap mishap) :
    fault.Internal := by
  have begins : internalPreface.toList <+: fault.cause.preface.toList := by
    rw [caused, Cause.preface]
    decide
  exact begins.trans fault.cause.preface_prefix

theorem Program.Trips.statement {value : String} (trips : program.Trips value) :
    ∃ text target left operator right, program.current = .ok (some text) ∧
      Statement.parse? (Text.trim text).toList =
        some (.assign target (.arithmetic left operator right)) := by
  cases trips with
  | left found read => exact ⟨_, _, _, _, _, found, read⟩
  | right found read => exact ⟨_, _, _, _, _, found, read⟩

theorem Program.Trips.held {value : String} (trips : program.Trips value) :
    (∃ name, program.vars.get? name = some value) ∧ Value.Separated value := by
  cases trips with
  | left _ _ held separated => exact ⟨⟨_, held⟩, separated⟩
  | right _ _ _ held separated => exact ⟨⟨_, held⟩, separated⟩

theorem Program.operand_of_separated {name value : String}
    (held : program.vars.get? name = some value) (separated : Value.Separated value) :
    program.operand name = .error (.mishap (.unreadable value)) := by
  rw [operand, require, held, ok_bind, Value.read_eq_unreadable_iff.mpr separated]
  rfl

/-- The phase that carries the statement out meets the value. -/
theorem Program.Trips.plan {value : String} (trips : program.Trips value) :
    Phase.arithmetic.plan program = .error (.mishap (.unreadable value)) := by
  cases trips with
  | @left text target left right _ operator found read held separated =>
    have carried := Phase.plan_carrier found read
    rw [Statement.plan, operand_of_separated held separated] at carried
    exact carried
  | @right text target left right _ operator leftValue found read leftRead held separated =>
    have carried := Phase.plan_carrier found read
    rw [Statement.plan, leftRead, ok_bind, operand_of_separated held separated] at carried
    exact carried

/-- A console that fails in no other way than by being closed, and takes every text. -/
structure Console.Orderly (console : Console) : Prop where
  reads : ∀ call, console.readDisruption call = none ∨
    ∃ message, console.readDisruption call = some (.closed message)
  writes : ∀ call, console.writeDisruption call = none

theorem Console.Orderly.read_error {console called : Console} {disruption : Disruption}
    (orderly : console.Orderly) (failed : console.read = (.error disruption, called)) :
    ∃ message, disruption = .closed message := by
  rw [read] at failed
  rcases orderly.reads console.reads with undisturbed | ⟨message, disturbed⟩
  · cases held : console.inputs with
    | nil =>
      simp only [undisturbed, held] at failed
      cases failed
      exact ⟨"", rfl⟩
    | cons line rest =>
      simp only [undisturbed, held] at failed
      cases failed
  · simp only [disturbed] at failed
    cases failed
    exact ⟨message, rfl⟩

theorem Console.Orderly.write_ne_error {console called : Console} {disruption : Disruption}
    {text : String} (orderly : console.Orderly) :
    console.write text ≠ (.error disruption, called) := by
  rw [write_of_undisturbed (orderly.writes console.writes)]
  exact fun same => by cases same

/-- An orderly console brings up no fault. -/
theorem Console.Orderly.not_brought {console called : Console} {fault : Fault}
    (orderly : console.Orderly) :
    ¬ console.Brought called fault := by
  rintro (⟨-, -, disturbed⟩ | ⟨-, -, disturbed⟩)
  · rcases orderly.reads _ with undisturbed | ⟨message, closed⟩
    · cases undisturbed.symm.trans disturbed
    · cases closed.symm.trans disturbed
  · cases (orderly.writes _).symm.trans disturbed

namespace Machine

variable {machine before after : Machine} {phase last : Phase} {fault : Fault}

theorem Alike.orderly (alike : before.Alike after) (orderly : before.console.Orderly) :
    after.console.Orderly :=
  ⟨fun call => alike.reads ▸ orderly.reads call, fun call => alike.writes ▸ orderly.writes call⟩

/-- On an orderly console a phase fails because it cannot be carried out, because its plan is at
fault or because there is nothing to read any more. -/
theorem dispatch_error_of_orderly {instruction : Option String} (orderly : machine.console.Orderly)
    (found : machine.program.current = .ok instruction)
    (failed : machine.dispatch phase = (.error trouble, after)) :
    (phase ∉ machine.handled ∧ trouble = .ofCause (.noHandler phase)) ∨
      phase.plan machine.program = .error trouble ∨ trouble = .ofCause .inputClosed := by
  obtain ⟨message, raises⟩ := raises_of_dispatch found failed
  cases raises with
  | unhandled missing => exact .inl ⟨missing, rfl⟩
  | own _ _ planned => exact .inr (.inl planned)
  | operand _ _ planned => exact .inr (.inl planned)
  | closed => exact .inr (.inr rfl)
  | failedRead _ _ refused =>
    obtain ⟨_, same⟩ := orderly.read_error refused
    cases same
  | faultyRead _ _ refused =>
    obtain ⟨_, same⟩ := orderly.read_error refused
    cases same
  | failedWrite _ _ refused => exact (orderly.write_ne_error refused).elim
  | closedWrite _ _ refused => exact (orderly.write_ne_error refused).elim
  | faultyWrite _ _ refused => exact (orderly.write_ne_error refused).elim

/-- On an orderly console a phase fails by itself, or trips over an operand. -/
theorem dispatch_error_cases {instruction : Option String} (orderly : machine.console.Orderly)
    (found : machine.program.current = .ok instruction)
    (failed : machine.dispatch phase = (.error trouble, after)) :
    trouble.Own ∨ ∃ value, machine.program.Trips value ∧ trouble = .mishap (.unreadable value) := by
  rcases dispatch_error_of_orderly orderly found failed with ⟨-, rfl⟩ | planned | rfl
  · exact .inl (.ofCause rfl)
  · exact (Phase.fails_of_plan planned).cases found
  · exact .inl (.ofCause rfl)

/-- The phases that an instruction can be in. -/
theorem Routed.phase_cases {text : String} {statement : Statement} (routed : machine.Routed phase)
    (found : machine.program.current = .ok (some text))
    (read : Statement.parse? (Text.trim text).toList = some statement) :
    phase = .execute ∨ phase = statement.opening ∨ phase = statement.carrier := by
  cases routed with
  | start => exact .inl rfl
  | pass _ _ planned =>
    cases Phase.acts_of_plan planned with
    | ended atEnd =>
      rw [found] at atEnd
      cases atEnd
    | named here word =>
      rw [found] at here
      cases here
      rw [Phase.named?_of_parse? read] at word
      exact .inr (.inl (Option.some.inj word).symm)
    | handOn here other =>
      rw [found] at here
      cases here
      rw [read] at other
      obtain rfl := Option.some.inj other
      exact .inr (.inr rfl)
    | carry _ _ acts => exact .inl (Option.some.inj acts.proceed)

/-- A fault of a run is raised by a phase that its instruction was handed to, on a machine that has
the step recorded and the program that the run leaves. -/
theorem raised_of_run {budget : Nat}
    (ended : machine.run budget = (.stopped (.fault fault), after)) :
    ∃ last before instruction met, before.Routed last ∧ machine.Alike before ∧
      before.program = after.program ∧ before.program.current = .ok instruction ∧
      before.dispatch last = (.error met, after) ∧ fault.cause = met.toFault.cause := by
  obtain ⟨count, before, last, instruction, met, reached, breaks⟩ := breaks_of_run ended
  obtain ⟨phases, leads, -⟩ := leads_of_paused reached
  have alike := breaks.alike
  have recorded := Untouched.record before last instruction
  have caused : fault.cause = met.toFault.cause := by rw [breaks.placed]; rfl
  exact ⟨last, before.record last instruction, instruction, met,
    (leads.routed .start).of_untouched recorded, ⟨alike.handled, alike.reads, alike.writes⟩,
    breaks.same, breaks.found, breaks.dispatched, caused⟩

/-- A fault of a run is one of a statement or a phase, or the program trips where it stands. -/
theorem fault_cases {budget : Nat} (orderly : machine.console.Orderly)
    (ended : machine.run budget = (.stopped (.fault fault), after)) :
    fault.cause.isOwn = true ∨
      ∃ value, after.program.Trips value ∧ fault.cause = .mishap (.unreadable value) := by
  obtain ⟨last, before, instruction, met, -, alike, same, found, dispatched, caused⟩ :=
    raised_of_run ended
  rw [← same, caused]
  rcases dispatch_error_cases (alike.orderly orderly) found dispatched with ⟨cause, own, rfl⟩ |
    ⟨value, trips, rfl⟩
  · exact .inl own
  · exact .inr ⟨value, trips, rfl⟩

/-- A program that trips where a run faults is what the fault is about. -/
theorem cause_of_trips {budget : Nat} {value : String} (handled : ∀ phase, phase ∈ machine.handled)
    (ended : machine.run budget = (.stopped (.fault fault), after))
    (trips : after.program.Trips value) : fault.cause = .mishap (.unreadable value) := by
  obtain ⟨last, before, instruction, met, routed, alike, same, -, dispatched, caused⟩ :=
    raised_of_run ended
  rw [← same] at trips
  have listed : last ∈ before.handled := alike.handled ▸ handled last
  have follows : before.follow (last.plan before.program) = (.error met, after) :=
    (dispatch_of_handled listed).symm.trans dispatched
  obtain ⟨text, target, left, operator, right, here, read⟩ := trips.statement
  -- The phases before the last one hand the instruction on, so the fault arose in the last one.
  rcases routed.phase_cases here read with rfl | rfl | rfl
  · rw [Phase.plan_execute_of_named? here (Phase.named?_of_parse? read)] at follows
    cases follows
  · rw [Phase.plan_opening here read fun same => by cases same] at follows
    cases follows
  · have planned : (Statement.assign target (.arithmetic left operator right)).carrier.plan
        before.program = .error (.mishap (.unreadable value)) := trips.plan
    rw [planned] at follows
    cases follows
    exact caused

theorem writesNumbers_of_not_separator :
    WritesNumbers fun char => Value.isSeparator char = false := by
  intro value char member
  rw [Text.decimal, String.toList_ofList] at member
  rcases Text.eq_or_isDigit_of_mem_decimalChars member with rfl | digit
  · decide
  · refine Bool.eq_false_iff.mpr fun separator => ?_
    have blank := Value.isBlank_of_isSeparator separator
    rw [Text.isBlank_of_isDigit digit] at blank
    cases blank

/-- A run of a loaded program meets an internal error exactly where an operand that passes for a
number is not read as one. Around such an operand stands an information separator, so where neither
the source nor the input holds one there are no internal errors. -/
theorem internal_error_iff_trips (source : String) (listing : Listing) (machine after : Machine)
    (budget : Nat) (ending : Ending) (loaded : Listing.ofSource source = .ok listing)
    (begins : machine.program = .ofListing listing) (handled : ∀ phase, phase ∈ machine.handled)
    (orderly : machine.console.Orderly) (ended : machine.run budget = (ending, after)) :
    (∀ (value : String) (number : Int),
      Value.integer? (Text.trimChars value.toList) = some number →
        (Value.read value = .number number ↔ ¬ Value.Separated value)) ∧
    (∀ mishap, ending ≠ .stopped (.mishap mishap)) ∧
    (∀ fault, ending = .stopped (.fault fault) →
      (fault.Internal ↔ ∃ value, after.program.Trips value)) ∧
    ((∀ text ∈ source :: machine.console.inputs, ∀ char ∈ text.toList,
        Value.isSeparator char = false) →
      ∀ fault, ending = .stopped (.fault fault) → ¬ fault.Internal) := by
  have inside : machine.program.Inside := begins ▸ Program.inside_ofListing listing
  have blames (fault : Fault) (stopped : ending = .stopped (.fault fault)) :
      fault.Internal ↔ ∃ value, after.program.Trips value := by
    subst stopped
    constructor
    · intro internal
      rcases fault_cases orderly ended with own | ⟨value, trips, -⟩
      · exact absurd internal (Fault.Cause.not_internal_of_isOwn own)
      · exact ⟨value, trips⟩
    · rintro ⟨value, trips⟩
      exact Fault.internal_of_mishap (cause_of_trips handled ended trips)
  refine ⟨fun value number numeric => Value.read_eq_number_iff numeric, ?orderly, blames, ?clean⟩
  case orderly =>
    have orderly := runFrom_ne_mishap inside .execute budget
    rwa [← run, ended] at orderly
  case clean =>
    intro plain fault stopped internal
    obtain ⟨value, trips⟩ := (blames fault stopped).mp internal
    obtain ⟨⟨name, held⟩, separated⟩ := trips.held
    obtain ⟨char, member, separator⟩ := separated.exists_mem
    have spelled := (spelled_kept writesNumbers_of_not_separator).runFrom
      (spelled_of_source loaded begins plain) .execute budget
    rw [← run, ended] at spelled
    rw [spelled.program.vars name value held char member] at separator
    cases separator

/-- A source of one register, which holds a number behind a file separator, and a sum of it. -/
def separatedSource : String :=
  "BEGIN_REGISTER_SEGMENT\n0 \"\x1c5\"\nEND_REGISTER_SEGMENT\n" ++
    "BEGIN_CODE_SEGMENT\n0 let $sum = $0 + $0\n1 output $sum\nEND_CODE_SEGMENT\n"

def separatedSum : Listing where
  registers := ["\"\x1c5\""]
  statements := ["let $sum = $0 + $0", "output $sum"]

theorem ofSource_separatedSource : Listing.ofSource separatedSource = .ok separatedSum := by
  decide +kernel

/-- A listing on a console that holds no input. -/
def unfed (listing : Listing) : Machine where
  program := .ofListing listing
  console := { inputs := [] }

theorem unfed_orderly (listing : Listing) : (unfed listing).console.Orderly :=
  ⟨fun _ => .inl rfl, fun _ => rfl⟩

/-- Not every operand that passes for a number is read as one: a loaded source meets an internal
error. -/
theorem separatedSum_internal :
    Listing.ofSource separatedSource = .ok separatedSum ∧ (unfed separatedSum).console.Orderly ∧
      Value.integer? (Text.trimChars "\x1c5".toList) = some 5 ∧ ∃ fault after,
        (unfed separatedSum).run 3 = (.stopped (.fault fault), after) ∧ fault.Internal :=
  ⟨ofSource_separatedSource, unfed_orderly separatedSum, by decide, _, _, rfl,
    Fault.internal_of_mishap rfl⟩

/-- A source that divides a number in spaces by zero. -/
def spacedSource : String :=
  "BEGIN_REGISTER_SEGMENT\n0 \" 5 \"\n1 0\nEND_REGISTER_SEGMENT\n" ++
    "BEGIN_CODE_SEGMENT\n0 let $q = $0 / $1\nEND_CODE_SEGMENT\n"

def spacedQuotient : Listing where
  registers := ["\" 5 \"", "0"]
  statements := ["let $q = $0 / $1"]

theorem separatedSum_trips :
    (∃ fault after, (unfed separatedSum).run 3 = (.stopped (.fault fault), after) ∧
      fault.Internal ∧ ∃ value, after.program.Trips value) ∧
    Value.read " 5 " = .number 5 ∧ ∃ fault after,
      (unfed spacedQuotient).run 3 = (.stopped (.fault fault), after) ∧ ¬ fault.Internal := by
  have handled : ∀ phase, phase ∈ Phase.all := fun phase => by cases phase <;> decide
  have loaded : Listing.ofSource spacedSource = .ok spacedQuotient := by decide +kernel
  have clear (text : String)
      (clear : text.toList.all (fun char => !Value.isSeparator char) = true) :
      ∀ char ∈ text.toList, Value.isSeparator char = false := fun char member =>
    (Bool.not_eq_true' _).mp (List.all_eq_true.mp clear char member)
  have plain : ∀ text ∈ [spacedSource], ∀ char ∈ text.toList, Value.isSeparator char = false :=
    List.forall_mem_singleton.mpr (clear spacedSource (by decide +kernel))
  obtain ⟨-, -, blames, -⟩ :=
    internal_error_iff_trips separatedSource separatedSum (unfed separatedSum)
    _ 3 _ ofSource_separatedSource rfl handled (unfed_orderly separatedSum) rfl
  obtain ⟨numeric, -, -, clean⟩ := internal_error_iff_trips spacedSource spacedQuotient
    (unfed spacedQuotient) _ 3 _ loaded rfl handled (unfed_orderly spacedQuotient) rfl
  refine ⟨⟨_, _, rfl, Fault.internal_of_mishap rfl,
    (blames _ rfl).mp (Fault.internal_of_mishap rfl)⟩, ?_, _, _, rfl, clean plain _ rfl⟩
  refine (numeric " 5 " 5 (by decide)).mpr fun separated => ?_
  obtain ⟨char, member, separator⟩ := separated.exists_mem
  rw [clear " 5 " (by decide) char member] at separator
  cases separator

end Machine

end LineScript
