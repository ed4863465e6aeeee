import LineScript.Proofs.Machine.InternalErrors
import LineScript.Proofs.Reference.Operations

/-!
The machine carries out the reference. Every step of the reference is a few phases of the machine,
which leave it in the same state, or end it in the same way. One kind of step is not carried out:
the machine trips over a number with an information separator around it, which the reference reads.
-/

namespace LineScript.Reference

/-- The program that a state of the reference stands for. -/
def State.program (statements : List String) (state : State) : Program where
  code := statements
  vars := state.vars
  stack := state.stack
  ip := state.ip

variable {statements : List String} {state after : State} {phase : Phase}

theorem State.current (statements : List String) (state : State) :
    (state.program statements).current = .ok statements[state.ip]? := by
  rw [Program.current]
  by_cases inside : state.ip < statements.length
  · have short : ¬ (statements.length : Int) ≤ state.ip := by omega
    simp [State.program, short]
  · have long : (statements.length : Int) ≤ state.ip := by omega
    simp [State.program, long, List.getElem?_eq_none (Nat.le_of_not_lt inside)]

/-- What a statement comes to in a state, beside the plan of the phase that carries it out. -/
inductive Wants (statements : List String) (state : State) (phase : Phase) :
    Result → Plan → Prop where
  | resume {after : State} (inputs : after.inputs = state.inputs)
      (outputs : after.outputs = state.outputs) :
      Wants statements state phase (.next after) (.ok (.resume (after.program statements)))
  | raise {trouble : Trouble} {cause : Fault.Cause} (same : trouble.toFault = { cause }) :
      Wants statements state phase (.fault phase cause) (.error trouble)
  | read {target line : String} {rest : List String} (held : state.inputs = line :: rest) :
      Wants statements state phase (.next { (state.bind target line).advance with inputs := rest })
        (.ok (.read target))
  | closed {target : String} (exhausted : state.inputs = []) :
      Wants statements state phase (.fault phase .inputClosed) (.ok (.read target))
  | write (text : String) :
      Wants statements state phase (.next { state.advance with outputs := state.outputs ++ [text] })
        (.ok (.write text))

theorem wants_goTo (line : String) :
    Wants statements state phase (state.goTo statements.length phase line)
      ((state.program statements).goTo line >>= fun program => .ok (.resume program)) := by
  by_cases inside : Text.numeral line.toList < statements.length
  · have gone : (state.program statements).goTo line =
        .ok ((state.program statements).jump (Text.numeral line.toList)) := if_pos inside
    rw [State.goTo, if_pos inside, gone]
    exact .resume rfl rfl
  · have gone : (state.program statements).goTo line = Trouble.raise .outOfBounds := if_neg inside
    rw [State.goTo, if_neg inside, gone]
    exact .raise rfl

theorem require_of_some {name value : String} (found : state.vars.get? name = some value) :
    (state.program statements).require name = .ok value := by
  simp [Program.require, State.program, found]

theorem require_of_none {name : String} (missing : state.vars.get? name = none) :
    (state.program statements).require name = Trouble.raise (.missingVariable name) := by
  simp [Program.require, State.program, missing]

/-- An operand reads alike on both sides, or the machine trips over it. -/
theorem operand_cases (statements : List String) (state : State) (name : String) :
    (∃ number, (state.program statements).operand name = .ok number ∧
      state.operand name = .ok number) ∨
      (∃ trouble cause, (state.program statements).operand name = .error trouble ∧
        state.operand name = .error cause ∧ trouble.toFault = { cause }) ∨
      ∃ value, state.vars.get? name = some value ∧ Value.Separated value := by
  cases found : state.vars.get? name with
  | none =>
    rw [Program.operand, require_of_none found, State.operand, found]
    exact .inr (.inl ⟨_, _, rfl, rfl, rfl⟩)
  | some value =>
    simp only [Program.operand, require_of_some found, State.operand, found, integer?_eq, bind,
      Except.bind]
    cases reads : Value.read value with
    | number number =>
      obtain ⟨before, after, padded, -⟩ := Value.read_number_iff_padded.mp reads
      obtain ⟨core, surrounds⟩ := Value.padded_iff.mp padded
      rw [surrounds.integer?_trim]
      exact .inl ⟨number, rfl, rfl⟩
    | notNumeric =>
      rw [Value.read_eq_notNumeric_iff.mp reads]
      exact .inr (.inl ⟨_, _, rfl, rfl, rfl⟩)
    | unreadable => exact .inr (.inr ⟨value, rfl, Value.read_eq_unreadable_iff.mp reads⟩)

theorem wants_compute (target : String) (operator : Operator) (left right : Int) :
    Wants statements state .arithmetic (state.compute target operator left right)
      ((state.program statements).compute target operator left right >>= fun program =>
        .ok (.resume program.advance)) := by
  cases operator with
  | add => exact .resume rfl rfl
  | subtract => exact .resume rfl rfl
  | multiply => exact .resume rfl rfl
  | divide =>
    by_cases zero : right = 0
    · subst zero
      exact .raise rfl
    · rw [State.compute, if_neg zero, quotient_eq_tdiv, remainder_eq_tmod, Program.compute,
        Arithmetic.divide?, if_neg zero]
      exact .resume rfl rfl

/-- The machine trips over no operand of the statement at hand. -/
def State.Clear (statements : List String) (state : State) : Prop :=
  ∀ value, ¬ (state.program statements).Trips value

theorem perform_wants {text : String} {statement : Statement} (clear : state.Clear statements)
    (found : (state.program statements).current = .ok (some text))
    (read : Statement.parse? (Text.trim text).toList = some statement) :
    Wants statements state statement.carrier (state.perform statements.length statement)
      (statement.plan (state.program statements)) := by
  cases statement with
  | assign target origin =>
    cases origin with
    | literal literal => exact .resume rfl rfl
    | stack =>
      simp only [State.perform, Statement.plan, Program.pop?, State.program]
      cases state.stack with
      | nil => exact .raise rfl
      | cons value rest => exact .resume rfl rfl
    | input =>
      rw [State.perform]
      cases held : state.inputs with
      | nil => exact .closed held
      | cons line rest => exact .read held
    | copy source =>
      rw [State.perform, Statement.plan]
      cases found : state.vars.get? source with
      | none =>
        rw [require_of_none found]
        exact .raise rfl
      | some value =>
        rw [require_of_some found]
        exact .resume rfl rfl
    | arithmetic left operator right =>
      rw [State.perform, Statement.plan]
      rcases operand_cases statements state left with
        ⟨first, want, same⟩ | ⟨trouble, cause, want, same, met⟩ | ⟨value, held, separated⟩
      · rcases operand_cases statements state right with
          ⟨second, wantRight, sameRight⟩ | ⟨trouble, cause, wantRight, sameRight, met⟩ |
          ⟨value, held, separated⟩
        · rw [want, same, wantRight, sameRight]
          exact wants_compute target operator first second
        · rw [want, same, wantRight, sameRight]
          exact .raise met
        · exact absurd (.right found read want held separated) (clear value)
      · rw [want, same]
        exact .raise met
      · exact absurd (.left found read held separated) (clear value)
  | jump line => exact wants_goTo line
  | branch left comparison right line =>
    rw [State.perform, Statement.plan]
    cases first : state.vars.get? left with
    | none =>
      rw [require_of_none first]
      exact .raise rfl
    | some leftValue =>
      cases second : state.vars.get? right with
      | none =>
        rw [require_of_some first, require_of_none second]
        exact .raise rfl
      | some rightValue =>
        rw [require_of_some first, require_of_some second]
        by_cases taken : comparison.holds leftValue rightValue = true
        · simp only [holds_eq, bind, Except.bind, taken, ↓reduceIte]
          exact wants_goTo line
        · simp only [holds_eq, bind, Except.bind, taken]
          exact .resume rfl rfl
  | output name =>
    rw [State.perform, Statement.plan]
    cases found : state.vars.get? name with
    | none =>
      rw [require_of_none found]
      exact .raise rfl
    | some value =>
      rw [require_of_some found]
      exact .write value

/-- A machine with all phases and an undisturbed console, which agrees with a state of the reference
after it has carried out some phases. -/
structure Tracks (statements : List String) (done : List Phase) (machine : Machine)
    (state : State) : Prop where
  program : machine.program = state.program statements
  inputs : machine.console.inputs = state.inputs
  outputs : machine.console.outputs.toList = state.outputs
  reading : ∀ call, machine.console.readDisruption call = none
  writing : ∀ call, machine.console.writeDisruption call = none
  handled : ∀ phase, phase ∈ machine.handled
  rules : machine.journal.entries.toList.map Journal.Entry.rule =
    Journal.seedRule :: done.map Phase.name
  number : machine.journal.next = done.length + 1

variable {machine : Machine} {done : List Phase} {instruction : Option String}

theorem Tracks.current (tracks : Tracks statements done machine state) :
    machine.program.current = .ok statements[state.ip]? := by
  rw [tracks.program, State.current]

theorem Tracks.record (tracks : Tracks statements done machine state) (phase : Phase)
    (instruction : Option String) :
    Tracks statements (done ++ [phase]) (machine.record phase instruction) state :=
  { tracks with
    rules := by simp [Machine.record_journal, tracks.rules, Machine.entry]
    number := by simp [Machine.record_journal, tracks.number] }

theorem Tracks.withProgram (tracks : Tracks statements done machine state)
    (inputs : after.inputs = state.inputs) (outputs : after.outputs = state.outputs) :
    Tracks statements done (machine.withProgram (after.program statements)) after :=
  { tracks with
    program := rfl
    inputs := tracks.inputs.trans inputs.symm
    outputs := tracks.outputs.trans outputs.symm }

/-- The fault of a phase that fails with a cause as the last of so many. -/
def located (statements : List String) (state : State) (phase : Phase) (cause : Fault.Cause)
    (number : Nat) : Fault where
  cause := cause
  phase := some phase.name
  ip := some state.ip
  instruction := statements[state.ip]?
  step := some number

/-- The step of a machine does what a step of the reference comes to. -/
def Realizes (statements : List String) (done : List Phase) (machine : Machine) (phase : Phase)
    (state : State) : Result → Prop
  | .next after => ∃ later, machine.step phase = (.ok (some .execute), later) ∧
      Tracks statements (done ++ [phase]) later after
  | .halted => ∃ later, machine.step phase = (.ok none, later) ∧
      Tracks statements (done ++ [phase]) later state
  | .fault blamed cause => blamed = phase ∧ ∃ later, machine.step phase =
        (.error (.fault (located statements state phase cause (done.length + 1))), later) ∧
      Tracks statements (done ++ [phase]) later state

theorem Tracks.faultOf (tracks : Tracks statements done machine state) {trouble : Trouble}
    {cause : Fault.Cause} (same : trouble.toFault = { cause }) (phase : Phase) :
    machine.faultOf phase statements[state.ip]? trouble =
      located statements state phase cause (done.length + 1) := by
  simp [Machine.faultOf, Fault.locate, located, same, tracks.program, tracks.number, State.program]

theorem Wants.realizes {result : Result} {plan : Plan}
    (wants : Wants statements state phase result plan)
    (tracks : Tracks statements done machine state) (planned : phase.plan machine.program = plan) :
    Realizes statements done machine phase state result := by
  have found := tracks.current
  have handled := tracks.handled phase
  have recorded := tracks.record phase statements[state.ip]?
  cases wants with
  | resume inputs outputs =>
    exact ⟨_, Machine.step_proceed found handled planned, recorded.withProgram inputs outputs⟩
  | raise same =>
    refine ⟨rfl, _, ?_, recorded⟩
    rw [Machine.step_raise found handled planned, tracks.faultOf same]
  | read held =>
    have answered := Console.read_of_cons (tracks.reading _) (tracks.inputs.trans held)
    refine ⟨_, Machine.step_read found handled planned answered, ?_⟩
    exact { recorded with
      program := by rw [tracks.program]; rfl
      inputs := rfl }
  | closed exhausted =>
    have refused := Console.read_of_nil (tracks.reading _) (tracks.inputs.trans exhausted)
    have same : (Disruption.closed "").whileReading.toFault = { cause := .inputClosed } := rfl
    have failed := Machine.step_read_error found handled planned refused
    rw [tracks.faultOf same] at failed
    exact ⟨rfl, _, failed, { recorded with }⟩
  | write text =>
    have accepted := Console.write_of_undisturbed (tracks.writing _) text
    refine ⟨_, Machine.step_write found handled planned accepted, ?_⟩
    exact { recorded with
      program := by rw [tracks.program]; rfl
      outputs := by simp [tracks.outputs] }

/-- A phase that hands the program on. -/
theorem Tracks.pass (tracks : Tracks statements done machine state) {next : Phase}
    (planned : phase.plan machine.program = .ok (.proceed machine.program (some next))) :
    Machine.Leads phase machine [phase] next (machine.record phase statements[state.ip]?) :=
  .step (Machine.step_proceed tracks.current (tracks.handled phase) planned) (.here next _)

theorem realizes_finish (tracks : Tracks statements done machine state) :
    Realizes statements done machine .finish state .halted := by
  have taken := Machine.step_proceed tracks.current (tracks.handled .finish) rfl
  exact ⟨_, taken, tracks.record .finish statements[state.ip]?⟩

theorem realizes_raise (tracks : Tracks statements done machine state) {cause : Fault.Cause}
    (planned : phase.plan machine.program = Trouble.raise cause) :
    Realizes statements done machine phase state (.fault phase cause) :=
  Wants.realizes (.raise rfl) tracks planned

/-- The keyword of a statement leads to the phase that carries it out. -/
theorem exists_leads_carrier (tracks : Tracks statements done machine state) {text : String}
    {statement : Statement} (found : machine.program.current = .ok (some text))
    (read : Statement.parse? (Text.trim text).toList = some statement) :
    ∃ front before, phasesOf statement = front ++ [statement.carrier] ∧
      Machine.Leads .execute machine front statement.carrier before ∧
      Tracks statements (done ++ front) before state := by
  have named := Phase.named?_of_parse? read
  have opened := tracks.pass (Phase.plan_execute_of_named? found named)
  have recorded := tracks.record .execute statements[state.ip]?
  by_cases same : statement.carrier = statement.opening
  · exact ⟨[.execute], _, phasesOf_of_opening same, same ▸ opened, recorded⟩
  · have handed := recorded.pass (Phase.plan_opening found read same)
    refine ⟨[.execute, statement.opening], _, phasesOf_of_apart same, opened.trans handed, ?_⟩
    have both := recorded.record statement.opening statements[state.ip]?
    rwa [List.append_assoc] at both

theorem decode_malformed {text : String} (unread : Statement.parse? (Text.trim text).toList = none)
    (named : Phase.named? text = some phase) (inside : phase ≠ .finish) :
    decode text = .malformed phase (Text.trim text) := by
  rw [decode, unread, named]
  cases phase with
  | finish => exact absurd rfl inside
  | _ => rfl

/-- The first phases of a step lead to the one that carries it out. -/
theorem exists_realizes (tracks : Tracks statements done machine state)
    (clear : state.Clear statements) :
    ∃ front last before, phases (statements.map decode) state = front ++ [last] ∧
      Machine.Leads .execute machine front last before ∧
      Realizes statements (done ++ front) before last state
        (step (statements.map decode) state) := by
  have found := tracks.current
  have line : (statements.map decode)[state.ip]? = statements[state.ip]?.map decode :=
    List.getElem?_map
  have recorded := tracks.record .execute statements[state.ip]?
  rw [phases, step, line, List.length_map]
  cases here : statements[state.ip]? with
  | none =>
    rw [here] at found
    have planned : Phase.execute.plan machine.program =
        .ok (.proceed machine.program (some .finish)) := by
      rw [Phase.plan, found]
    exact ⟨[.execute], .finish, _, rfl, tracks.pass planned, realizes_finish recorded⟩
  | some text =>
    rw [here] at found
    rw [Option.map_some]
    cases read : Statement.parse? (Text.trim text).toList with
    | some statement =>
      have decoded : decode text = .perform statement := by rw [decode, read]
      rw [decoded]
      obtain ⟨front, before, listed, leads, reached⟩ := exists_leads_carrier tracks found read
      refine ⟨front, statement.carrier, before, listed, leads, ?_⟩
      refine (perform_wants clear (tracks.program ▸ found) read).realizes reached ?_
      rw [reached.program, ← tracks.program]
      exact Phase.plan_carrier found read
    | none =>
      cases named : Phase.named? text with
      | none =>
        have decoded : decode text = .unknown text := by rw [decode, read, named]
        have planned : Phase.execute.plan machine.program =
            Trouble.raise (.unknownInstruction text) := by
          simp only [Phase.plan, found, named]
        rw [decoded]
        refine ⟨[], .execute, machine, rfl, .here .execute machine, ?_⟩
        rw [List.append_nil]
        exact realizes_raise tracks planned
      | some phase =>
        have passed := tracks.pass (Phase.plan_execute_of_named? found named)
        by_cases ends : phase = .finish
        · subst ends
          have decoded : decode text = .quit := by rw [decode, read, named]
          rw [decoded]
          exact ⟨[.execute], .finish, _, rfl, passed, realizes_finish recorded⟩
        · have planned : phase.plan machine.program =
              Trouble.raise (phase.invalid (Text.trim text)) := by
            rw [Phase.plan_of_current ⟨Phase.ne_execute_of_named? named, ends⟩ found,
              Phase.planFor, read]
          rw [decode_malformed read named ends]
          exact ⟨[.execute], phase, _, rfl, passed, realizes_raise recorded planned⟩

/-- The first phases of a step lead to the one that trips. -/
theorem exists_trips (tracks : Tracks statements done machine state) {value : String}
    (trips : (state.program statements).Trips value) :
    ∃ front before, phases (statements.map decode) state = front ++ [.arithmetic] ∧
      Machine.Leads .execute machine front .arithmetic before ∧
      Realizes statements (done ++ front) before .arithmetic state
        (.fault .arithmetic (.mishap (.unreadable value))) := by
  obtain ⟨text, target, left, operator, right, found, read⟩ := trips.statement
  rw [← tracks.program] at found
  obtain ⟨front, before, listed, leads, reached⟩ := exists_leads_carrier tracks found read
  have planned : Phase.arithmetic.plan before.program = .error (.mishap (.unreadable value)) :=
    reached.program ▸ trips.plan
  refine ⟨front, before, ?_, leads, Wants.realizes (.raise rfl) reached planned⟩
  have here : statements[state.ip]? = some text := Except.ok.inj (tracks.current.symm.trans found)
  have decoded : decode text = .perform (.assign target (.arithmetic left operator right)) := by
    rw [decode, read]
  rw [phases, List.getElem?_map, here, Option.map_some, decoded]
  exact listed

/-- The way in which the machine ends when the reference does, after so many phases. -/
def Status.ending (statements : List String) (state : State) (number : Nat) : Status → Ending
  | .running => .paused .execute
  | .halted => .done
  | .fault phase cause => .stopped (.fault (located statements state phase cause number))

theorem clear_after {code : List Instruction} {count : Nat} (taken : step code state = .next after)
    (clear : ∀ earlier < count + 1, (run code state earlier).2.Clear statements) :
    ∀ earlier < count, (run code after earlier).2.Clear statements := by
  intro earlier small
  have later := clear (earlier + 1) (Nat.succ_lt_succ small)
  simpa only [run, taken] using later

/-- The machine follows the reference for any number of steps that it does not trip in. -/
theorem run_tracks (tracks : Tracks statements done machine state) (count : Nat)
    (clear : ∀ earlier < count, (run (statements.map decode) state earlier).2.Clear statements) :
    ∃ later, machine.runFrom .execute (trace (statements.map decode) state count).length =
        ((run (statements.map decode) state count).1.ending statements
          (run (statements.map decode) state count).2
          (done ++ trace (statements.map decode) state count).length, later) ∧
      Tracks statements (done ++ trace (statements.map decode) state count) later
        (run (statements.map decode) state count).2 := by
  induction count generalizing done machine state with
  | zero =>
    refine ⟨machine, Machine.runFrom_zero_of_current tracks.current, ?_⟩
    rwa [trace, List.append_nil]
  | succ count ih =>
    obtain ⟨front, last, before, listed, leads, realizes⟩ :=
      exists_realizes tracks (clear 0 (Nat.succ_pos count))
    rw [trace, run, listed]
    cases taken : step (statements.map decode) state with
    | next after =>
      rw [taken] at realizes
      obtain ⟨middle, moved, reached⟩ := realizes
      obtain ⟨later, ended, agrees⟩ := ih reached (clear_after taken clear)
      have whole := leads.trans (.step moved (.here .execute middle))
      refine ⟨later, ?_, by simpa using agrees⟩
      rw [List.length_append, whole.runFrom, ended]
      simp
    | halted =>
      rw [taken] at realizes
      obtain ⟨later, ended, reached⟩ := realizes
      refine ⟨later, ?_, by simpa using reached⟩
      rw [List.append_nil, List.length_append, leads.runFrom]
      exact (Machine.Ends.done ended).runFrom 0
    | fault phase cause =>
      rw [taken] at realizes
      obtain ⟨rfl, later, failed, reached⟩ := realizes
      refine ⟨later, ?_, by simpa using reached⟩
      rw [List.append_nil, List.length_append, leads.runFrom]
      refine ((Machine.Ends.stopped failed).runFrom 0).trans ?_
      simp [Status.ending, Nat.add_assoc]

variable {count budget : Nat}

theorem trace_one (code : List Instruction) (state : State) :
    trace code state 1 = phases code state := by
  rw [trace]
  cases step code state <;> exact List.append_nil _

/-- The machine ends at the first step that it trips in. -/
theorem run_trips (tracks : Tracks statements done machine state)
    (clear : ∀ earlier < count, (run (statements.map decode) state earlier).2.Clear statements)
    (running : (run (statements.map decode) state count).1 = .running) {value : String}
    (trips : ((run (statements.map decode) state count).2.program statements).Trips value) :
    ∃ later, machine.runFrom .execute (trace (statements.map decode) state (count + 1)).length =
        (.stopped (.fault (located statements (run (statements.map decode) state count).2
          .arithmetic (.mishap (.unreadable value))
          (done ++ trace (statements.map decode) state (count + 1)).length)), later) ∧
      Tracks statements (done ++ trace (statements.map decode) state (count + 1)) later
        (run (statements.map decode) state count).2 := by
  induction count generalizing done machine state with
  | zero =>
    obtain ⟨front, before, listed, leads, -, later, failed, reached⟩ := exists_trips tracks trips
    rw [trace_one, listed]
    refine ⟨later, ?_, by simpa [run] using reached⟩
    rw [List.length_append, leads.runFrom]
    refine ((Machine.Ends.stopped failed).runFrom 0).trans ?_
    simp [run, Nat.add_assoc]
  | succ count ih =>
    obtain ⟨front, last, before, listed, leads, realizes⟩ :=
      exists_realizes tracks (clear 0 (Nat.succ_pos count))
    rw [run] at running trips ⊢
    rw [trace, listed]
    cases taken : step (statements.map decode) state with
    | next after =>
      simp only [taken] at realizes running trips ⊢
      obtain ⟨middle, moved, reached⟩ := realizes
      obtain ⟨later, ended, agrees⟩ := ih reached (clear_after taken clear) running trips
      have whole := leads.trans (.step moved (.here .execute middle))
      refine ⟨later, ?_, by simpa using agrees⟩
      rw [List.length_append, whole.runFrom, ended]
      simp
    | halted =>
      simp only [taken] at running
      cases running
    | fault phase cause =>
      simp only [taken] at running
      cases running

theorem phases_pos (code : List Instruction) (state : State) : 0 < (phases code state).length := by
  rw [phases]
  split
  · decide
  · decide
  · exact Nat.one_pos
  · exact Nat.two_pos
  · rename_i statement _
    cases statement with
    | assign target origin => cases origin <;> exact Nat.succ_pos _
    | _ => exact Nat.succ_pos _

/-- As long as the reference runs, each of its steps takes a phase of the machine or more. -/
theorem length_le_trace {code : List Instruction} (running : (run code state count).1 = .running) :
    count ≤ (trace code state count).length := by
  induction count generalizing state with
  | zero => exact Nat.zero_le _
  | succ count ih =>
    rw [run] at running
    rw [trace, List.length_append]
    have first := phases_pos code state
    cases taken : step code state with
    | next after =>
      rw [taken] at running
      have rest := ih running
      simp only
      omega
    | halted => rw [taken] at running; contradiction
    | fault phase cause => rw [taken] at running; contradiction

theorem Setup.tracks (setup : Setup) (verbose : Bool) :
    Tracks setup.statements [] (setup.machine verbose) setup.start where
  program := rfl
  inputs := rfl
  outputs := rfl
  reading _ := rfl
  writing _ := rfl
  handled phase := show phase ∈ Phase.all by cases phase <;> decide
  rules := rfl
  number := rfl

section Ending

variable {status : Status} {number : Nat}

theorem Status.ending_final (settled : status ≠ .running) (next : Phase) :
    status.ending statements state number ≠ .paused next := by
  cases status with
  | running => exact absurd rfl settled
  | halted => simp [Status.ending]
  | fault phase cause => simp [Status.ending]

theorem Status.ending_eq_done_iff :
    status.ending statements state number = .done ↔ status = .halted := by
  cases status <;> simp [Status.ending]

theorem Status.ending_eq_fault_iff {fault : Fault} :
    status.ending statements state number = .stopped (.fault fault) ↔
      ∃ phase cause, status = .fault phase cause ∧
        fault = located statements state phase cause number := by
  cases status with
  | running => simp [Status.ending]
  | halted => simp [Status.ending]
  | fault phase cause =>
    constructor
    · intro same
      cases same
      exact ⟨phase, cause, rfl, rfl⟩
    · rintro ⟨_, _, ⟨rfl⟩, rfl⟩
      rfl

theorem Status.ending_ne_mishap (mishap : Mishap) :
    status.ending statements state number ≠ .stopped (.mishap mishap) := by
  cases status <;> simp [Status.ending]

end Ending

/-- A state in which the reference ended is one that it stood in before. -/
theorem exists_running_of_settled {code : List Instruction}
    (settled : (run code state count).1 ≠ .running) :
    ∃ earlier < count, run code state earlier = (.running, (run code state count).2) := by
  induction count generalizing state with
  | zero => exact absurd rfl settled
  | succ count ih =>
    rw [run] at settled ⊢
    cases taken : step code state with
    | next after =>
      simp only [taken] at settled ⊢
      obtain ⟨earlier, small, same⟩ := ih settled
      exact ⟨earlier + 1, Nat.succ_lt_succ small, by rw [run, taken]; exact same⟩
    | halted => exact ⟨0, Nat.succ_pos count, rfl⟩
    | fault phase cause => exact ⟨0, Nat.succ_pos count, rfl⟩

/-- If the machine ends within a budget without tripping, so does the reference within as many
steps, and in the same way. -/
theorem ending_of_ended {ending : Ending} {later : Machine}
    (tracks : Tracks statements done machine state)
    (clear : ∀ earlier < budget, (run (statements.map decode) state earlier).2.Clear statements)
    (ended : machine.runFrom .execute budget = (ending, later))
    (final : ∀ next, ending ≠ .paused next) :
    ending = (run (statements.map decode) state budget).1.ending statements
      (run (statements.map decode) state budget).2
      (done ++ trace (statements.map decode) state budget).length := by
  obtain ⟨after, followed, -⟩ := run_tracks tracks budget clear
  have settled : (run (statements.map decode) state budget).1 ≠ .running := by
    intro running
    have enough := Machine.runFrom_stable ended final
      ((trace (statements.map decode) state budget).length - budget)
    rw [Nat.add_sub_cancel' (length_le_trace running), followed, running] at enough
    exact final .execute (Prod.mk.inj enough).1.symm
  exact (Machine.runFrom_unique ended followed final fun _ => Status.ending_final settled _).1

namespace Setup

variable {setup : Setup} {verbose : Bool} {later : Machine} {value : String}

/-- The machine trips in none of the first so many steps. -/
def Clear (setup : Setup) (count : Nat) : Prop :=
  ∀ earlier < count, (setup.run earlier).2.Clear setup.statements

/-- The machine trips over a value in the step after so many, and in none before it. -/
structure Trips (setup : Setup) (count : Nat) (value : String) : Prop where
  clear : setup.Clear count
  running : (setup.run count).1 = .running
  here : ((setup.run count).2.program setup.statements).Trips value

/-- How the reference ends after so many steps, told as an ending of the machine. -/
def ending (setup : Setup) (count : Nat) : Ending :=
  (setup.run count).1.ending setup.statements (setup.run count).2 (setup.trace count).length

/-- The fault of a machine that trips over a value in the step after so many. -/
def tripFault (setup : Setup) (count : Nat) (value : String) : Fault :=
  located setup.statements (setup.run count).2 .arithmetic (.mishap (.unreadable value))
    (setup.trace (count + 1)).length

/-- Either the machine never trips within so many steps, or there is a first one that it trips
in. -/
theorem clear_or_trips (setup : Setup) (count : Nat) :
    setup.Clear count ∨ ∃ earlier value, setup.Trips earlier value := by
  induction count with
  | zero => exact .inl fun earlier small => absurd small (Nat.not_lt_zero earlier)
  | succ count ih =>
    rcases ih with clear | tripped
    · by_cases fine : (setup.run count).2.Clear setup.statements
      · exact .inl fun earlier small => (Nat.lt_succ_iff_lt_or_eq.mp small).elim (clear earlier)
          fun same => same ▸ fine
      · obtain ⟨value, here⟩ := not_forall_not.mp fine
        refine .inr ⟨count, value, clear, ?_, here⟩
        -- A state in which the reference has ended was passed before, and was clear then.
        by_contra settled
        obtain ⟨earlier, small, same⟩ := exists_running_of_settled settled
        have passed := clear earlier small value
        rw [run, same] at passed
        exact passed here
    · exact .inr tripped

theorem follows (setup : Setup) (verbose : Bool) {count : Nat} (clear : setup.Clear count) :
    ∃ later, (setup.machine verbose).run (setup.trace count).length = (setup.ending count, later) ∧
      Tracks setup.statements (setup.trace count) later (setup.run count).2 :=
  run_tracks (setup.tracks verbose) count clear

theorem Trips.stops {count : Nat} (trips : setup.Trips count value) (verbose : Bool) :
    ∃ later, (setup.machine verbose).run (setup.trace (count + 1)).length =
        (.stopped (.fault (setup.tripFault count value)), later) ∧
      Tracks setup.statements (setup.trace (count + 1)) later (setup.run count).2 :=
  run_trips (setup.tracks verbose) trips.clear trips.running trips.here

/-- The machine ends as the reference does, or because it trips. -/
theorem ending_cases {budget : Nat} {ending : Ending}
    (ended : (setup.machine verbose).run budget = (ending, later))
    (final : ∀ next, ending ≠ .paused next) :
    setup.Clear budget ∧ ending = setup.ending budget ∨
      ∃ count value, setup.Trips count value ∧
        ending = .stopped (.fault (setup.tripFault count value)) := by
  rcases setup.clear_or_trips budget with clear | ⟨count, value, trips⟩
  · exact .inl ⟨clear, ending_of_ended (setup.tracks verbose) clear ended final⟩
  · obtain ⟨after, stopped, -⟩ := trips.stops verbose
    exact .inr ⟨count, value, trips, (Machine.runFrom_unique ended stopped final (by simp)).1⟩

/-- Where no information separator comes in, none is ever around an operand. -/
theorem clear_of_plain (plain : ∀ text ∈ setup.registers ++ setup.statements ++ setup.inputs,
    ∀ char ∈ text.toList, Value.isSeparator char = false) (count : Nat) : setup.Clear count := by
  induction count with
  | zero => exact fun earlier small => absurd small (Nat.not_lt_zero earlier)
  | succ count clear =>
    obtain ⟨code, inputs⟩ := List.forall_mem_append.mp plain
    obtain ⟨registers, statements⟩ := List.forall_mem_append.mp code
    have spelled : (setup.machine false).Spelled fun char => Value.isSeparator char = false :=
      ⟨Program.spelled_ofListing registers statements, inputs⟩
    obtain ⟨later, reached, tracks⟩ := setup.follows false clear
    have kept := (Machine.spelled_kept Machine.writesNumbers_of_not_separator).runFrom
      spelled .execute (setup.trace count).length
    rw [← Machine.run, reached] at kept
    intro earlier small value trips
    rcases Nat.lt_succ_iff_lt_or_eq.mp small with before | rfl
    · exact clear earlier before value trips
    · obtain ⟨⟨name, held⟩, separated⟩ := trips.held
      obtain ⟨char, member, separator⟩ := separated.exists_mem
      rw [← tracks.program] at held
      rw [kept.program.vars name value held char member] at separator
      cases separator

end Setup

/-- Programs run as the reference has them run, unless the machine trips over an operand: after the
phases of any number of steps that it does not trip in, the machine agrees with the reference; in
the first step that it trips in, it ends with an internal error and changes nothing. The machine
halts, and faults with another fault, if and only if the reference does before any such step, and
nothing else ends it. Where neither the program nor its input holds an information separator, there
is no such step. -/
theorem machine_refines (setup : Setup) (verbose : Bool) :
    (∀ count, setup.Clear count → ∃ later,
      (setup.machine verbose).run (setup.trace count).length = (setup.ending count, later) ∧
        Tracks setup.statements (setup.trace count) later (setup.run count).2) ∧
    (∀ count value, setup.Trips count value → ∃ later,
      (setup.machine verbose).run (setup.trace (count + 1)).length =
          (.stopped (.fault (setup.tripFault count value)), later) ∧
        Tracks setup.statements (setup.trace (count + 1)) later (setup.run count).2) ∧
    ((∃ budget later, (setup.machine verbose).run budget = (.done, later)) ↔
      ∃ count, setup.Clear count ∧ (setup.run count).1 = .halted) ∧
    (∀ fault, (∃ budget later,
      (setup.machine verbose).run budget = (.stopped (.fault fault), later)) ↔
      (∃ count phase cause, setup.Clear count ∧ (setup.run count).1 = .fault phase cause ∧
        fault = located setup.statements (setup.run count).2 phase cause
          (setup.trace count).length) ∨
      ∃ count value, setup.Trips count value ∧ fault = setup.tripFault count value) ∧
    (∀ budget later mishap,
      (setup.machine verbose).run budget ≠ (.stopped (.mishap mishap), later)) ∧
    ((∀ text ∈ setup.registers ++ setup.statements ++ setup.inputs, ∀ char ∈ text.toList,
      Value.isSeparator char = false) → ∀ count, setup.Clear count) := by
  refine ⟨fun count clear => setup.follows verbose clear,
    fun count value trips => trips.stops verbose,
    ?done, fun fault => ?fault, ?mishap, Setup.clear_of_plain⟩
  case done =>
    constructor
    · rintro ⟨budget, later, ended⟩
      rcases Setup.ending_cases ended (by simp) with ⟨clear, same⟩ | ⟨count, value, -, same⟩
      · exact ⟨budget, clear, Status.ending_eq_done_iff.mp same.symm⟩
      · cases same
    · rintro ⟨count, clear, halted⟩
      obtain ⟨later, ended, -⟩ := setup.follows verbose clear
      rw [Setup.ending, Status.ending_eq_done_iff.mpr halted] at ended
      exact ⟨_, later, ended⟩
  case fault =>
    constructor
    · rintro ⟨budget, later, ended⟩
      rcases Setup.ending_cases ended (by simp) with ⟨clear, same⟩ | ⟨count, value, trips, same⟩
      · obtain ⟨phase, cause, faulted, placed⟩ := Status.ending_eq_fault_iff.mp same.symm
        exact .inl ⟨budget, phase, cause, clear, faulted, placed⟩
      · cases same
        exact .inr ⟨count, value, trips, rfl⟩
    · rintro (⟨count, phase, cause, clear, faulted⟩ | ⟨count, value, trips, rfl⟩)
      · obtain ⟨later, ended, -⟩ := setup.follows verbose clear
        rw [Setup.ending, Status.ending_eq_fault_iff.mpr ⟨phase, cause, faulted⟩] at ended
        exact ⟨_, later, ended⟩
      · obtain ⟨later, ended, -⟩ := trips.stops verbose
        exact ⟨_, later, ended⟩
  case mishap =>
    intro budget later mishap ended
    rcases Setup.ending_cases ended (by simp) with ⟨-, same⟩ | ⟨count, value, -, same⟩
    · exact Status.ending_ne_mishap mishap same.symm
    · cases same

/-- A register that holds a number behind a file separator, and a sum of it. -/
def separatedSetup : Setup where
  registers := ["\"\x1c5\""]
  statements := ["let $sum = $0 + $0", "output $sum"]
  inputs := []

/-- The reference adds what the machine trips over. -/
theorem separatedSetup_diverges :
    separatedSetup.run 3 =
      (.halted, {
        vars := ⟨[("0", "\x1c5"), ("sum", "10")]⟩
        stack := []
        ip := 2
        inputs := []
        outputs := ["10"] }) ∧
    separatedSetup.Trips 0 "\x1c5" ∧
    ∃ fault later, (separatedSetup.machine false).run 3 = (.stopped (.fault fault), later) ∧
      fault.Internal ∧ later.console.outputs = #[] := by
  have separated : Value.Separated "\x1c5" := Value.read_eq_unreadable_iff.mp (by decide)
  have trips : separatedSetup.Trips 0 "\x1c5" :=
    ⟨fun _ small => absurd small (Nat.not_lt_zero _), rfl, .left rfl rfl rfl separated⟩
  exact ⟨by decide +kernel, trips, _, _, rfl, Fault.internal_of_mishap rfl, rfl⟩

end LineScript.Reference
