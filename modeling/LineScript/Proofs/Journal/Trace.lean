import LineScript.Proofs.Journal.Numbering
import LineScript.Proofs.Journal.Turns
import LineScript.Proofs.Machine.Frame

/-!
The journal as a trace of control. Its entries come in turns: those of one turn are about one place,
and from turn to turn the position goes where the statement at hand leads.
-/

namespace LineScript

/-- Where a statement leads from a position, in code of some size. -/
inductive Statement.LeadsTo (size : Nat) (position : Int) : Statement → Int → Prop where
  | assign (target : String) (origin : Origin) :
      LeadsTo size position (.assign target origin) (position + 1)
  | output (name : String) : LeadsTo size position (.output name) (position + 1)
  | passed (left : String) (comparison : Comparison) (right line : String) :
      LeadsTo size position (.branch left comparison right line) (position + 1)
  | jump {line : String} (inside : Text.numeral line.toList < size) :
      LeadsTo size position (.jump line) (Text.numeral line.toList)
  | taken {left right line : String} {comparison : Comparison}
      (inside : Text.numeral line.toList < size) :
      LeadsTo size position (.branch left comparison right line) (Text.numeral line.toList)

theorem Phase.name_injective : Function.Injective Phase.name := by
  intro phase other same
  have found := Phase.ofName?_name phase
  rw [same, Phase.ofName?_name] at found
  exact (Option.some.inj found).symm

namespace Journal

/-- Two entries about one place, where the program looked the same. -/
structure Entry.SamePlace (first later : Entry) : Prop where
  ip : later.ip = first.ip
  instruction : later.instruction = first.instruction
  snapshot : later.snapshot = first.snapshot

/-- An entry after another one: about the same place, or where the statement at hand leads. -/
inductive Entry.Next (code : List String) (first later : Entry) : Prop where
  | within (goesOn : later.rule ≠ Phase.execute.name) (same : first.SamePlace later) :
      Next code first later
  | across {position target : Int} {text : String} {statement : Statement}
      (begins : later.rule = Phase.execute.name) (here : first.ip = some position)
        (instruction : first.instruction = some text)
      (read : Statement.parse? (Text.trim text).toList = some statement)
      (leads : statement.LeadsTo code.length position target) (there : later.ip = some target) :
      Next code first later

/-- An entry about a position in the code, with the instruction there, or about the end of the code.
A verbose journal keeps snapshots. -/
def Entry.Placed (code : List String) (verbose : Bool) (entry : Entry) : Prop :=
  ∃ position : Nat, position ≤ code.length ∧ entry.ip = some (position : Int) ∧
    entry.instruction = code[position]? ∧ (entry.instruction = none ↔ position = code.length) ∧
    entry.snapshot.isSome = verbose

/-- The entries of phases that were carried out one after the other. -/
structure Traced (code : List String) (verbose : Bool) (phases : List Phase) (steps : List Entry) :
    Prop where
  rules : steps.map Entry.rule = phases.map Phase.name
  follows : phases.IsChain Phase.Follows
  next : steps.IsChain (Entry.Next code)
  placed : ∀ entry ∈ steps, entry.Placed code verbose

variable {code : List String} {verbose : Bool} {phases : List Phase} {steps : List Entry}
  {phase next : Phase} {entry first later : Entry}

theorem Traced.push (traced : Traced code verbose (phases ++ [phase]) (steps ++ [entry]))
    (follows : phase.Follows next) (reached : entry.Next code later) (rule : later.rule = next.name)
    (placed : later.Placed code verbose) :
    Traced code verbose (phases ++ [phase] ++ [next]) (steps ++ [entry] ++ [later]) where
  rules := by
    rw [List.map_append, traced.rules]
    simp [rule]
  follows := by
    rw [List.append_assoc, List.singleton_append, List.isChain_append_cons_cons]
    exact ⟨traced.follows, follows, List.isChain_singleton next⟩
  next := by
    rw [List.append_assoc, List.singleton_append, List.isChain_append_cons_cons]
    exact ⟨traced.next, reached, List.isChain_singleton later⟩
  placed := List.forall_mem_append.mpr ⟨traced.placed, List.forall_mem_singleton.mpr placed⟩

/-- What was traced before the last entry. -/
theorem Traced.front (traced : Traced code verbose (phases ++ [phase]) (steps ++ [entry])) :
    Traced code verbose phases steps where
  rules := by
    have rules := traced.rules
    rw [List.map_append, List.map_append] at rules
    exact (List.append_inj' rules rfl).1
  follows := traced.follows.left_of_append
  next := traced.next.left_of_append
  placed := fun entry member => traced.placed entry (List.mem_append_left _ member)

/-- Two places in one turn: no turn begins after the first of them and up to the other. -/
def SameTurn (steps : List Entry) (place other : Nat) : Prop :=
  place ≤ other ∧ ∀ between entry, place < between → between ≤ other →
    steps[between]? = some entry → entry.rule ≠ Phase.execute.name

theorem Traced.next_of_getElem? {place : Nat} (traced : Traced code verbose phases steps)
    (here : steps[place]? = some first) (there : steps[place + 1]? = some later) :
    first.Next code later := by
  obtain ⟨-, rfl⟩ := List.getElem?_eq_some_iff.mp here
  obtain ⟨inside, rfl⟩ := List.getElem?_eq_some_iff.mp there
  exact List.isChain_iff_getElem.mp traced.next place inside

/-- The entries of a turn are about one place. -/
theorem Traced.samePlace {place other : Nat} (traced : Traced code verbose phases steps)
    (turn : SameTurn steps place other) (here : steps[place]? = some first)
    (there : steps[other]? = some later) : first.SamePlace later := by
  obtain ⟨order, goesOn⟩ := turn
  induction other, order using Nat.le_induction generalizing later with
  | base =>
    rw [here] at there
    obtain rfl := Option.some.inj there
    exact ⟨rfl, rfl, rfl⟩
  | succ other order ih =>
    have inside := Nat.lt_of_succ_lt (List.getElem?_eq_some_iff.mp there).1
    have found : steps[other]? = some steps[other] := List.getElem?_eq_getElem inside
    have before := ih found fun between entry after until_ =>
      goesOn between entry after (Nat.le_succ_of_le until_)
    cases traced.next_of_getElem? found there with
    | within _ same =>
      exact ⟨same.ip.trans before.ip, same.instruction.trans before.instruction,
        same.snapshot.trans before.snapshot⟩
    | across begins =>
      exact absurd begins (goesOn (other + 1) later (Nat.lt_succ_of_le order) le_rfl there)

/-- From turn to turn the position goes where the statement at hand leads. -/
theorem Traced.leadsTo {place other : Nat} (traced : Traced code verbose phases steps)
    (turn : SameTurn steps place other) (here : steps[place]? = some first)
    (there : steps[other + 1]? = some later) (begins : later.rule = Phase.execute.name) :
    ∃ (position target : Nat) (text : String) (statement : Statement),
      first.ip = some (position : Int) ∧ later.ip = some (target : Int) ∧
        code[position]? = some text ∧
        Statement.parse? (Text.trim text).toList = some statement ∧
        statement.LeadsTo code.length position target := by
  have inside := Nat.lt_of_succ_lt (List.getElem?_eq_some_iff.mp there).1
  have found : steps[other]? = some steps[other] := List.getElem?_eq_getElem inside
  have same := traced.samePlace turn here found
  obtain ⟨position, -, firstIp, firstLine, -⟩ := traced.placed first (List.mem_of_getElem? here)
  obtain ⟨target, -, laterIp, -⟩ := traced.placed later (List.mem_of_getElem? there)
  cases traced.next_of_getElem? found there with
  | within goesOn => exact absurd begins goesOn
  | @across from_ to_ text statement _ ip line read leads goes =>
    rw [same.ip, firstIp] at ip
    rw [same.instruction, firstLine] at line
    rw [laterIp] at goes
    obtain rfl := Option.some.inj ip
    obtain rfl := Option.some.inj goes
    exact ⟨position, target, text, statement, firstIp, laterIp, line, read, leads⟩

/-- What the entries after the seed tell of a run over some code, and of how it ended. -/
structure Tells (code : List String) (verbose : Bool) (ending : Ending)
    (steps : List Entry) : Prop where
  rules : ∃ phases : List Phase, steps.map Entry.rule = phases.map Phase.name ∧
    (∃ word, Phase.Whole word ∧ phases <+: word) ∧ (ending = .done ↔ Phase.Whole phases) ∧
    ∀ place, phases[place]? = some .finish → place + 1 = phases.length
  placed : ∀ entry ∈ steps, entry.Placed code verbose
  turns : ∀ place other first later, SameTurn steps place other → steps[place]? = some first →
    steps[other]? = some later → first.SamePlace later
  moves : ∀ place other first later, SameTurn steps place other →
    steps[place]? = some first → first.rule = Phase.execute.name →
    steps[other + 1]? = some later → later.rule = Phase.execute.name →
    ∃ (position target : Nat) (text : String) (statement : Statement),
      first.ip = some (position : Int) ∧ later.ip = some (target : Int) ∧
        code[position]? = some text ∧
        Statement.parse? (Text.trim text).toList = some statement ∧
        statement.LeadsTo code.length position target

theorem Traced.tells {ending : Ending} {word : List Phase}
    (traced : Traced code verbose phases steps)
    (whole : Phase.Whole word) (begins : phases <+: word)
    (done : ending = .done ↔ Phase.Whole phases) :
    Tells code verbose ending steps where
  rules := by
    refine ⟨phases, traced.rules, ⟨word, whole, begins⟩, done, fun place found => ?_⟩
    obtain ⟨rest, rfl⟩ := begins
    have inside := (List.getElem?_eq_some_iff.mp found).1
    have last := whole.finish_last ((List.getElem?_append_left inside).trans found)
    rw [List.length_append] at last
    omega
  placed := traced.placed
  turns _ _ _ _ turn here there := traced.samePlace turn here there
  moves _ _ _ _ turn here _ there begins := traced.leadsTo turn here there begins

end Journal

/-- A statement that is carried out goes where it leads. -/
theorem Statement.Acts.leadsTo {machine after : Machine} {statement : Statement} {action : Action}
    {outcome : Option Phase} (acts : statement.Acts machine.program action)
    (performed : machine.perform action = (.ok outcome, after)) :
    statement.LeadsTo machine.program.code.length machine.program.ip after.program.ip := by
  cases acts with
  | literal => cases performed; exact .assign _ _
  | pop => cases performed; exact .assign _ _
  | input =>
    rw [Machine.perform] at performed
    split at performed <;> cases performed
    exact .assign _ _
  | copy => cases performed; exact .assign _ _
  | @arithmetic _ _ _ _ _ _ computed _ _ result =>
    cases performed
    have goes : computed.advance.ip = machine.program.ip + 1 :=
      congrArg (· + 1) (Program.compute_frame result).2
    exact goes ▸ .assign _ _
  | jump inside => cases performed; exact .jump inside
  | taken _ _ _ inside => cases performed; exact .taken inside
  | passed => cases performed; exact .passed _ _ _ _
  | @output name value =>
    rw [Machine.perform] at performed
    split at performed <;> cases performed
    exact .output _

namespace Machine

variable {machine after : Machine} {phase next last : Phase} {code : List String} {verbose : Bool}
  {done phases : List Phase}

/-- The entry that a phase is about to leave. -/
def due (machine : Machine) (phase : Phase) : Journal.Entry :=
  machine.entry phase machine.program.code[machine.program.ip.toNat]?

theorem due_placed (inside : machine.program.Inside) (phase : Phase) :
    (machine.due phase).Placed machine.program.code machine.verbose := by
  obtain ⟨nonneg, short⟩ := inside
  refine ⟨machine.program.ip.toNat, by omega, ?_, rfl, ?_, ?_⟩
  · simp [due, entry, Int.toNat_of_nonneg nonneg]
  · rw [due, entry, List.getElem?_eq_none_iff]
    omega
  · rw [due, entry]
    cases machine.verbose <;> rfl

/-- A statement that is carried out ends its turn. -/
theorem outcome_of_acts {statement : Statement} {action : Action} {outcome : Option Phase}
    (acts : statement.Acts machine.program action)
    (performed : machine.perform action = (.ok outcome, after)) : outcome = some .execute := by
  rcases perform_ok performed with ends | ⟨program, rfl, -⟩
  · exact ends
  · exact acts.proceed

/-- A step that leads to another phase goes on with the turn or begins the next one. -/
theorem follows_of_step (inside : machine.program.Inside)
    (taken : machine.step phase = (.ok (some next), after)) :
    phase.Follows next ∧ (machine.due phase).Next machine.program.code (after.due next) := by
  obtain ⟨instruction, action, -, -, planned, performed⟩ := step_ok taken
  obtain ⟨other, rfl, goesOn⟩ | ⟨text, statement, here, read, rfl, acts⟩ | ⟨rfl, rfl⟩ :=
    (Phase.acts_of_plan planned).turn
  · cases performed
    have later : next ≠ .execute := by
      rintro rfl
      exact List.append_ne_nil_of_right_ne_nil _ (List.cons_ne_nil phase []) goesOn.symm
    refine ⟨.within goesOn, .within ?_ ⟨rfl, rfl, rfl⟩⟩
    exact fun same => later (Phase.name_injective same)
  · have recorded : statement.Acts (machine.record statement.carrier instruction).program action :=
      acts
    obtain rfl := Option.some.inj (outcome_of_acts recorded performed)
    have line : (machine.due statement.carrier).instruction = some text :=
      Except.ok.inj (inside.current_eq.symm.trans here)
    refine ⟨.across (Phase.mem_turns_of_inside (Phase.carrier_inside statement)), ?_⟩
    exact .across rfl rfl line read (recorded.leadsTo performed) rfl
  · cases performed

/-- A run over some code that has gone through some phases and comes to another one. -/
structure Stands (code : List String) (verbose : Bool) (done : List Phase) (phase : Phase)
    (machine : Machine) : Prop where
  inside : machine.program.Inside
  sameCode : machine.program.code = code
  verbosity : machine.verbose = verbose
  begins : (done ++ [phase]).head? = some .execute
  traced : ∃ steps, machine.journal.entries.toList = Journal.seeded.entries.toList ++ steps ∧
    Journal.Traced code verbose (done ++ [phase]) (steps ++ [machine.due phase])

theorem stands_start {listing : Listing} (begins : machine.program = .ofListing listing)
    (fresh : machine.journal = .seeded) :
    machine.Stands listing.statements machine.verbose [] .execute := by
  have inside : machine.program.Inside := begins ▸ Program.inside_ofListing listing
  have code : machine.program.code = listing.statements := begins ▸ rfl
  refine ⟨inside, code, rfl, rfl, [], by rw [fresh, List.append_nil], ?_⟩
  exact {
    rules := rfl
    follows := List.isChain_singleton _
    next := List.isChain_singleton _
    placed := List.forall_mem_singleton.mpr (code ▸ due_placed inside .execute) }

/-- A step leaves the entry that was due. -/
theorem entries_of_step (inside : machine.program.Inside) (phase : Phase) :
    (machine.step phase).2.journal.entries = machine.journal.entries.push (machine.due phase) := by
  rw [step_snd_of_current inside.current_eq, dispatch_journal, record_journal]
  rfl

theorem Stands.step (stands : machine.Stands code verbose done phase)
    (taken : machine.step phase = (.ok (some next), after)) :
    after.Stands code verbose (done ++ [phase]) next := by
  obtain ⟨steps, recorded, traced⟩ := stands.traced
  have entries := entries_of_step stands.inside phase
  obtain ⟨inside, same⟩ := (inside_kept code).step ⟨stands.inside, stands.sameCode⟩ phase
  have kept := (verbose_kept verbose).step stands.verbosity phase
  rw [taken] at entries inside same kept
  obtain ⟨follows, reached⟩ := follows_of_step stands.inside taken
  refine ⟨inside, same, kept, ?_, steps ++ [machine.due phase], ?_, ?_⟩
  · rw [List.head?_append, stands.begins, Option.some_or]
  · rw [entries, Array.toList_push, recorded, List.append_assoc]
  · exact traced.push follows (stands.sameCode ▸ reached) rfl (same ▸ kept ▸ due_placed inside next)

theorem Stands.leads (stands : machine.Stands code verbose done phase)
    (leads : Leads phase machine phases last after) :
    after.Stands code verbose (done ++ phases) last := by
  induction leads generalizing done with
  | here => rwa [List.append_nil]
  | @step phase _ _ _ _ _ _ taken _ ih =>
    rw [List.append_cons]
    exact ih (stands.step taken)

/-- Only the phase that ends a run is followed by none. -/
theorem finish_of_step (taken : machine.step phase = (.ok none, after)) : phase = .finish := by
  obtain ⟨instruction, action, -, -, planned, performed⟩ := step_ok taken
  obtain ⟨next, rfl, -⟩ | ⟨text, statement, -, -, rfl, acts⟩ | ⟨rfl, -⟩ :=
    (Phase.acts_of_plan planned).turn
  · cases performed
  · have recorded : statement.Acts (machine.record statement.carrier instruction).program action :=
      acts
    cases outcome_of_acts recorded performed
  · rfl

theorem Ends.step_snd {ending : Ending} (ends : Ends machine phase ending after) :
    (machine.step phase).2 = after := by
  cases ends with
  | done taken => rw [taken]
  | stopped failed => rw [failed]

/-- The step that ends a run completes its turns, or it fails. -/
theorem Stands.done_iff {ending : Ending} (stands : machine.Stands code verbose done phase)
    (handled : ∀ phase, phase ∈ machine.handled) (ends : Ends machine phase ending after) :
    ending = .done ↔ Phase.Whole (done ++ [phase]) := by
  obtain ⟨steps, -, traced⟩ := stands.traced
  have whole := Phase.whole_of_isChain_concat traced.follows stands.begins
  cases ends with
  | done taken =>
    obtain rfl := finish_of_step taken
    rw [Phase.completion, List.append_nil] at whole
    exact iff_of_true rfl whole
  | stopped failed =>
    refine iff_of_false nofun fun complete => ?_
    have last := complete.getLast?
    rw [List.getLast?_concat] at last
    obtain rfl := Option.some.inj last
    rw [step_proceed stands.inside.current_eq (handled .finish) rfl] at failed
    cases failed

/-- The turns of a run that goes on are not complete. -/
theorem Stands.not_whole (stands : machine.Stands code verbose done phase) :
    ¬ Phase.Whole done := by
  intro complete
  obtain ⟨steps, -, traced⟩ := stands.traced
  obtain ⟨front, rfl⟩ := List.getLast?_eq_some_iff.mp complete.getLast?
  have chain := traced.follows
  rw [List.append_assoc, List.singleton_append, List.isChain_append_cons_cons] at chain
  exact Phase.not_follows_finish chain.2.1

/-- A run from the start leaves the entries of the phases that it has gone through. -/
theorem Stands.tells_of_run {budget : Nat} {ending : Ending}
    (stands : machine.Stands code verbose [] .execute) (handled : ∀ phase, phase ∈ machine.handled)
    (ended : machine.run budget = (ending, after)) :
    ∃ steps, after.journal.entries.toList = Journal.seeded.entries.toList ++ steps ∧
      Journal.Tells code verbose ending steps := by
  obtain ⟨phases, last, before, leads, cases⟩ := runFrom_cases .execute machine budget
  rw [← run, ended] at cases
  have reached := stands.leads leads
  rw [List.nil_append] at reached
  obtain ⟨steps, recorded, traced⟩ := reached.traced
  have whole := Phase.whole_of_isChain_concat traced.follows reached.begins
  rcases cases with ⟨-, ends⟩ | ⟨-, same⟩
  · have entries := entries_of_step reached.inside last
    rw [ends.step_snd] at entries
    have alike := machine.alike_kept.leads ⟨rfl, rfl, rfl⟩ leads
    have done := reached.done_iff (fun phase => alike.handled ▸ handled phase) ends
    refine ⟨steps ++ [before.due last], ?_, traced.tells whole (List.prefix_append _ _) done⟩
    rw [entries, Array.toList_push, recorded, List.append_assoc]
  · rw [runFrom_zero_of_current reached.inside.current_eq] at same
    obtain ⟨rfl, rfl⟩ := Prod.mk.inj same
    have begins : phases <+: phases ++ [last] ++ last.completion :=
      (List.prefix_append _ _).trans (List.prefix_append _ _)
    have goesOn : Ending.paused last ≠ .done := fun same => by cases same
    exact ⟨steps, recorded, traced.front.tells whole begins (iff_of_false goesOn reached.not_whole)⟩

/-- The journal of a run is a trace of its control: the entries are numbered and told apart by their
identifiers, they come in turns that are about one place each and go where the statements lead, and
none of them is changed when the run goes on. -/
theorem journal_traces_control (listing : Listing) (machine after : Machine) (budget : Nat)
    (ending : Ending) (begins : machine.program = .ofListing listing)
    (fresh : machine.journal = .seeded) (handled : ∀ phase, phase ∈ machine.handled)
    (ended : machine.run budget = (ending, after)) :
    (∀ (place : Nat) entry, after.journal.entries[place]? = some entry →
      entry.step = place ∧ entry.id = Journal.identifier place) ∧
    (after.journal.entries.toList.map Journal.Entry.id).Nodup ∧
    (∃ steps, after.journal.entries.toList = Journal.seeded.entries.toList ++ steps ∧
      Journal.Tells listing.statements machine.verbose ending steps) ∧
    ∀ more, after.journal.entries.toList <+:
      (machine.run (budget + more)).2.journal.entries.toList := by
  have numbered := numbered_kept.runFrom (fresh ▸ Journal.numbered_seeded) .execute budget
  have grows := machine.extends_runFrom_add .execute budget
  rw [← run, ended] at numbered grows
  refine ⟨fun place entry found => ?_, numbered.nodup_ids, ?_, fun more => (grows more).entries⟩
  · have number := numbered.step_eq found
    exact ⟨number, Journal.Entry.id_of_step number⟩
  · exact (stands_start begins fresh).tells_of_run handled ended

/-- A jump over a line, with snapshots. -/
def jumpingOver : Machine where
  program := .ofListing ⟨["2"], ["goto 2", "quit", "output $0"]⟩
  console := { inputs := [] }
  verbose := true

theorem jumpingOver_traced :
    ∃ after steps, jumpingOver.run 6 = (.done, after) ∧
      after.journal.entries.toList = Journal.seeded.entries.toList ++ steps ∧
      Journal.Tells ["goto 2", "quit", "output $0"] true .done steps ∧
      (after.journal.entries.toList.map Journal.Entry.id).Nodup := by
  have handled : ∀ phase, phase ∈ Phase.all := fun phase => by cases phase <;> decide
  have ended : jumpingOver.run 6 = (.done, (jumpingOver.run 6).2) := rfl
  obtain ⟨-, distinct, ⟨steps, recorded, tells⟩, -⟩ :=
    journal_traces_control ⟨["2"], ["goto 2", "quit", "output $0"]⟩ jumpingOver _ 6 .done rfl rfl
      handled ended
  exact ⟨_, steps, ended, recorded, tells, distinct⟩

end Machine

end LineScript
