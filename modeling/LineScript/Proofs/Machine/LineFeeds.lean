import LineScript.Proofs.Listing.RoundTrip
import LineScript.Proofs.Machine.Growth
import LineScript.Proofs.Machine.Unmentioned
import LineScript.Proofs.Text.OneLine

/-!
Line feeds. A listing that was loaded holds none, and on input without any a run brings none up: not
in the names and values of variables, not in what it writes or records, and, if the console is
orderly, not in the message that it stops with.
-/

namespace LineScript

open Text

theorem over_ne_break_iff {text : String} : Over (· ≠ '\n') text ↔ OneLine text :=
  ⟨fun each member => each _ member rfl, fun plain _ member same => plain (same ▸ member)⟩

theorem writesNumbers_of_ne_break : WritesNumbers (· ≠ '\n') :=
  fun value => over_ne_break_iff.mpr (oneLine_decimal value)

namespace Statement

variable {text rest : List Char} {name : String}

theorem oneLine_of_takeVariable? (read : takeVariable? text = some (name, rest)) :
    OneLine name := by
  rw [takeVariable?.eq_def] at read
  split at read
  · rw [Option.ite_none_left_eq_some] at read
    obtain ⟨rfl, -⟩ := Prod.mk.inj (Option.some.inj read.2)
    exact oneLine_ofList fun member => absurd (List.mem_takeWhile_imp member) (by decide)
  · cases read

theorem oneLine_of_lastVariable? (read : lastVariable? text = some name) : OneLine name := by
  rw [lastVariable?] at read
  split at read
  · rename_i taken
    cases read
    exact oneLine_of_takeVariable? taken
  · cases read

theorem oneLine_of_origin {origin : Origin} (read : Origin.parse? text = some origin) :
    ∀ name ∈ origin.names, OneLine name := by
  rw [Origin.parse?] at read
  split at read
  · obtain ⟨⟨left, rest⟩, taken, read⟩ := Option.bind_eq_some_iff.mp read
    have first := oneLine_of_takeVariable? taken
    dsimp only at read
    split at read
    · cases read
      exact List.forall_mem_singleton.mpr first
    · obtain ⟨⟨operator, rest⟩, -, read⟩ := Option.bind_eq_some_iff.mp read
      obtain ⟨right, last, read⟩ := Option.bind_eq_some_iff.mp read
      cases read
      exact List.forall_mem_cons.mpr
        ⟨first, List.forall_mem_singleton.mpr (oneLine_of_lastVariable? last)⟩
  · split at read
    · cases read
      exact List.forall_mem_nil _
    · split at read
      · cases read
        exact List.forall_mem_nil _
      · obtain ⟨literal, -, rfl⟩ := Option.map_eq_some_iff.mp read
        exact List.forall_mem_nil _

/-- Names are words, whatever stands around them. -/
theorem oneLine_of_parse? {statement : Statement} (read : parse? text = some statement) :
    ∀ name ∈ statement.names, OneLine name := by
  rcases parse?_cases read with assign | branch | jump | output
  · obtain ⟨afterLet, -, read⟩ := Option.bind_eq_some_iff.mp assign
    obtain ⟨⟨target, afterName⟩, named, read⟩ := Option.bind_eq_some_iff.mp read
    obtain ⟨value, -, read⟩ := Option.bind_eq_some_iff.mp read
    obtain ⟨origin, originRead, same⟩ := Option.bind_eq_some_iff.mp read
    cases same
    exact List.forall_mem_cons.mpr ⟨oneLine_of_takeVariable? named, oneLine_of_origin originRead⟩
  · obtain ⟨afterIf, -, read⟩ := Option.bind_eq_some_iff.mp branch
    obtain ⟨⟨left, rest⟩, first, read⟩ := Option.bind_eq_some_iff.mp read
    obtain ⟨⟨comparison, rest⟩, -, read⟩ := Option.bind_eq_some_iff.mp read
    obtain ⟨⟨right, rest⟩, second, read⟩ := Option.bind_eq_some_iff.mp read
    obtain ⟨blanks, -, read⟩ := Option.bind_eq_some_iff.mp read
    obtain ⟨line, -, same⟩ := Option.bind_eq_some_iff.mp read
    cases same
    exact List.forall_mem_cons.mpr
      ⟨oneLine_of_takeVariable? first,
        List.forall_mem_singleton.mpr (oneLine_of_takeVariable? second)⟩
  · obtain ⟨line, -, rfl⟩ := Option.map_eq_some_iff.mp jump
    exact List.forall_mem_nil _
  · obtain ⟨rest, -, read⟩ := Option.bind_eq_some_iff.mp output
    obtain ⟨name, last, same⟩ := Option.bind_eq_some_iff.mp read
    cases same
    exact List.forall_mem_singleton.mpr (oneLine_of_lastVariable? last)

end Statement

/-- Two parts of one line between marks without line feeds. -/
theorem oneLine_framed {opening text closing : String} (first : OneLine opening)
    (plain : OneLine text) (last : OneLine closing) : OneLine (opening ++ text ++ closing) :=
  (first.append plain).append last

theorem Phase.oneLine_name (phase : Phase) : OneLine phase.name := by
  cases phase <;> decide

theorem oneLine_trim {text : String} (plain : OneLine text) : OneLine (trim text) :=
  oneLine_ofList fun member => plain (mem_of_mem_trimChars member)

namespace Program

variable {program : Program} {trouble : Trouble} {name : String}

theorem Unfit.oneLine (unfit : program.Unfit name trouble) (plain : OneLine name)
    (spelled : program.Spelled (· ≠ '\n')) : OneLine trouble.toFault.message := by
  cases unfit with
  | missing absent => exact oneLine_framed (by decide) plain (by decide)
  | @notNumeric value held =>
    have written := over_ne_break_iff.mp (spelled.vars _ _ held)
    have first : OneLine ("Variable $" ++ name ++ " is not numeric: '") :=
      oneLine_framed (by decide) plain (by decide)
    exact oneLine_framed first written (by decide)
  | @unreadable value =>
    have shown : OneLine (String.ofList ((Quoted.encode value.toList).take Mishap.shownOperand)) :=
      oneLine_ofList fun member => Quoted.break_not_mem_encode _ (List.mem_of_mem_take member)
    have begins : OneLine "invalid literal for int() with base 10: " := by decide
    have preface : OneLine "Internal interpreter error: " := by decide
    exact preface.append (begins.append shown)

end Program

variable {program : Program} {trouble : Trouble}

theorem Statement.Fails.oneLine {statement : Statement} (fails : statement.Fails program trouble)
    (named : ∀ name ∈ statement.names, OneLine name) (spelled : program.Spelled (· ≠ '\n')) :
    OneLine trouble.toFault.message := by
  have missing {name : String} (member : name ∈ statement.names) :
      OneLine (Trouble.ofCause (.missingVariable name)).toFault.message :=
    oneLine_framed (by decide) (named name member) (by decide)
  cases fails with
  | copy => exact missing (by simp [names, Origin.names])
  | leftOperand unfit => exact unfit.oneLine (named _ (by simp [names, Origin.names])) spelled
  | rightOperand _ unfit => exact unfit.oneLine (named _ (by simp [names, Origin.names])) spelled
  | leftSide => exact missing (by simp [names])
  | rightSide => exact missing (by simp [names])
  | output => exact missing (by simp [names])
  | _ => decide

theorem Phase.Fails.oneLine {phase : Phase} {instruction : Option String}
    (fails : phase.Fails program trouble) (here : program.current = .ok instruction)
    (spelled : program.Spelled (· ≠ '\n')) :
    OneLine trouble.toFault.message := by
  have written {text : String} (found : program.current = .ok (some text)) : OneLine text :=
    over_ne_break_iff.mp (spelled.code _ (Program.mem_code_of_current found))
  cases fails with
  | lost astray => cases here.symm.trans astray
  | unknown found => exact oneLine_framed (by decide) (written found) (by decide)
  | pastEnd => decide
  | foreign _ found =>
    have shown := oneLine_trim (written found)
    cases phase <;> exact oneLine_framed (by decide) shown (by decide)
  | carry found read fails => exact fails.oneLine (Statement.oneLine_of_parse? read) spelled

/-- What a phase has written is the value of a variable. -/
theorem Phase.Acts.held_of_write {phase : Phase} {text : String}
    (acts : phase.Acts program (.write text)) :
    ∃ name, program.vars.get? name = some text := by
  cases acts with
  | carry _ _ acts =>
    cases acts with
    | output held => exact ⟨_, held⟩

theorem Bindings.mem_of_mem_insert {bindings : Bindings} {name value : String}
    {pair : String × String} (member : pair ∈ (bindings.insert name value).toList) :
    pair = (name, value) ∨ pair ∈ bindings.toList := by
  obtain ⟨pairs⟩ := bindings
  simp only [insert] at member ⊢
  induction pairs with
  | nil => exact .inl (List.mem_singleton.mp member)
  | cons first rest ih =>
    obtain ⟨key, old⟩ := first
    rw [put] at member
    split at member
    · rename_i here
      rcases List.mem_cons.mp member with rfl | later
      · exact .inl (by rw [here])
      · exact .inr (List.mem_cons_of_mem _ later)
    · rcases List.mem_cons.mp member with rfl | later
      · exact .inr List.mem_cons_self
      · exact (ih later).imp_right (List.mem_cons_of_mem _)

/-- No part of an entry holds a line feed. -/
structure Journal.Entry.Unbroken (entry : Journal.Entry) : Prop where
  rule : OneLine entry.rule
  instruction : ∀ text ∈ entry.instruction, OneLine text
  vars : ∀ snapshot ∈ entry.snapshot, ∀ pair ∈ snapshot.vars.toList, OneLine pair.1 ∧ OneLine pair.2

theorem Journal.unbroken_seeded : ∀ entry ∈ seeded.entries.toList, entry.Unbroken :=
  List.forall_mem_singleton.mpr ⟨by decide, by decide, nofun⟩

theorem Program.oneLine_shorten {text : String} (plain : OneLine text) :
    OneLine (shorten text) := by
  rw [shorten]
  split
  · have cut : OneLine (String.ofList (text.toList.take 77)) :=
      oneLine_ofList fun member => plain (List.mem_of_mem_take member)
    exact cut.append (by decide)
  · exact plain

namespace Machine

/-- No text that a program works with holds a line feed, and none that is to be read. -/
structure Unbroken (machine : Machine) : Prop where
  spelled : machine.Spelled (· ≠ '\n')
  vars : ∀ pair ∈ machine.program.vars.toList, OneLine pair.1 ∧ OneLine pair.2

variable {machine after : Machine} {phase : Phase} {instruction : Option String} {budget : Nat}
  {fault : Fault}

theorem Unbroken.perform_vars {action : Action} (unbroken : machine.Unbroken)
    (acts : phase.Acts machine.program action) :
    ∀ pair ∈ (machine.perform action).2.program.vars.toList, OneLine pair.1 ∧ OneLine pair.2 := by
  have spelled := (unbroken.spelled.perform writesNumbers_of_ne_break acts).program
  rcases perform_binds acts with ⟨same, -⟩ | ⟨target, origin, value, atHand, -, vars, -⟩
  · rw [same]
    exact unbroken.vars
  · obtain ⟨text, -, read⟩ := Program.statement?_eq_some_iff.mp atHand
    have named := Statement.oneLine_of_parse? read target List.mem_cons_self
    have bound : (machine.perform action).2.program.vars.get? target = some value := by
      rw [vars, Bindings.get?_insert, if_pos rfl]
    have written := over_ne_break_iff.mp (spelled.vars target value bound)
    intro pair member
    rw [vars] at member
    rcases Bindings.mem_of_mem_insert member with rfl | earlier
    · exact ⟨named, written⟩
    · exact unbroken.vars pair earlier

theorem unbroken_kept : Kept Unbroken where
  record _ _ _ unbroken := ⟨⟨unbroken.spelled.program, unbroken.spelled.inputs⟩, unbroken.vars⟩
  perform _ _ _ unbroken acts :=
    ⟨unbroken.spelled.perform writesNumbers_of_ne_break acts, unbroken.perform_vars acts⟩

/-- A listing that was loaded starts without line feeds on input without any. -/
theorem unbroken_of_source {source : String} {listing : Listing}
    (loaded : Listing.ofSource source = .ok listing) (begins : machine.program = .ofListing listing)
    (inputs : ∀ line ∈ machine.console.inputs, OneLine line) : machine.Unbroken := by
  obtain ⟨⟨registerText, -, registers⟩, codeText, -, statements⟩ := Listing.loads_of_ofSource loaded
  have values (value : String) (member : value ∈ listing.registers) : OneLine value :=
    (Listing.allows_of_load registers value member).plain
  have lines (line : String) (member : line ∈ listing.statements) : OneLine line :=
    (Listing.allows_of_load statements line member).plain
  refine ⟨⟨?_, fun line member => over_ne_break_iff.mpr (inputs line member)⟩, ?_⟩
  · rw [begins]
    exact Program.spelled_ofListing
      (fun value member => over_ne_break_iff.mpr (values value member))
      fun line member => over_ne_break_iff.mpr (lines line member)
  · have pairs {start : Nat} {values : List String} (plain : ∀ value ∈ values, OneLine value) :
        ∀ pair ∈ Program.initialVars start values, OneLine pair.1 ∧ OneLine pair.2 := by
      induction values generalizing start with
      | nil => exact List.forall_mem_nil _
      | cons first rest ih =>
        obtain ⟨here, later⟩ := List.forall_mem_cons.mp plain
        have unquoted : OneLine (Value.unquote first) :=
          fun member => here (Value.mem_of_mem_unquote member)
        exact List.forall_mem_cons.mpr ⟨⟨oneLine_decimal start, unquoted⟩, ih later⟩
    rw [begins]
    exact pairs values

/-- What is written keeps to one line each, if the texts before it do. -/
theorem outputs_kept :
    Kept fun machine => machine.Unbroken ∧
      ∀ text ∈ machine.console.outputs.toList, OneLine text where
  record _ phase instruction holds := ⟨unbroken_kept.record _ phase instruction holds.1, holds.2⟩
  perform machine phase action holds acts := by
    obtain ⟨unbroken, written⟩ := holds
    refine ⟨unbroken_kept.perform machine phase action unbroken acts, ?_⟩
    cases action with
    | proceed program next => exact written
    | read target =>
      rcases machine.console.read_cases with ⟨line, rest, -, answered⟩ | ⟨disruption, answered⟩ <;>
        simp only [perform, answered] <;> exact written
    | write text =>
      rcases machine.console.write_cases text with answered | ⟨disruption, answered⟩
      · obtain ⟨name, held⟩ := acts.held_of_write
        have plain := over_ne_break_iff.mp (unbroken.spelled.program.vars name text held)
        simp only [perform, answered, Array.toList_push]
        exact List.forall_mem_append.mpr ⟨written, List.forall_mem_singleton.mpr plain⟩
      · simp only [perform, answered]
        exact written

theorem Unbroken.entry (unbroken : machine.Unbroken)
    (found : machine.program.current = .ok instruction)
    (phase : Phase) : (machine.entry phase instruction).Unbroken := by
  refine ⟨phase.oneLine_name, fun text here => ?_, fun snapshot shown => ?_⟩
  · obtain rfl : instruction = some text := here
    exact over_ne_break_iff.mp
      (unbroken.spelled.program.code text (Program.mem_code_of_current found))
  · obtain ⟨-, same⟩ := Option.ite_none_right_eq_some.mp shown
    obtain rfl := Option.some.inj same
    refine List.forall_mem_map.mpr fun pair member => ?_
    obtain ⟨name, value⟩ := unbroken.vars pair member
    have dollar : OneLine "$" := by decide
    exact ⟨dollar.append name, Program.oneLine_shorten value⟩

/-- A run records no line feed. -/
theorem Unbroken.entries (unbroken : machine.Unbroken)
    (recorded : ∀ entry ∈ machine.journal.entries.toList, entry.Unbroken) (phase : Phase)
    (budget : Nat) :
    ∀ entry ∈ (machine.runFrom phase budget).2.journal.entries.toList, entry.Unbroken := by
  have steps (machine : Machine) (phase : Phase)
      (holds : machine.Unbroken ∧ ∀ entry ∈ machine.journal.entries.toList, entry.Unbroken) :
      (machine.step phase).2.Unbroken ∧
        ∀ entry ∈ (machine.step phase).2.journal.entries.toList, entry.Unbroken := by
    obtain ⟨unbroken, recorded⟩ := holds
    refine ⟨unbroken_kept.step unbroken phase, ?_⟩
    cases found : machine.program.current with
    | error mishap =>
      rw [step, found]
      exact recorded
    | ok instruction =>
      rw [step_snd_of_current found, dispatch_journal, record_journal, Array.toList_push]
      exact List.forall_mem_append.mpr
        ⟨recorded, List.forall_mem_singleton.mpr (unbroken.entry found phase)⟩
  exact (runFrom_of_steps steps ⟨unbroken, recorded⟩ phase budget).2

/-- On an orderly console no message of a fault holds a line feed. -/
theorem Unbroken.oneLine_message (unbroken : machine.Unbroken) (orderly : machine.console.Orderly)
    (ended : machine.run budget = (.stopped (.fault fault), after)) : OneLine fault.message := by
  obtain ⟨count, before, last, instruction, met, reached, breaks⟩ := breaks_of_run ended
  have spelled := (unbroken_kept.runFrom unbroken .execute count).spelled.program
  rw [← run, reached] at spelled
  have recorded : (before.record last instruction).console.Orderly := breaks.alike.orderly orderly
  rw [breaks.placed]
  rcases dispatch_error_of_orderly recorded breaks.found breaks.dispatched with
    ⟨-, rfl⟩ | planned | rfl
  · have preface : OneLine "No handler for state " := by decide
    exact preface.append last.oneLine_name
  · exact (Phase.fails_of_plan planned).oneLine breaks.found spelled
  · have closed : OneLine Fault.Cause.inputClosed.message := by decide
    exact closed

end Machine

end LineScript
