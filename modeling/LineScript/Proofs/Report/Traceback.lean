import LineScript.Proofs.Journal.Numbering
import LineScript.Proofs.Machine.LineFeeds
import LineScript.Proofs.Report.Entries

/-!
Tracebacks. A report on a run that stopped with a fault shows the last steps that were recorded, and
the last of them is the step that failed. If nothing that is shown holds a line feed, its text has
one line for each thing that it says.
-/

namespace LineScript

open Text

/-- No part of the place of a fault is known. -/
structure Fault.Unplaced (fault : Fault) : Prop where
  phase : fault.phase = none
  ip : fault.ip = none
  instruction : fault.instruction = none
  step : fault.step = none

/-- An entry says all that a fault says about its place. -/
structure Fault.At (fault : Fault) (entry : Journal.Entry) : Prop where
  step : fault.step = some entry.step
  phase : fault.phase = some entry.rule
  ip : fault.ip = entry.ip
  instruction : fault.instruction = entry.instruction

theorem Phase.name_ne_seedRule (phase : Phase) : phase.name ≠ Journal.seedRule := by
  cases phase <;> decide

namespace Machine

variable {machine before after : Machine} {fault : Fault} {steps : List Journal.Entry}
  {phase : Phase} {instruction : Option String} {trouble : Trouble}

/-- The journal holds the entry of the start, and then those of some steps. -/
structure Records (machine : Machine) (steps : List Journal.Entry) : Prop where
  entries : machine.journal.entries.toList = Journal.seeded.entries.toList ++ steps
  rules : ∀ entry ∈ steps, entry.rule ≠ Journal.seedRule

theorem Records.push (records : before.Records steps)
    (pushed : after.journal.entries =
      before.journal.entries.push (before.entry phase instruction)) :
    after.Records (steps ++ [before.entry phase instruction]) := by
  have rules : ∀ entry ∈ [before.entry phase instruction], entry.rule ≠ Journal.seedRule :=
    List.forall_mem_singleton.mpr phase.name_ne_seedRule
  refine ⟨?_, List.forall_mem_append.mpr ⟨records.rules, rules⟩⟩
  rw [pushed, Array.toList_push, records.entries, List.append_assoc]

theorem records_kept : Kept fun machine => ∃ steps, machine.Records steps where
  record machine phase instruction := by
    rintro ⟨steps, records⟩
    exact ⟨_, records.push (congrArg Journal.entries (record_journal machine phase instruction))⟩
  perform machine _ action := by
    rintro ⟨steps, records⟩ -
    refine ⟨steps, ?_, records.rules⟩
    rw [perform_journal]
    exact records.entries

theorem Records.numbers (records : machine.Records steps) (numbered : machine.journal.Numbered) :
    steps.map Journal.Entry.step = (List.range' 1 steps.length).map Int.ofNat := by
  have listed := numbered.steps
  rw [← Array.length_toList, records.entries, List.length_append, Nat.add_comm,
    List.range_eq_range'] at listed
  exact (List.cons.inj listed).2

theorem Records.later_numbers {earlier later : List Journal.Entry}
    (records : machine.Records (earlier ++ later)) (numbered : machine.journal.Numbered) :
    later.map Journal.Entry.step =
      (List.range' (earlier.length + 1) later.length).map Int.ofNat := by
  have numbers := records.numbers numbered
  rw [List.length_append, ← List.range'_append_1, List.map_append, List.map_append,
    Nat.add_comm 1] at numbers
  exact List.append_inj_right numbers (by simp)

/-- A fault whose place was not known when it was raised is placed by the entry of its step. -/
theorem faultOf_at (unplaced : trouble.toFault.Unplaced) :
    (machine.faultOf phase instruction trouble).At (machine.entry phase instruction) where
  step := by rw [faultOf, Fault.locate, unplaced.step]; rfl
  phase := by rw [faultOf, Fault.locate, unplaced.phase]; rfl
  ip := by rw [faultOf, Fault.locate, unplaced.ip]; rfl
  instruction := by rw [faultOf, Fault.locate, unplaced.instruction]; rfl

theorem Breaks.unplaced (breaks : machine.Breaks fault after before phase instruction trouble)
    (unplaced : ∀ raised, machine.console.Brought after.console raised → raised.Unplaced) :
    trouble.toFault.Unplaced := by
  rcases breaks.plain_or_brought with ⟨cause, plain⟩ | brought
  · rw [plain]
    exact ⟨rfl, rfl, rfl, rfl⟩
  · exact unplaced _ brought

end Machine

namespace Report

variable {report : Report} {fault : Fault} {machine : Machine} {steps earlier : List Journal.Entry}
  {entry : Journal.Entry} {verbose : Bool}

/-- What is shown are the last of the steps that were recorded. -/
theorem recent_of_records (records : machine.Records steps)
    (entries : report.entries = machine.journal.entries.toList) :
    report.recent = steps.drop (steps.length - report.depth.toNat) := by
  have kept : (Journal.seeded.entries.toList ++ steps).filter
      (fun entry => entry.rule ≠ Journal.seedRule) = steps := by
    rw [List.filter_append]
    exact List.filter_eq_self.mpr fun entry member => decide_eq_true (records.rules entry member)
  rw [recent, entries, records.entries, kept]

/-- The entries that are shown are the last of some steps, as many as the report allows. They are
numbered one by one, and the last of them says where the fault arose. Both forms of the report list
them in order, the text with lines about each of them, and JSON with an object for each. -/
structure Pinpoints (report : Report) (fault : Fault) (steps : List Journal.Entry) : Prop where
  recent : ∃ earlier, steps = earlier ++ report.recent ∧
    report.recent.length = min report.depth.toNat steps.length ∧
    report.recent.map Journal.Entry.step =
      (List.range' (earlier.length + 1) report.recent.length).map Int.ofNat
  last : ∃ entry, report.recent.getLast? = some entry ∧ fault.At entry ∧
    ((report.toJson fault).field? "error").bind (Json.field? "failing_step_index") =
      some (.number entry.step)
  text : ∀ verbose, ∃ blocks,
    List.Forall₂ (fun entry lines => entry.Told report.file verbose lines) report.recent blocks ∧
    report.text fault verbose = String.intercalate "\n"
      ("Traceback (most recent step last):" :: blocks.flatten ++ [faultLine fault])
  json : ∃ items, (report.toJson fault).field? "traceback" = some (.list items) ∧
    List.Forall₂ Journal.Entry.Filed report.recent items
  decodes :
    report.Distinct → ∀ value, Json.Denotes (report.json fault) value ↔ value = report.toJson fault

theorem text_eq_blocks (report : Report) (fault : Fault) (verbose : Bool) :
    report.text fault verbose = String.intercalate "\n" ("Traceback (most recent step last):" ::
      (report.recent.map (entryLines report.file verbose)).flatten ++ [faultLine fault]) := by
  rw [text, List.flatMap]

theorem pinpoints_of_records (records : machine.Records (steps ++ [entry]))
    (numbered : machine.journal.Numbered)
    (entries : report.entries = machine.journal.entries.toList)
    (deep : 1 ≤ report.depth) (place : fault.At entry) :
    report.Pinpoints fault (steps ++ [entry]) := by
  have recent := recent_of_records records entries
  have some : 1 ≤ (steps ++ [entry]).length ∧ 1 ≤ report.depth.toNat := by
    rw [List.length_append]
    exact ⟨Nat.le_add_left _ _, by omega⟩
  have last : report.recent.getLast? = Option.some entry := by
    rw [recent, List.getLast?_drop, if_neg (by omega), List.getLast?_concat]
  have parts := List.take_append_drop ((steps ++ [entry]).length - report.depth.toNat)
      (steps ++ [entry])
  rw [← recent] at parts
  refine ⟨⟨_, parts.symm, ?_, (parts ▸ records).later_numbers numbered⟩, ⟨entry, last, place, ?_⟩,
    fun verbose => ⟨_, told_entries report.file verbose report.recent,
      report.text_eq_blocks fault verbose⟩,
    ⟨_, rfl, filed_entries report.recent⟩,
      fun distinct value => Json.denotes_render_iff (distinct.toJson fault)⟩
  · rw [recent, List.length_drop]
    omega
  · have number : (report.toJson fault).field? "error" = Option.some (faultJson fault) := rfl
    rw [number, Option.bind_some, faultJson, place.step]
    rfl

theorem oneLine_id (entry : Journal.Entry) : OneLine entry.id := by
  refine oneLine_ofList ?_
  have sign : '\n' ∉ (if entry.step < 0 then ['-'] else []) := by split <;> decide
  have digits : '\n' ∉ Nat.toDigits 10 entry.step.natAbs := break_not_mem_toDigits (by decide) _
  simpa [List.mem_replicate, sign] using digits

theorem oneLine_placeLine {file : String} (named : OneLine file) (unbroken : entry.Unbroken) :
    OneLine (placeLine file entry) := by
  rw [placeLine]
  split
  · have place : OneLine ("  File \"" ++ file ++ "\", instruction ") :=
      oneLine_framed (by decide) named (by decide)
    exact (oneLine_framed place (oneLine_decimal _) (by decide)).append unbroken.rule
  · have unknown : OneLine "  <unknown location> in " := by decide
    exact unknown.append unbroken.rule

theorem oneLine_indexLine (entry : Journal.Entry) : OneLine (indexLine entry) :=
  (oneLine_framed (by decide) (oneLine_decimal _) (by decide)).append (oneLine_id entry)

theorem oneLine_snapshotLine {snapshot : Snapshot}
    (plain : ∀ pair ∈ snapshot.vars.toList, OneLine pair.1 ∧ OneLine pair.2) :
    OneLine (snapshotLine snapshot) := by
  have equal : OneLine "=" := by decide
  have pairs :
      ∀ text ∈ snapshot.vars.toList.map fun pair => pair.1 ++ "=" ++ pair.2, OneLine text :=
    List.forall_mem_map.mpr fun pair member =>
      oneLine_framed (plain pair member).1 equal (plain pair member).2
  have shown : OneLine (String.intercalate ", " (snapshot.vars.toList.map fun pair =>
      pair.1 ++ "=" ++ pair.2)) := oneLine_intercalate (by decide) pairs
  exact (oneLine_framed (by decide) shown (by decide)).append (oneLine_quotedList snapshot.stack)

theorem oneLine_of_mem_entryLines {file line : String} (named : OneLine file)
    (unbroken : entry.Unbroken) (member : line ∈ entryLines file verbose entry) : OneLine line := by
  rw [entryLines, List.mem_append, List.mem_cons, List.mem_cons] at member
  rcases member with (rfl | written) | rfl | shown
  · exact oneLine_placeLine named unbroken
  · rw [instructionLines] at written
    split at written
    · rename_i text here
      split at written
      · cases written
      · obtain rfl := List.mem_singleton.mp written
        have indent : OneLine "    " := by decide
        exact indent.append (unbroken.instruction text here)
    · cases written
  · exact oneLine_indexLine entry
  · split at shown
    · obtain ⟨snapshot, held, rfl⟩ := List.mem_map.mp shown
      exact oneLine_snapshotLine (unbroken.vars snapshot (Option.mem_toList.mp held))
    · cases shown

/-- The lines of the text of a report: one at the start, two to four about each entry, and one that
says what is wrong, and in which state. -/
structure Parts (report : Report) (fault : Fault) (verbose : Bool) : Prop where
  lines : ∃ state blocks, fault.phase = some state ∧
    List.Forall₂ (fun entry lines => entry.Told report.file verbose lines) report.recent blocks ∧
    (report.text fault verbose).toList.splitOn '\n' =
      ("Traceback (most recent step last):" :: blocks.flatten ++
        ["SegRuntimeError: " ++ fault.message ++ " (state: " ++ state ++ ")"]).map String.toList
  counts : ∀ entry ∈ report.recent, ∀ lines, entry.Told report.file verbose lines →
    lines.length = 2 + (if entry.instruction.any (!·.isEmpty) then 1 else 0) +
      (if verbose && entry.snapshot.isSome then 1 else 0)

theorem parts_of_unbroken (named : OneLine report.file) (message : OneLine fault.message)
    (recorded : ∀ entry ∈ report.recent, entry.Unbroken) (phase : Phase)
    (placed : fault.phase = some phase.name) (verbose : Bool) : report.Parts fault verbose := by
  have state : phaseName fault = phase.name := by
    rw [phaseName, placed]
    cases phase <;> rfl
  have told : faultLine fault =
      "SegRuntimeError: " ++ fault.message ++ " (state: " ++ phase.name ++ ")" := by
    have begins : "SegRuntimeError" ++ ": " = "SegRuntimeError: " := by decide
    rw [faultLine, state, errorName, begins]
  refine ⟨⟨phase.name, _, placed, told_entries report.file verbose report.recent, ?_⟩,
    fun entry _ lines told => told.length⟩
  rw [← told, text_eq_blocks]
  refine splitOn_intercalate (List.cons_ne_nil _ _) fun line member => ?_
  rw [List.mem_append, List.mem_cons, List.mem_singleton] at member
  rcases member with (rfl | listed) | rfl
  · decide
  · obtain ⟨lines, block, inside⟩ := List.mem_flatten.mp listed
    obtain ⟨entry, shown, rfl⟩ := List.mem_map.mp block
    exact oneLine_of_mem_entryLines named (recorded entry shown) inside
  · rw [told]
    have begins : OneLine ("SegRuntimeError: " ++ fault.message ++ " (state: ") :=
      oneLine_framed (by decide) message (by decide)
    exact oneLine_framed begins phase.oneLine_name (by decide)

end Report

namespace Machine

/-- The report on a run that stopped with a fault pinpoints the step that failed: it shows the last
of the steps that were recorded, as many as its depth allows, and the very last says where the fault
arose and where the program still stands. Both forms of the report show these steps, one after the
other, with all that was recorded. If the program was loaded, and neither the input nor the name of
the file holds a line feed, the text has no other line breaks than those between its lines. -/
theorem traceback_pinpoints_step (machine after : Machine) (budget : Nat) (fault : Fault)
    (report : Report) (fresh : machine.journal = .seeded)
    (ended : machine.run budget = (.stopped (.fault fault), after))
    (unplaced : ∀ raised, machine.console.Brought after.console raised → raised.Unplaced)
    (entries : report.entries = after.journal.entries.toList) (deep : 1 ≤ report.depth) :
    (∃ steps, after.Records steps ∧ report.Pinpoints fault steps ∧
      fault.ip = some after.program.ip) ∧
    (machine.program.vars.names.Nodup → report.Distinct) ∧
    ∀ source listing, Listing.ofSource source = .ok listing → machine.program = .ofListing listing →
      (∀ line ∈ machine.console.inputs, OneLine line) → OneLine report.file →
        machine.console.Orderly →
        ∀ verbose, report.Parts fault verbose := by
  obtain ⟨count, before, last, instruction, met, reached, breaks⟩ := breaks_of_run ended
  have started : machine.Records [] := ⟨by rw [fresh, List.append_nil], List.forall_mem_nil _⟩
  obtain ⟨steps, earlier⟩ := records_kept.runFrom ⟨[], started⟩ .execute count
  rw [← run, reached] at earlier
  have records := earlier.push breaks.entries
  have numbered := numbered_kept.runFrom (fresh ▸ Journal.numbered_seeded) .execute budget
  rw [← run, ended] at numbered
  have place : fault.At (before.entry last instruction) :=
    breaks.placed ▸ faultOf_at (breaks.unplaced unplaced)
  have recorded : report.entries = (machine.run budget).2.journal.entries.toList := by
    rw [ended]
    exact entries
  refine ⟨⟨_, records, Report.pinpoints_of_records records numbered entries deep place, ?_⟩,
    fun names => Report.distinct_of_run names fresh recorded, ?_⟩
  · rw [place.ip, ← breaks.same]
    rfl
  · intro source listing loaded begins inputs named orderly
    have unbroken := unbroken_of_source loaded begins inputs
    have seeded : ∀ entry ∈ machine.journal.entries.toList, entry.Unbroken :=
      fresh ▸ Journal.unbroken_seeded
    have plain := unbroken.entries seeded .execute budget
    rw [← run, ended, ← entries] at plain
    have shown : ∀ entry ∈ report.recent, entry.Unbroken := fun entry member =>
      plain entry (List.mem_of_mem_filter (List.mem_of_mem_drop member))
    exact Report.parts_of_unbroken named (unbroken.oneLine_message orderly ended) shown last
      place.phase

/-- A report with two entries on a division by zero. -/
theorem spacedQuotient_pinpointed :
    ∃ (fault : Fault) (after : Machine) (report : Report),
      (unfed spacedQuotient).run 3 = (.stopped (.fault fault), after) ∧
      report = { file := "/p", entries := after.journal.entries.toList, depth := 2 } ∧
      (∃ steps, after.Records steps ∧ report.Pinpoints fault steps) ∧
      report.recent.map (fun entry => (entry.step, entry.rule)) = [(2, "ASSIGN"), (3, "MATH")] ∧
      fault.step = some 3 ∧ fault.phase = some "MATH" ∧ fault.ip = some 0 ∧
      report.Parts fault true ∧ fault.message = "Division by zero" := by
  have loaded : Listing.ofSource spacedSource = .ok spacedQuotient := by decide +kernel
  have orderly := unfed_orderly spacedQuotient
  obtain ⟨⟨steps, records, pinpoints, -⟩, -, parts⟩ :=
    traceback_pinpoints_step (unfed spacedQuotient) _ 3 _
    { file := "/p", entries := ((unfed spacedQuotient).run 3).2.journal.entries.toList, depth := 2 }
    rfl rfl (fun _ brought => absurd brought orderly.not_brought) rfl (by decide)
  exact ⟨_, _, _, rfl, rfl, ⟨steps, records, pinpoints⟩, rfl, rfl, rfl, rfl,
    parts spacedSource spacedQuotient loaded rfl (List.forall_mem_nil _) (by decide) orderly true,
      rfl⟩

end Machine

end LineScript
