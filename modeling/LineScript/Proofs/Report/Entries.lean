import LineScript.Proofs.Journal.Numbering
import LineScript.Proofs.Json.RoundTrip
import LineScript.Proofs.Machine.Growth
import LineScript.Report

/-!
What a report shows of an entry: some lines of the text, and an object in JSON. Each of them says
all that the entry holds.
-/

namespace LineScript

open Json

/-- The value of a field of an object. -/
def Json.field? (name : String) : Json → Option Json
  | .object fields => fields.lookup name
  | _ => none

/-- The names of the fields of an object, in order. -/
def Json.fieldNames? : Json → Option (List String)
  | .object fields => some (fields.map Prod.fst)
  | _ => none

namespace Journal.Entry

/-- The line that says where an entry was recorded, and by which rule. -/
inductive Sited (file : String) (entry : Journal.Entry) : String → Prop where
  | known {ip : Int} (held : entry.ip = some ip) :
      Sited file entry
        ("  File \"" ++ file ++ "\", instruction " ++ Text.decimal ip ++ ", in " ++ entry.rule)
  | unknown (missing : entry.ip = none) :
      Sited file entry ("  <unknown location> in " ++ entry.rule)

/-- The line with the instruction of an entry, if there is something to show. -/
inductive Quoted (entry : Journal.Entry) : List String → Prop where
  | shown {text : String} (held : entry.instruction = some text) (filled : text ≠ "") :
      Quoted entry ["    " ++ text]
  | empty (held : entry.instruction = some "") : Quoted entry []
  | missing (missing : entry.instruction = none) : Quoted entry []

/-- The line with the snapshot of an entry, if snapshots are asked for and the entry has one. -/
inductive Pictured (verbose : Bool) (entry : Journal.Entry) : List String → Prop where
  | shown {snapshot : Snapshot} (asked : verbose = true) (held : entry.snapshot = some snapshot) :
      Pictured verbose entry ["    Env snapshot: " ++
        String.intercalate ", " (snapshot.vars.toList.map fun pair => pair.1 ++ "=" ++ pair.2) ++
        "  stack=" ++ Text.quotedList snapshot.stack]
  | unasked (quiet : verbose = false) : Pictured verbose entry []
  | missing (missing : entry.snapshot = none) : Pictured verbose entry []

/-- The lines about an entry: its place, its instruction, its number with its identifier, its
snapshot. -/
inductive Told (file : String) (verbose : Bool) (entry : Journal.Entry) : List String → Prop where
  | lines {place : String} {instruction snapshot : List String} (sited : entry.Sited file place)
      (quoted : entry.Quoted instruction) (pictured : entry.Pictured verbose snapshot) :
      Told file verbose entry (place :: instruction ++
        ("    State log index: " ++ Text.decimal entry.step ++ "  State id: " ++ entry.id) :: snapshot)

/-- The object about an entry, field by field. There is a snapshot only if the entry has one, and
nothing else is in it. -/
structure Filed (entry : Journal.Entry) (item : Json) : Prop where
  names : item.fieldNames? = some (["step_index", "state_id", "rule", "ip", "instruction"] ++
    if entry.snapshot.isSome then ["env_snapshot"] else [])
  step : item.field? "step_index" = some (.number entry.step)
  id : item.field? "state_id" = some (.text entry.id)
  rule : item.field? "rule" = some (.text entry.rule)
  ip : item.field? "ip" = some (entry.ip.elim .null .number)
  instruction : item.field? "instruction" = some (entry.instruction.elim .null .text)
  snapshot : item.field? "env_snapshot" = entry.snapshot.map fun snapshot => .object [
    ("ip", .number snapshot.ip),
    ("vars", .object (snapshot.vars.toList.map fun pair => (pair.1, .text pair.2))),
    ("stack", .list (snapshot.stack.map .text))]

/-- The snapshot of an entry, if it has one, shows no two variables of one name. -/
def Distinct (entry : Journal.Entry) : Prop :=
  ∀ snapshot, entry.snapshot = some snapshot → snapshot.vars.names.Nodup

variable {file : String} {verbose : Bool} {entry : Journal.Entry} {lines : List String}

theorem Quoted.length (quoted : entry.Quoted lines) :
    lines.length = if entry.instruction.any (!·.isEmpty) then 1 else 0 := by
  cases quoted with
  | @shown text held filled =>
    have some : text.isEmpty = false := Bool.eq_false_iff.mpr (mt String.isEmpty_iff.mp filled)
    simp [held, some]
  | empty held => rw [held]; rfl
  | missing missing => rw [missing]; rfl

theorem Pictured.length (pictured : entry.Pictured verbose lines) :
    lines.length = if verbose && entry.snapshot.isSome then 1 else 0 := by
  cases pictured with
  | shown asked held => rw [asked, held]; rfl
  | unasked quiet => rw [quiet]; rfl
  | missing missing => rw [missing, Option.isSome_none, Bool.and_false]; rfl

/-- There are two lines about an entry, and one more each for an instruction that is not empty and
for a snapshot that is asked for. -/
theorem Told.length (told : entry.Told file verbose lines) :
    lines.length = 2 + (if entry.instruction.any (!·.isEmpty) then 1 else 0) +
      (if verbose && entry.snapshot.isSome then 1 else 0) := by
  obtain ⟨-, quoted, pictured⟩ := told
  rw [List.length_append, List.length_cons, List.length_cons, quoted.length, pictured.length]
  omega

end Journal.Entry

namespace Report

variable {report : Report} {fault : Fault} {snapshot : Snapshot} {entry : Journal.Entry}

theorem sited_placeLine (file : String) (entry : Journal.Entry) :
    entry.Sited file (placeLine file entry) := by
  rw [placeLine]
  split
  · rename_i ip held
    exact .known held
  · rename_i missing
    exact .unknown missing

theorem quoted_instructionLines (entry : Journal.Entry) :
    entry.Quoted (instructionLines entry) := by
  rw [instructionLines]
  split
  · rename_i text held
    split
    · rename_i empty
      exact .empty (String.isEmpty_iff.mp empty ▸ held)
    · rename_i filled
      exact .shown held (mt String.isEmpty_iff.mpr filled)
  · rename_i missing
    exact .missing missing

theorem told_entryLines (file : String) (verbose : Bool) (entry : Journal.Entry) :
    entry.Told file verbose (entryLines file verbose entry) := by
  refine .lines (sited_placeLine file entry) (quoted_instructionLines entry) ?_
  cases verbose with
  | false => exact .unasked rfl
  | true =>
    cases held : entry.snapshot with
    | none => exact .missing held
    | some snapshot => exact .shown rfl held

/-- The lines about some entries, entry by entry. -/
theorem told_entries (file : String) (verbose : Bool) (entries : List Journal.Entry) :
    List.Forall₂ (fun entry lines => entry.Told file verbose lines) entries
      (entries.map (entryLines file verbose)) :=
  List.forall₂_map_right_iff.mpr
    (List.forall₂_same.mpr fun entry _ => told_entryLines file verbose entry)

theorem filed_entryJson (entry : Journal.Entry) : entry.Filed (entryJson entry) := by
  obtain ⟨step, rule, ip, instruction, snapshot⟩ := entry
  refine ⟨?_, rfl, rfl, rfl, ?_, ?_, ?_⟩
  · cases snapshot <;> rfl
  · cases ip <;> rfl
  · cases instruction <;> rfl
  · cases snapshot <;> rfl

theorem filed_entries (entries : List Journal.Entry) :
    List.Forall₂ Journal.Entry.Filed entries (entries.map entryJson) :=
  List.forall₂_map_right_iff.mpr (List.forall₂_same.mpr fun entry _ => filed_entryJson entry)

/-- No snapshot that is shown has two variables of one name. -/
def Distinct (report : Report) : Prop :=
  ∀ entry ∈ report.recent, entry.Distinct

theorem distinct_ofText? (value : Option String) : (ofText? value).Distinct := by
  cases value with
  | none => exact .null
  | some value => exact .text value

theorem distinct_ofNumber? (value : Option Int) : (ofNumber? value).Distinct := by
  cases value with
  | none => exact .null
  | some value => exact .number value

theorem distinct_snapshotJson (distinct : snapshot.vars.names.Nodup) :
    (snapshotJson snapshot).Distinct := by
  have stack : (Json.list (snapshot.stack.map .text)).Distinct :=
    .list (List.forall_mem_map.mpr fun value _ => .text value)
  refine .object (by decide : ["ip", "vars", "stack"].Nodup) ?_
  simp only [List.forall_mem_cons]
  refine ⟨.number _, .object ?_ (List.forall_mem_map.mpr fun pair _ => .text pair.2), stack,
    List.forall_mem_nil _⟩
  rwa [List.map_map]

theorem distinct_entryJson (distinct : entry.Distinct) : (entryJson entry).Distinct := by
  refine .object ?_ (List.forall_mem_append.mpr
    ⟨?_, List.forall_mem_map.mpr fun snapshot held => ?_⟩)
  · cases entry.snapshot with
    | none => exact (by decide : ["step_index", "state_id", "rule", "ip", "instruction"].Nodup)
    | some =>
      exact (by decide :
        ["step_index", "state_id", "rule", "ip", "instruction", "env_snapshot"].Nodup)
  · simp only [List.forall_mem_cons]
    exact ⟨.number _, .text _, .text _, distinct_ofNumber? _, distinct_ofText? _,
      List.forall_mem_nil _⟩
  · exact distinct_snapshotJson (distinct snapshot (Option.mem_toList.mp held))

theorem distinct_faultJson (fault : Fault) : (faultJson fault).Distinct := by
  have names : ["type", "message", "state", "ip", "instruction", "failing_step_index"].Nodup := by
    decide
  refine .object names ?_
  simp only [List.forall_mem_cons]
  exact ⟨.text _, .text _, distinct_ofText? _, distinct_ofNumber? _, distinct_ofText? _,
    distinct_ofNumber? _, List.forall_mem_nil _⟩

theorem Distinct.toJson (distinct : report.Distinct) (fault : Fault) :
    (report.toJson fault).Distinct := by
  have names : ["error", "file", "traceback"].Nodup := by decide
  have entries : (Json.list (report.recent.map entryJson)).Distinct :=
    .list (List.forall_mem_map.mpr fun entry shown => distinct_entryJson (distinct entry shown))
  refine .object names ?_
  simp only [List.forall_mem_cons]
  exact ⟨distinct_faultJson fault, .text _, entries, List.forall_mem_nil _⟩

end Report

theorem Program.nodup_names_snapshot {program : Program} (distinct : program.vars.names.Nodup) :
    program.snapshot.vars.names.Nodup := by
  have names : program.snapshot.vars.names = program.vars.names.map ("$" ++ ·) := by
    simp only [snapshot, Bindings.names, List.map_map]
    rfl
  rw [names]
  exact distinct.map fun _ _ same => (String.append_right_inj "$").mp same

theorem Machine.distinct_kept : Kept fun machine => machine.program.vars.names.Nodup ∧
    ∀ entry ∈ machine.journal.entries.toList, entry.Distinct where
  record machine phase instruction holds := by
    obtain ⟨names, recorded⟩ := holds
    have entry : (machine.entry phase instruction).Distinct := by
      intro snapshot shown
      obtain ⟨-, same⟩ := Option.ite_none_right_eq_some.mp shown
      obtain rfl := Option.some.inj same
      exact Program.nodup_names_snapshot names
    refine ⟨names, ?_⟩
    rw [record_journal, Array.toList_push]
    exact List.forall_mem_append.mpr ⟨recorded, List.forall_mem_singleton.mpr entry⟩
  perform machine phase action holds acts := by
    obtain ⟨names, recorded⟩ := holds
    refine ⟨nodup_names_kept.perform machine phase action names acts, ?_⟩
    rwa [perform_journal]

/-- Where no two variables have one name, reports on a run show no snapshot with such variables. -/
theorem Report.distinct_of_run {report : Report} {machine : Machine} {budget : Nat}
    (names : machine.program.vars.names.Nodup) (fresh : machine.journal = .seeded)
    (entries : report.entries = (machine.run budget).2.journal.entries.toList) :
    report.Distinct := by
  have seeded : ∀ entry ∈ machine.journal.entries.toList, entry.Distinct := by
    rw [fresh]
    exact List.forall_mem_singleton.mpr nofun
  have recorded := (Machine.distinct_kept.runFrom ⟨names, seeded⟩ .execute budget).2
  intro entry member
  have listed : entry ∈ report.entries := List.mem_of_mem_filter (List.mem_of_mem_drop member)
  rw [entries] at listed
  exact recorded entry listed

end LineScript
