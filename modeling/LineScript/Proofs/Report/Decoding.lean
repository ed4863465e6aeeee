import LineScript.Proofs.Report.Limit

/-!
What a report says as JSON. Its text is read as the data of the fault and of the entries that are
shown, and as nothing else, so that two reports with one text are about the same fault, file and
steps.
-/

namespace LineScript

namespace Json

theorem ofText?_injective : Function.Injective ofText? := by
  intro first second same
  cases first <;> cases second <;> cases same <;> rfl

theorem ofNumber?_injective : Function.Injective ofNumber? := by
  intro first second same
  cases first <;> cases second <;> cases same <;> rfl

end Json

open Json

namespace Report

variable {report other : Report} {fault known : Fault} {snapshot : Snapshot} {entry : Journal.Entry}

/-- Two reports show the same steps of one file, and two faults have the same message and place. -/
structure Agrees (report other : Report) (fault known : Fault) : Prop where
  file : report.file = other.file
  recent : report.recent = other.recent
  message : fault.message = known.message
  phase : fault.phase = known.phase
  ip : fault.ip = known.ip
  instruction : fault.instruction = known.instruction
  step : fault.step = known.step

theorem snapshotJson_injective : Function.Injective snapshotJson := by
  intro first second same
  obtain ⟨ip, ⟨vars⟩, stack⟩ := first
  obtain ⟨_, ⟨others⟩, values⟩ := second
  simp only [snapshotJson, object.injEq, List.cons.injEq, Prod.mk.injEq, number.injEq, list.injEq,
    true_and, and_true] at same
  obtain ⟨rfl, bound, pushed⟩ := same
  have pair : Function.Injective fun pair : String × String => (pair.1, Json.text pair.2) := by
    intro first second same
    cases first
    cases second
    cases same
    rfl
  have text : Function.Injective Json.text := fun _ _ => Json.text.inj
  obtain rfl : vars = others := List.map_injective_iff.mpr pair bound
  obtain rfl : stack = values := List.map_injective_iff.mpr text pushed
  rfl

/-- Only an entry with a snapshot shows one. -/
theorem field?_entryJson (entry : Journal.Entry) :
    (entryJson entry).field? "env_snapshot" = entry.snapshot.map snapshotJson := by
  rw [entryJson]
  cases entry.snapshot <;> rfl

theorem entryJson_injective : Function.Injective entryJson := by
  intro first second same
  have shown := congrArg (field? "env_snapshot") same
  rw [field?_entryJson, field?_entryJson] at shown
  simp only [entryJson, object.injEq, List.cons_append, List.cons.injEq, Prod.mk.injEq,
    number.injEq, text.injEq, true_and] at same
  obtain ⟨step, -, rule, ip, instruction, -⟩ := same
  cases first
  cases second
  cases step
  cases rule
  cases ofNumber?_injective ip
  cases ofText?_injective instruction
  cases Option.map_injective snapshotJson_injective shown
  rfl

theorem toJson_eq_iff :
    report.toJson fault = other.toJson known ↔ Agrees report other fault known := by
  constructor
  · intro same
    simp only [toJson, faultJson, object.injEq, List.cons.injEq, Prod.mk.injEq, text.injEq,
      list.injEq, true_and, and_true] at same
    obtain ⟨⟨message, phase, ip, instruction, step⟩, file, recent⟩ := same
    exact ⟨file, List.map_injective_iff.mpr entryJson_injective recent, message,
      ofText?_injective phase,
      ofNumber?_injective ip, ofText?_injective instruction, ofNumber?_injective step⟩
  · intro agrees
    rw [toJson, toJson, faultJson, faultJson, agrees.file, agrees.recent, agrees.message,
      agrees.phase, agrees.ip, agrees.instruction, agrees.step]

/-- The JSON text of a report can be had if and only if every integer in it is within the limit on
digits. It is made of line feeds and visible ASCII alone. It is read as the data of the fault, the
file and the entries that are shown, whatever their texts hold, and as no other value. So two
reports have one text if and only if they agree in all of that. -/
theorem json_decodes (report : Report) (fault : Fault) (distinct : report.Distinct) :
    (¬ report.Writable fault → report.json? fault = .error .tooManyDigits) ∧
    (report.Writable fault → ∃ text, report.json? fault = .ok text ∧
      (∀ char ∈ text.toList, char = '\n' ∨ 0x20 ≤ char.toNat ∧ char.toNat ≤ 0x7E) ∧
      (∀ value, Denotes text value ↔ value = .object [
        ("error", .object [
          ("type", .text "SegRuntimeError"),
          ("message", .text fault.message),
          ("state", .ofText? fault.phase),
          ("ip", .ofNumber? fault.ip),
          ("instruction", .ofText? fault.instruction),
          ("failing_step_index", .ofNumber? fault.step)]),
        ("file", .text report.file),
        ("traceback", .list (report.recent.map entryJson))]) ∧
      ∀ other known, other.Distinct →
        (other.json? known = .ok text ↔ Agrees report other fault known)) ∧
    ∀ entry : Journal.Entry, entry.Filed (entryJson entry) := by
  refine ⟨json?_eq_error, fun writable => ⟨_, json?_eq_ok writable, legible_render _,
    fun value => denotes_render_iff (distinct.toJson fault), fun other known also => ?_⟩,
      filed_entryJson⟩
  have same : other.json known = report.json fault ↔ Agrees report other fault known := by
    rw [eq_comm, json, json, render_inj (distinct.toJson fault) (also.toJson known), toJson_eq_iff]
  rw [← same]
  constructor
  · intro written
    by_cases within : other.Writable known
    · rw [json?_eq_ok within] at written
      exact Except.ok.inj written
    · rw [json?_eq_error within] at written
      cases written
  · intro alike
    have shown : report.toJson fault = other.toJson known := toJson_eq_iff.mpr (same.mp alike)
    have within : other.Writable known :=
      forall_numbers_toJson_iff.mp (shown ▸ forall_numbers_toJson_iff.mpr writable)
    rw [json?_eq_ok within, alike]

/-- A report with texts of all kinds: quotes, control characters, letters, a sign beyond the first
plane. -/
def strangeReport : Report where
  file := "a\\\"b"
  entries := [
    { step := 0, rule := "SEED", ip := none, instruction := some "<seed>", snapshot := none },
    { step := 41, rule := "IF", ip := some (-3), instruction := none, snapshot := none },
    { step := -2, rule := "\t", ip := none, instruction := some "\x7f",
      snapshot := some { ip := 7, vars := ⟨[("😀", "é"), ("", "\x00")]⟩, stack := [] } }]
  depth := 2

def strangeFault : Fault where
  cause := .reported "/\r\n"
  ip := some (-1000000000000000000000)

/-- What that report says of that fault, line by line. -/
def strangeLines : List String := [
  "\x7b",
  "  \"error\": \x7b",
  "    \"type\": \"SegRuntimeError\",",
  "    \"message\": \"/\\r\\n\",",
  "    \"state\": null,",
  "    \"ip\": -1000000000000000000000,",
  "    \"instruction\": null,",
  "    \"failing_step_index\": null",
  "  \x7d,",
  "  \"file\": \"a\\\\\\\"b\",",
  "  \"traceback\": [",
  "    \x7b",
  "      \"step_index\": 41,",
  "      \"state_id\": \"s_000041\",",
  "      \"rule\": \"IF\",",
  "      \"ip\": -3,",
  "      \"instruction\": null",
  "    \x7d,",
  "    \x7b",
  "      \"step_index\": -2,",
  "      \"state_id\": \"s_-00002\",",
  "      \"rule\": \"\\t\",",
  "      \"ip\": null,",
  "      \"instruction\": \"\\u007f\",",
  "      \"env_snapshot\": \x7b",
  "        \"ip\": 7,",
  "        \"vars\": \x7b",
  "          \"\\ud83d\\ude00\": \"\\u00e9\",",
  "          \"\": \"\\u0000\"",
  "        \x7d,",
  "        \"stack\": []",
  "      \x7d",
  "    \x7d",
  "  ]",
  "\x7d"]

def strangeValue : Json :=
  .object [
    ("error", .object [
      ("type", .text "SegRuntimeError"),
      ("message", .text "/\r\n"),
      ("state", .null),
      ("ip", .number (-1000000000000000000000)),
      ("instruction", .null),
      ("failing_step_index", .null)]),
    ("file", .text "a\\\"b"),
    ("traceback", .list [
      .object [
        ("step_index", .number 41),
        ("state_id", .text "s_000041"),
        ("rule", .text "IF"),
        ("ip", .number (-3)),
        ("instruction", .null)],
      .object [
        ("step_index", .number (-2)),
        ("state_id", .text "s_-00002"),
        ("rule", .text "\t"),
        ("ip", .null),
        ("instruction", .text "\x7f"),
        ("env_snapshot", .object [
          ("ip", .number 7),
          ("vars", .object [("😀", .text "é"), ("", .text "\x00")]),
          ("stack", .list [])])]])]

instance (report : Report) (fault : Fault) : Decidable (report.Writable fault) :=
  decidable_of_iff _ forall_numbers_toJson_iff

/-- The text of that report is read as its data, and is not the text of a fault at another
position. -/
theorem strangeReport_decodes :
    strangeReport.Distinct ∧ ∃ text, strangeReport.json? strangeFault = .ok text ∧
      text = String.intercalate "\n" strangeLines ∧
      (∀ value, Denotes text value ↔ value = strangeValue) ∧
      ∀ other : Report, other.Distinct →
        other.json? { strangeFault with ip := none } ≠ .ok text := by
  have distinct : strangeReport.Distinct := by
    have names : ∀ entry ∈ strangeReport.recent,
        (entry.snapshot.all fun snapshot => snapshot.vars.names.Nodup) = true := by
      decide
    intro entry member snapshot held
    have shown := names entry member
    rw [held] at shown
    exact of_decide_eq_true shown
  obtain ⟨-, decodes, -⟩ := json_decodes strangeReport strangeFault distinct
  obtain ⟨text, written, -, denotes, agrees⟩ := decodes (by decide +kernel)
  refine ⟨distinct, text, written, ?_, denotes, fun other also same => ?_⟩
  · obtain rfl := Except.ok.inj (written.symm.trans (json?_eq_ok (by decide +kernel)))
    apply String.toList_injective
    rw [json, render, String.toList_ofList, String.toList_intercalate]
    decide +kernel
  · cases ((agrees other _ also).mp same).ip

def briefFault : Fault where
  cause := .reported "m"

/-- A report on one entry, whose position has a digit too many. -/
def farReport : Report where
  file := "<string>"
  entries := (Journal.seeded.record "EXECUTE" (some (10 ^ Text.maxDigits)) none none).entries.toList

/-- A journal whose last two entries have the greatest number within the limit and the next one. -/
def longJournal : Journal :=
  let begun : Journal := { Journal.seeded with next := 10 ^ Text.maxDigits - 1 }
  (begun.record "EXECUTE" none none none).record "EXECUTE" none none none

def longReport : Report where
  file := "<string>"
  entries := longJournal.entries.toList

theorem distinct_of_bare (bare : ∀ entry ∈ report.recent, entry.snapshot.isNone = true) :
    report.Distinct := by
  intro entry shown snapshot held
  have none := bare entry shown
  rw [held] at none
  cases none

/-- Not every report has a JSON text: neither a position nor a number of an entry is written with so
many digits. -/
theorem longReport_unwritten :
    (farReport.Distinct ∧ ¬ farReport.Writable briefFault ∧
      farReport.json? briefFault = .error .tooManyDigits) ∧
    longReport.Distinct ∧ ¬ longReport.Writable briefFault ∧
      longReport.json? briefFault = .error .tooManyDigits := by
  have far : ¬ farReport.Writable briefFault := by decide +kernel
  have long : ¬ longReport.Writable briefFault := by decide +kernel
  exact ⟨⟨distinct_of_bare (by decide +kernel), far, json?_eq_error far⟩,
    distinct_of_bare (by decide +kernel), long, json?_eq_error long⟩

end Report

end LineScript
