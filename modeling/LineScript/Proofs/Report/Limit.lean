import LineScript.Proofs.Machine.Position
import LineScript.Proofs.Report.Traceback

/-!
The limit on digits. A report has its texts as long as the integers in them have no more digits than
the limit, and so it is in every report on a run of a program, unless the code or the journal is
longer than any number within the limit.
-/

namespace LineScript

open Text

theorem Text.withIntegers_eq_ok {shown : List Int} (within : ∀ value ∈ shown, Writable value)
    (text : String) :
    withIntegers shown text = .ok text :=
  if_pos within

theorem Text.withIntegers_eq_error {shown : List Int} (beyond : ¬ ∀ value ∈ shown, Writable value)
    (text : String) : withIntegers shown text = .error .tooManyDigits :=
  if_neg beyond

theorem Text.natAbs_lt_pow {number digits : Nat} (small : number < 10 ^ digits) :
    (number : Int).natAbs < Nat.pow 10 digits := by
  rw [Int.natAbs_natCast, Nat.pow_eq]
  exact small

theorem Text.writable_of_lt {number : Nat} (small : number < 10 ^ maxDigits) : Writable number :=
  natAbs_lt_pow small

namespace Json

theorem numbersOfItems_eq (items : List Json) : numbersOfItems items = items.flatMap numbers := by
  induction items with
  | nil => rfl
  | cons item rest ih => rw [numbersOfItems, ih, List.flatMap_cons]

theorem numbersOfFields_eq (fields : List (String × Json)) :
    numbersOfFields fields = fields.flatMap fun field => field.2.numbers := by
  induction fields with
  | nil => rfl
  | cons field rest ih => rw [numbersOfFields, ih, List.flatMap_cons]

theorem numbers_ofText? (value : Option String) : (ofText? value).numbers = [] := by
  cases value <;> rfl

theorem numbers_ofNumber? (value : Option Int) : (ofNumber? value).numbers = value.toList := by
  cases value <;> rfl

end Json

namespace Report

open Json

variable {report : Report} {fault : Fault} {machine after : Machine}

theorem numbers_snapshotJson (snapshot : Snapshot) :
    (snapshotJson snapshot).numbers = [snapshot.ip] := by
  simp only [snapshotJson, numbers, numbersOfFields, numbersOfItems_eq, numbersOfFields_eq,
    List.flatMap_map, List.flatMap_eq_nil_iff.mpr fun _ _ => rfl, List.append_nil]

theorem numbers_entryJson (entry : Journal.Entry) :
    (entryJson entry).numbers =
      entry.step :: entry.ip.toList ++ entry.snapshot.toList.map fun snapshot => snapshot.ip := by
  rw [entryJson]
  cases entry.snapshot with
  | none =>
    simp [numbers, numbersOfFields, numbers_ofText?, numbers_ofNumber?]
  | some snapshot =>
    simp [numbers, numbersOfFields, numbers_ofText?, numbers_ofNumber?, numbers_snapshotJson]

theorem numbers_toJson (report : Report) (fault : Fault) :
    (report.toJson fault).numbers =
      fault.ip.toList ++ fault.step.toList ++ report.recent.flatMap fun entry =>
        (entryJson entry).numbers := by
  simp [toJson, faultJson, numbers, numbersOfFields, numbersOfItems_eq, numbers_ofText?,
    numbers_ofNumber?, List.flatMap_map]

end Report

namespace Journal.Entry

/-- Every integer that an entry holds is within the limit. -/
structure Writable (entry : Journal.Entry) : Prop where
  step : Text.Writable entry.step
  ip : ∀ ip ∈ entry.ip, Text.Writable ip
  snapshot : ∀ snapshot ∈ entry.snapshot, Text.Writable snapshot.ip

/-- The positions that an entry holds lie in some code, or at its end. -/
structure Inside (code : List String) (entry : Journal.Entry) : Prop where
  ip : ∀ ip ∈ entry.ip, ∃ place : Nat, place ≤ code.length ∧ ip = place
  snapshot : ∀ snapshot ∈ entry.snapshot,
    ∃ place : Nat, place ≤ code.length ∧ snapshot.ip = place

theorem Inside.writable {code : List String} {entry : Journal.Entry} (inside : entry.Inside code)
    (short : code.length < 10 ^ maxDigits) (step : Text.Writable entry.step) : entry.Writable := by
  have within {value : Int} (placed : ∃ place : Nat, place ≤ code.length ∧ value = place) :
      Text.Writable value := by
    obtain ⟨place, near, rfl⟩ := placed
    exact writable_of_lt (Nat.lt_of_le_of_lt near short)
  exact ⟨step, fun value held => within (inside.ip value held),
    fun shown held => within (inside.snapshot shown held)⟩

end Journal.Entry

namespace Report

variable {report : Report} {fault : Fault} {machine after : Machine}

/-- Every integer that a report on a fault shows is within the limit. -/
structure Writable (report : Report) (fault : Fault) : Prop where
  entries : ∀ entry ∈ report.recent, entry.Writable
  ip : ∀ ip ∈ fault.ip, Text.Writable ip
  step : ∀ step ∈ fault.step, Text.Writable step

theorem forall_numbers_entryJson_iff {entry : Journal.Entry} :
    (∀ value ∈ (entryJson entry).numbers, Text.Writable value) ↔ entry.Writable := by
  rw [numbers_entryJson, List.forall_mem_append, List.forall_mem_cons, List.forall_mem_map]
  simp only [Option.mem_toList]
  exact ⟨fun ⟨⟨step, ip⟩, snapshot⟩ => ⟨step, ip, snapshot⟩,
    fun writable => ⟨⟨writable.step, writable.ip⟩, writable.snapshot⟩⟩

theorem forall_numbers_toJson_iff :
    (∀ value ∈ (report.toJson fault).numbers, Text.Writable value) ↔ report.Writable fault := by
  rw [numbers_toJson, List.forall_mem_append, List.forall_mem_append]
  simp only [List.mem_flatMap, Option.mem_toList]
  constructor
  · rintro ⟨⟨ip, step⟩, entries⟩
    exact ⟨fun entry shown => forall_numbers_entryJson_iff.mp fun value member =>
      entries value ⟨entry, shown, member⟩, ip, step⟩
  · rintro ⟨entries, ip, step⟩
    exact ⟨⟨ip, step⟩, fun value ⟨entry, shown, member⟩ =>
      forall_numbers_entryJson_iff.mpr (entries entry shown) value member⟩

/-- A report has a JSON text if and only if the integers in it are within the limit. -/
theorem json?_eq_ok (writable : report.Writable fault) :
    report.json? fault = .ok (report.json fault) :=
  withIntegers_eq_ok (forall_numbers_toJson_iff.mpr writable) _

theorem json?_eq_error (beyond : ¬ report.Writable fault) :
    report.json? fault = .error .tooManyDigits :=
  withIntegers_eq_error (mt forall_numbers_toJson_iff.mp beyond) _

/-- The text shows no other integers than JSON does. -/
theorem text?_eq_ok (writable : report.Writable fault) (verbose : Bool) :
    report.text? fault verbose = .ok (report.text fault verbose) := by
  refine withIntegers_eq_ok (fun value member => ?_) _
  obtain ⟨entry, shown, member⟩ := List.mem_flatMap.mp member
  rcases List.mem_append.mp member with ip | step
  · exact (writable.entries entry shown).ip value (Option.mem_toList.mp ip)
  · obtain rfl := List.mem_singleton.mp step
    exact (writable.entries entry shown).step

end Report

namespace Machine

variable {machine after : Machine} {fault : Fault}

/-- The positions that are recorded lie in the code, or at its end. -/
theorem recorded_inside_kept (code : List String) :
    Kept fun machine => (machine.program.Inside ∧ machine.program.code = code) ∧
      ∀ entry ∈ machine.journal.entries.toList, entry.Inside code where
  record machine phase instruction holds := by
    obtain ⟨⟨inside, same⟩, recorded⟩ := holds
    obtain ⟨place, here⟩ := Int.eq_ofNat_of_zero_le inside.nonneg
    have short : place ≤ code.length := by
      have bound := inside.le_length
      rw [same] at bound
      omega
    refine ⟨⟨inside, same⟩, ?_⟩
    rw [record_journal, Array.toList_push]
    refine List.forall_mem_append.mpr ⟨recorded, List.forall_mem_singleton.mpr ⟨?_, ?_⟩⟩
    · intro ip held
      obtain rfl := Option.some.inj held
      exact ⟨place, short, here⟩
    · intro snapshot held
      obtain ⟨-, shown⟩ := Option.ite_none_right_eq_some.mp held
      obtain rfl := Option.some.inj shown
      exact ⟨place, short, here⟩
  perform machine phase action holds acts := by
    refine ⟨(inside_kept code).perform machine phase action holds.1 acts, ?_⟩
    rw [perform_journal]
    exact holds.2

/-- The report on a run that stopped with a fault has its texts, unless the code or the journal is
too long for its numbers. -/
theorem writable_of_run {budget : Nat} {report : Report} (inside : machine.program.Inside)
    (fresh : machine.journal = .seeded)
    (ended : machine.run budget = (.stopped (.fault fault), after))
    (unplaced : ∀ raised, machine.console.Brought after.console raised → raised.Unplaced)
    (short : after.program.code.length < 10 ^ maxDigits)
    (few : after.journal.entries.size ≤ 10 ^ maxDigits)
    (entries : report.entries = after.journal.entries.toList) : report.Writable fault := by
  have seeded : ∀ entry ∈ machine.journal.entries.toList, entry.Inside machine.program.code := by
    rw [fresh]
    exact List.forall_mem_singleton.mpr ⟨nofun, nofun⟩
  obtain ⟨⟨-, same⟩, recorded⟩ := (recorded_inside_kept machine.program.code).runFrom
    ⟨⟨inside, rfl⟩, seeded⟩ .execute budget
  have numbered := numbered_kept.runFrom (fresh ▸ Journal.numbered_seeded) .execute budget
  rw [← run, ended] at same recorded numbered
  rw [← same] at recorded
  have writable : ∀ entry ∈ after.journal.entries.toList, entry.Writable := by
    intro entry member
    have step : entry.step ∈ (List.range after.journal.entries.size).map Int.ofNat :=
      numbered.steps ▸ List.mem_map_of_mem member
    obtain ⟨number, small, counted⟩ := List.mem_map.mp step
    have counts := writable_of_lt (Nat.lt_of_lt_of_le (List.mem_range.mp small) few)
    exact (recorded entry member).writable short (counted ▸ counts)
  obtain ⟨count, before, last, instruction, met, -, breaks⟩ := breaks_of_run ended
  have place : fault.At (before.entry last instruction) :=
    breaks.placed ▸ faultOf_at (breaks.unplaced unplaced)
  have here : (before.entry last instruction).Writable := writable _ <| by
    rw [breaks.entries, Array.toList_push]
    exact List.mem_append_right _ (List.mem_singleton_self _)
  refine ⟨fun entry shown => writable entry ?_, ?_, ?_⟩
  · rw [← entries]
    exact List.mem_of_mem_filter (List.mem_of_mem_drop shown)
  · rw [place.ip]
    exact here.ip
  · rw [place.step]
    intro step held
    obtain rfl := Option.some.inj held
    exact here.step

end Machine

end LineScript
