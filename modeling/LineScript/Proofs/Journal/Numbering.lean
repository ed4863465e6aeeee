import LineScript.Proofs.Machine.Atomicity
import LineScript.Proofs.Machine.Invariants
import LineScript.Proofs.Text.Numerals
import Mathlib.Data.List.Nodup

/-!
The journal grows by entries at its end. They are numbered in the order in which they are recorded,
so no two of them have the same identifier, and a run changes nothing that was recorded, said or
written before.
-/

namespace LineScript.Journal

/-- Entries are numbered by their places, and the next number is the next place. -/
structure Numbered (journal : Journal) : Prop where
  steps : journal.entries.toList.map Entry.step = (List.range journal.entries.size).map Int.ofNat
  next : journal.next = journal.entries.size

variable {journal : Journal}

theorem numbered_seeded : seeded.Numbered :=
  ⟨rfl, rfl⟩

theorem Numbered.record (numbered : journal.Numbered) (rule : String) (ip : Option Int)
    (instruction : Option String) (snapshot : Option Snapshot) :
    (journal.record rule ip instruction snapshot).Numbered := by
  obtain ⟨steps, next⟩ := numbered
  refine ⟨?_, ?_⟩
  · simp [Journal.record, steps, next, List.range_succ]
  · simp [Journal.record, next]

theorem Numbered.step_eq {place : Nat} {entry : Entry} (numbered : journal.Numbered)
    (found : journal.entries[place]? = some entry) : entry.step = place := by
  obtain ⟨inside, -⟩ := Array.getElem?_eq_some_iff.mp found
  have listed : (journal.entries.toList.map Entry.step)[place]? = some entry.step := by
    rw [List.getElem?_map, Array.getElem?_toList, found, Option.map_some]
  rw [numbered.steps, List.getElem?_map, List.getElem?_range inside] at listed
  exact (Option.some.inj listed).symm

/-- The identifier of a step is its number, with zeros before it up to six digits. -/
def identifier (number : Nat) : String :=
  "s_" ++ String.ofList ((Nat.toDigits 10 number).leftpad 6 '0')

theorem Entry.id_of_step {entry : Entry} {number : Nat} (numbered : entry.step = number) :
    entry.id = identifier number := by
  have natural : ¬ (number : Int) < 0 := by omega
  have begins : "s_" = String.ofList ['s', '_'] := rfl
  rw [Entry.id, identifier, numbered, Int.natAbs_natCast, if_neg natural, begins,
    ← String.ofList_append]
  rfl

/-- Zeros before a numeral do not change its number. -/
theorem numeral_leftpad (width : Nat) (digits : List Char) :
    Text.numeral (digits.leftpad width '0') = Text.numeral digits := by
  have zeros (count : Nat) : (List.replicate count '0' ++ digits).foldl
      (fun value char => 10 * value + (Text.digitValue? char).getD 0) 0 = Text.numeral digits := by
    induction count with
    | zero => rfl
    | succ count ih => rwa [List.replicate_succ, List.cons_append, List.foldl_cons]
  exact zeros _

theorem identifier_injective : Function.Injective identifier := by
  intro number other same
  have padded : (Nat.toDigits 10 number).leftpad 6 '0' = (Nat.toDigits 10 other).leftpad 6 '0' :=
    String.ofList_injective ((String.append_right_inj "s_").mp same)
  rw [← Text.numeral_decimalChars number, ← Text.numeral_decimalChars other,
    Text.decimalChars_natCast, Text.decimalChars_natCast, ← numeral_leftpad 6, padded,
      numeral_leftpad]

theorem Numbered.ids (numbered : journal.Numbered) :
    journal.entries.toList.map Entry.id = (List.range journal.entries.size).map identifier := by
  refine List.ext_getElem? fun place => ?_
  rw [List.getElem?_map, List.getElem?_map, Array.getElem?_toList]
  cases found : journal.entries[place]? with
  | none =>
    rw [List.getElem?_eq_none (by simpa using Array.getElem?_eq_none_iff.mp found)]
    rfl
  | some entry =>
    obtain ⟨inside, -⟩ := Array.getElem?_eq_some_iff.mp found
    rw [List.getElem?_range inside, Option.map_some, Option.map_some,
      Entry.id_of_step (numbered.step_eq found)]

theorem Numbered.nodup_ids (numbered : journal.Numbered) :
    (journal.entries.toList.map Entry.id).Nodup := by
  rw [numbered.ids]
  exact List.nodup_range.map identifier_injective

end LineScript.Journal

namespace LineScript.Machine

variable {machine middle before after : Machine}

theorem perform_journal (machine : Machine) (action : Action) :
    (machine.perform action).2.journal = machine.journal :=
  machine.follow_journal (.ok action)

theorem numbered_kept : Kept fun machine => machine.journal.Numbered where
  record _ _ _ numbered := numbered.record _ _ _ _
  perform machine _ action numbered _ := by rwa [perform_journal]

/-- What was recorded, said and written stays as it is, and more may follow. -/
structure Extends (before after : Machine) : Prop where
  entries : before.journal.entries.toList <+: after.journal.entries.toList
  events : before.events.toList <+: after.events.toList
  outputs : before.console.outputs.toList <+: after.console.outputs.toList

theorem Extends.refl (machine : Machine) : machine.Extends machine :=
  ⟨List.prefix_rfl, List.prefix_rfl, List.prefix_rfl⟩

theorem Extends.trans (first : before.Extends middle) (second : middle.Extends after) :
    before.Extends after :=
  ⟨first.entries.trans second.entries, first.events.trans second.events,
    first.outputs.trans second.outputs⟩

theorem extends_record (machine : Machine) (phase : Phase) (instruction : Option String) :
    machine.Extends (machine.record phase instruction) := by
  refine ⟨?_, List.prefix_rfl, List.prefix_rfl⟩
  rw [record_journal, Array.toList_push]
  exact List.prefix_append _ _

theorem extends_perform (machine : Machine) (action : Action) :
    machine.Extends (machine.perform action).2 := by
  cases action with
  | proceed program next => exact ⟨List.prefix_rfl, List.prefix_rfl, List.prefix_rfl⟩
  | read target =>
    rcases machine.console.read_cases with ⟨line, rest, -, answered⟩ | ⟨disruption, answered⟩
    · simp only [perform, answered]
      exact ⟨List.prefix_rfl, by simp, List.prefix_rfl⟩
    · simp only [perform, answered]
      exact ⟨List.prefix_rfl, List.prefix_rfl, List.prefix_rfl⟩
  | write text =>
    rcases machine.console.write_cases text with answered | ⟨disruption, answered⟩
    · simp only [perform, answered]
      exact ⟨List.prefix_rfl, by simp, by simp⟩
    · simp only [perform, answered]
      exact ⟨List.prefix_rfl, List.prefix_rfl, List.prefix_rfl⟩

theorem extends_kept (before : Machine) : Kept before.Extends where
  record machine phase instruction longer := longer.trans (machine.extends_record phase instruction)
  perform machine _ action longer _ := longer.trans (machine.extends_perform action)

/-- The entry of the first step is recorded whatever the run does. -/
theorem extends_runFrom_succ {instruction : Option String}
    (found : machine.program.current = .ok instruction) (phase : Phase)
    (budget : Nat) :
    (machine.record phase instruction).Extends (machine.runFrom phase (budget + 1)).2 := by
  have kept := (machine.record phase instruction).extends_kept
  have stepped := kept.dispatch (.refl _) phase
  rw [← step_snd_of_current found] at stepped
  rw [runFrom]
  rcases taken : machine.step phase with ⟨trouble | _ | next, middle⟩ <;> rw [taken] at stepped
  · exact stepped
  · exact stepped
  · exact kept.runFrom stepped next budget

/-- A run with more budget leaves what it left with less, and more. -/
theorem extends_runFrom_add (machine : Machine) (phase : Phase) (budget more : Nat) :
    (machine.runFrom phase budget).2.Extends (machine.runFrom phase (budget + more)).2 :=
  Kept.runFrom_add extends_kept Extends.refl machine phase budget more

end LineScript.Machine
