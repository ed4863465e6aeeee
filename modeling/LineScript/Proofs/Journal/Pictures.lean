import Mathlib.Data.List.Forall2
import LineScript.Proofs.Journal.Numbering
import LineScript.Proofs.Machine.Frame
import LineScript.Proofs.Machine.Snapshots

/-!
Pictures in a journal. Every entry of a run was recorded by a machine that the run came to, just
before the step was taken, and nothing later changes it; with snapshots, it shows the program of
that machine. A run without snapshots is the same run.
-/

namespace LineScript

/-- How a snapshot shows a text: whole if it is short, and otherwise its beginning and three
dots. -/
structure Text.Abridges (text shown : String) : Prop where
  whole : text.length ≤ 80 → shown = text
  cut : 80 < text.length → shown.toList = text.toList.take 77 ++ "...".toList

/-- A snapshot shows a program: its variables and its stack in their order, the top of the stack
last. -/
structure Snapshot.Pictures (snapshot : Snapshot) (program : Program) : Prop where
  ip : snapshot.ip = program.ip
  vars : List.Forall₂
    (fun shown binding => shown.1 = "$" ++ binding.1 ∧ Text.Abridges binding.2 shown.2)
    snapshot.vars.toList program.vars.toList
  stack :
    List.Forall₂ (fun shown text => Text.Abridges text shown) snapshot.stack program.stack.reverse

namespace Program

theorem shorten_abridges (text : String) : Text.Abridges text (shorten text) := by
  constructor
  · intro short
    rw [shorten, if_neg (Nat.not_lt.mpr short)]
  · intro long
    rw [shorten, if_pos long, String.toList_append, String.toList_ofList]

theorem snapshot_pictures (program : Program) : program.snapshot.Pictures program where
  ip := rfl
  vars := by
    refine List.forall₂_map_left_iff.mpr (List.forall₂_same.mpr ?_)
    intro binding _
    exact ⟨rfl, shorten_abridges binding.2⟩
  stack := by
    rw [snapshot, ← List.map_reverse]
    refine List.forall₂_map_left_iff.mpr (List.forall₂_same.mpr ?_)
    intro text _
    exact shorten_abridges text

end Program

namespace Machine

variable {machine before after : Machine} {phase last : Phase} {instruction : Option String}
  {budget place : Nat} {entry : Journal.Entry}

/-- The journal after a step has one entry more. -/
theorem step_entries (found : machine.program.current = .ok instruction) (phase : Phase) :
    (machine.step phase).2.journal.entries =
      machine.journal.entries.push (machine.entry phase instruction) := by
  rw [step_snd_of_current found, dispatch_journal, record_journal]

/-- Every entry that a run adds was recorded by the machine to which the steps before it lead. -/
theorem recorded_of_run
    (listed :
      (machine.runFrom phase budget).2.journal.entries[machine.journal.entries.size + place]? =
        some entry) :
    ∃ last before instruction, machine.runFrom phase place = (.paused last, before) ∧
      before.program.current = .ok instruction ∧ entry = before.entry last instruction := by
  have outside {place : Nat} {after : Machine} (beyond : after.journal.entries.size ≤ place) :
      after.journal.entries[place]? ≠ some entry := by
    rw [Array.getElem?_eq_none beyond]
    exact (Option.some_ne_none entry).symm
  induction budget generalizing machine phase place with
  | zero =>
    rw [runFrom] at listed
    split at listed <;> exact absurd listed (outside (Nat.le_add_right _ _))
  | succ budget ih =>
    cases found : machine.program.current with
    | error mishap =>
      rw [runFrom_of_current_error found] at listed
      exact absurd listed (outside (Nat.le_add_right _ _))
    | ok instruction =>
      cases place with
      | zero =>
        refine ⟨phase, machine, instruction, runFrom_zero_of_current found, found, ?_⟩
        obtain ⟨more, parts⟩ := (extends_runFrom_succ found phase budget).entries
        rw [← Array.getElem?_toList, ← parts, record_journal, Array.toList_push, List.append_assoc,
          ← Array.length_toList, List.getElem?_append_right (Nat.le_add_right _ _)] at listed
        simpa using listed.symm
      | succ place =>
        have pushed := step_entries found phase
        rw [runFrom] at listed ⊢
        rcases taken : machine.step phase with
            ⟨trouble | _ | next, after⟩ <;> rw [taken] at pushed listed
        · exact absurd listed (outside (by rw [pushed, Array.size_push]; omega))
        · exact absurd listed (outside (by rw [pushed, Array.size_push]; omega))
        · apply ih
          rw [pushed, Array.size_push, Nat.add_assoc, Nat.add_comm 1]
          exact listed

/-- A machine that is about to run a source, with snapshots or without. -/
def ofSource (source : String) (console : Console) (verbose : Bool) :
    Except LoadFailure Machine := do
  return { program := .ofListing (← Listing.ofSource source), console, verbose }

/-- Two runs differ in nothing but the snapshots that the first of them keeps. -/
structure Watches (watched plain : Ending × Machine) : Prop where
  ending : plain.1 = watched.1
  program : plain.2.program = watched.2.program
  console : plain.2.console = watched.2.console
  events : plain.2.events = watched.2.events
  journal : plain.2.journal = watched.2.journal.bare

theorem watches_of_quiet {plain : Machine} (same : machine.quiet = plain) (budget : Nat) :
    Watches (machine.run budget) (plain.run budget) := by
  rw [← same, run, run, mirrored_quiet.runFrom trivial]
  exact ⟨rfl, rfl, rfl, rfl, rfl⟩

/-- A machine that keeps snapshots pictures every step of a run at its start. -/
theorem pictured_of_run (verbose : machine.verbose = true)
    (listed :
      (machine.runFrom phase budget).2.journal.entries[machine.journal.entries.size + place]? =
        some entry) :
    ∃ last before snapshot, machine.runFrom phase place = (.paused last, before) ∧
      entry.rule = last.name ∧ entry.snapshot = some snapshot ∧
        snapshot.Pictures before.program := by
  obtain ⟨last, before, instruction, paused, -, rfl⟩ := recorded_of_run listed
  have still : before.verbose = true := by
    have kept := (verbose_kept true).runFrom verbose phase place
    rwa [paused] at kept
  refine ⟨last, before, before.program.snapshot, paused, rfl, ?_, before.program.snapshot_pictures⟩
  rw [Machine.entry, still]
  rfl

/-- Verbosity is only observation. A source loads the same, and runs the same with snapshots and
without, and with them every entry but the first shows the program just before the step of the entry
was taken. -/
theorem verbosity_only_observes (source : String) (console : Console) :
    (∃ failure, ofSource source console true = .error failure ∧
      ofSource source console false = .error failure) ∨
    ∃ watched plain, ofSource source console true = .ok watched ∧
      ofSource source console false = .ok plain ∧
      ∀ budget, Watches (watched.run budget) (plain.run budget) ∧
        (watched.run budget).2.journal.entries[0]? = Journal.seeded.entries[0]? ∧
        ∀ place entry, (watched.run budget).2.journal.entries[place + 1]? = some entry →
          ∃ phase before snapshot, watched.run place = (.paused phase, before) ∧
            entry.rule = phase.name ∧ entry.snapshot = some snapshot ∧
            snapshot.Pictures before.program := by
  cases loaded : Listing.ofSource source with
  | error failure =>
    left
    refine ⟨failure, ?_, ?_⟩ <;> rw [ofSource, loaded] <;> rfl
  | ok listing =>
    right
    have machine (verbose : Bool) : ofSource source console verbose =
        .ok { program := .ofListing listing, console, verbose } := by
      rw [ofSource, loaded]
      rfl
    refine ⟨_, _, machine true, machine false, fun budget => ⟨?_, ?_, ?_⟩⟩
    · have bare : Journal.seeded.bare = Journal.seeded := by
        simp [Journal.bare, Journal.seeded, Journal.record]
      apply watches_of_quiet
      rw [quiet, bare]
    · obtain ⟨more, parts⟩ := ((extends_kept _).runFrom (.refl _) .execute budget).entries
      rw [run, ← Array.getElem?_toList, ← parts]
      rfl
    · intro place entry listed
      rw [Nat.add_comm] at listed
      exact pictured_of_run rfl listed

end Machine

end LineScript
