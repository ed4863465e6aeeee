import LineScript.Proofs.Machine.Atomicity
import LineScript.Proofs.Machine.Invariants

/-!
The position of a running program. It never leaves the code by more than the end: an instruction is
left for the next one or for a line that exists, and no phase but the first and the last is reached
without an instruction at hand.
-/

namespace LineScript

variable {program other : Program} {outcome : Option Phase}

namespace Program

/-- The position is that of an instruction, or the end of the code. -/
structure Inside (program : Program) : Prop where
  nonneg : 0 ≤ program.ip
  le_length : program.ip ≤ program.code.length

theorem Inside.current_eq (inside : program.Inside) :
    program.current = .ok program.code[program.ip.toNat]? := by
  rw [current]
  by_cases atEnd : (program.code.length : Int) ≤ program.ip
  · rw [if_pos atEnd, List.getElem?_eq_none (by omega)]
  · rw [if_neg atEnd, if_pos inside.nonneg]

theorem Inside.current (inside : program.Inside) :
    ∃ instruction, program.current = .ok instruction :=
  ⟨_, inside.current_eq⟩

/-- There is an instruction only before the end of the code. -/
theorem lt_length_of_current {text : String} (found : program.current = .ok (some text)) :
    program.ip < program.code.length := by
  refine Int.not_le.mp fun atEnd => ?_
  rw [Program.current, if_pos atEnd] at found
  cases found

theorem inside_ofListing (listing : Listing) : (ofListing listing).Inside :=
  ⟨Int.le_refl 0, Int.natCast_nonneg _⟩

/-- The same code, at the instruction after this one or at another instruction. -/
structure Moves (program other : Program) : Prop where
  code : other.code = program.code
  ip : other.ip = program.ip + 1 ∨ ∃ target : Nat, target < program.code.length ∧ other.ip = target

theorem Moves.inside (moves : program.Moves other) (inside : program.Inside)
    (before : program.ip < program.code.length) : other.Inside := by
  have nonneg := inside.nonneg
  rcases moves.ip with next | ⟨target, short, there⟩
  · exact ⟨by omega, by rw [moves.code]; omega⟩
  · exact ⟨by omega, by rw [moves.code]; omega⟩

/-- An operation leaves the code and the position alone. -/
theorem compute_frame {target : String} {operator : Operator} {left right : Int}
    (computed : program.compute target operator left right = .ok other) :
    other.code = program.code ∧ other.ip = program.ip := by
  rcases compute_cases computed with ⟨-, value, rfl⟩ | ⟨-, division, -, rfl⟩
  · exact ⟨rfl, rfl⟩
  · exact ⟨rfl, rfl⟩

end Program

theorem Statement.Acts.moves {statement : Statement}
    (acts : statement.Acts program (.proceed other outcome)) : program.Moves other := by
  cases acts with
  | literal => exact ⟨rfl, .inl rfl⟩
  | pop => exact ⟨rfl, .inl rfl⟩
  | copy => exact ⟨rfl, .inl rfl⟩
  | arithmetic _ _ result =>
    obtain ⟨code, ip⟩ := Program.compute_frame result
    exact ⟨code, .inl (congrArg (· + 1) ip)⟩
  | jump inside => exact ⟨rfl, .inr ⟨_, inside, rfl⟩⟩
  | taken _ _ _ inside => exact ⟨rfl, .inr ⟨_, inside, rfl⟩⟩
  | passed => exact ⟨rfl, .inl rfl⟩

/-- A phase leaves the program alone, or it has an instruction at hand and moves on from it. -/
theorem Phase.Acts.moves {phase : Phase} (acts : phase.Acts program (.proceed other outcome)) :
    other = program ∨ (∃ text, program.current = .ok (some text)) ∧ program.Moves other := by
  cases acts with
  | ended => exact .inl rfl
  | named => exact .inl rfl
  | handOn => exact .inl rfl
  | carry found _ acts => exact .inr ⟨⟨_, found⟩, acts.moves⟩
  | finish => exact .inl rfl

/-- The console is asked only by an instruction. -/
theorem Phase.Acts.current {phase : Phase} {action : Action} (acts : phase.Acts program action)
    (asks : ∀ program next, action ≠ .proceed program next) :
    ∃ text, program.current = .ok (some text) := by
  cases acts with
  | carry found => exact ⟨_, found⟩
  | _ => exact absurd rfl (asks _ _)

namespace Machine

variable {machine after : Machine} {phase next : Phase} {budget : Nat} {ending : Ending}

theorem perform_moves {action : Action} (acts : phase.Acts machine.program action) :
    (machine.perform action).2.program = machine.program ∨
      (∃ text, machine.program.current = .ok (some text)) ∧
        machine.program.Moves (machine.perform action).2.program := by
  cases action with
  | proceed program next => exact acts.moves
  | read target =>
    have found := acts.current fun _ _ same => by cases same
    rw [perform]
    rcases machine.console.read with ⟨disruption | line, console⟩
    · exact .inl rfl
    · exact .inr ⟨found, rfl, .inl rfl⟩
  | write text =>
    have found := acts.current fun _ _ same => by cases same
    rw [perform]
    rcases machine.console.write text with ⟨disruption | _, console⟩
    · exact .inl rfl
    · exact .inr ⟨found, rfl, .inl rfl⟩

theorem code_kept (code : List String) : Kept fun machine => machine.program.code = code where
  record _ _ _ same := same
  perform _ _ _ same acts := by
    rcases perform_moves acts with still | ⟨-, moves⟩
    · rw [still]
      exact same
    · exact moves.code.trans same

/-- The code never changes and the position stays inside it. -/
theorem inside_kept (code : List String) :
    Kept fun machine => machine.program.Inside ∧ machine.program.code = code := by
  refine Kept.and ⟨fun _ _ _ inside => inside, ?_⟩ (code_kept code)
  intro machine phase action inside acts
  rcases perform_moves acts with still | ⟨⟨text, found⟩, moves⟩
  · rw [still]
    exact inside
  · exact moves.inside inside (Program.lt_length_of_current found)

/-- Inside the code, whatever goes wrong becomes a fault. -/
theorem runFrom_ne_mishap (inside : machine.program.Inside) (phase : Phase) (budget : Nat)
    (mishap : Mishap) : (machine.runFrom phase budget).1 ≠ .stopped (.mishap mishap) := by
  induction budget generalizing machine phase with
  | zero =>
    obtain ⟨instruction, found⟩ := inside.current
    rw [runFrom_zero_of_current found]
    rintro ⟨⟩
  | succ budget ih =>
    have still := ((inside_kept machine.program.code).step ⟨inside, rfl⟩ phase).1
    obtain ⟨instruction, found⟩ := inside.current
    rw [runFrom]
    rcases taken : machine.step phase with ⟨trouble | _ | next, after⟩ <;> rw [taken] at still
    · obtain ⟨-, -, met, rfl⟩ := step_error found taken
      rintro ⟨⟩
    · rintro ⟨⟩
    · exact ih still next

/-- A phase that carries instructions out is reached only with an instruction at hand. -/
theorem Routed.current (routed : machine.Routed phase) (start : phase ≠ .execute)
    (finish : phase ≠ .finish) : ∃ text, machine.program.current = .ok (some text) := by
  cases routed with
  | start => exact absurd rfl start
  | pass _ _ planned =>
    cases Phase.acts_of_plan planned with
    | ended => exact absurd rfl finish
    | named found => exact ⟨_, found⟩
    | handOn found => exact ⟨_, found⟩
    | carry found => exact ⟨_, found⟩

/-- Wherever a run of a program stands, and however it ends, the code is the one that was loaded and
the position is inside it; a phase that carries instructions out has one at hand. The same holds of
single phases, whatever program they are given. -/
theorem position_inside_code :
    (∀ (listing : Listing) (machine after : Machine) (budget : Nat) (ending : Ending),
      machine.program = .ofListing listing → machine.run budget = (ending, after) →
        after.program.Inside ∧ after.program.code = listing.statements ∧
        (∃ instruction, after.program.current = .ok instruction) ∧
        (∀ mishap, ending ≠ .stopped (.mishap mishap)) ∧
        ∀ phase, ending = .paused phase → phase ≠ .execute → phase ≠ .finish →
          after.program.ip < listing.statements.length) ∧
    ∀ (machine after : Machine) (phase : Phase) (outcome : Outcome),
      machine.program.Inside → machine.dispatch phase = (outcome, after) →
        after.program.Inside ∧ after.program.code = machine.program.code := by
  refine ⟨?run, ?dispatch⟩
  case run =>
    intro listing machine after budget ending begins ended
    have inside : machine.program.Inside := begins ▸ Program.inside_ofListing listing
    obtain ⟨within, same⟩ :=
      (inside_kept machine.program.code).runFrom ⟨inside, rfl⟩ .execute budget
    have orderly := runFrom_ne_mishap inside .execute budget
    rw [← run, ended] at within same orderly
    have code : after.program.code = listing.statements := same.trans (begins ▸ rfl)
    refine ⟨within, code, within.current, orderly, ?_⟩
    rintro phase rfl start finish
    obtain ⟨phases, leads, -⟩ := leads_of_paused ended
    obtain ⟨text, found⟩ := (leads.routed .start).current start finish
    rw [← code]
    exact Program.lt_length_of_current found
  case dispatch =>
    intro machine after phase outcome inside dispatched
    have kept := (inside_kept machine.program.code).dispatch ⟨inside, rfl⟩ phase
    rwa [dispatched] at kept

/-- A jump back to the first line, at the last one. -/
def jumpingBack : Machine where
  program := .ofListing ⟨["1"], ["let $a = $0", "goto 0"]⟩
  console := { inputs := [] }

theorem jumpingBack_inside :
    jumpingBack.program = .ofListing ⟨["1"], ["let $a = $0", "goto 0"]⟩ ∧ ∃ after,
      jumpingBack.run 3 = (.paused .goto, after) ∧ after.program.Inside ∧
      after.program.code = ["let $a = $0", "goto 0"] ∧ after.program.ip < 2 ∧
      (after.dispatch .goto).2.program.Inside := by
  obtain ⟨inside, code, -, -, before⟩ :=
    position_inside_code.1 ⟨["1"], ["let $a = $0", "goto 0"]⟩ jumpingBack
      (jumpingBack.run 3).2 3 (.paused .goto) rfl rfl
  have jumped := position_inside_code.2 (jumpingBack.run 3).2
    ((jumpingBack.run 3).2.dispatch .goto).2 .goto _ inside rfl
  exact ⟨rfl, _, rfl, inside, code, before .goto rfl nofun nofun, jumped.1⟩

end Machine

end LineScript
