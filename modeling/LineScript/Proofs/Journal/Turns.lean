import LineScript.Proofs.Machine.Position
import LineScript.Proofs.Statement.Reading
import Mathlib.Data.List.Chain

/-!
Turns. A run takes one turn for each instruction, a few phases long, and a last turn that ends it.
Which phase may follow which is enough to tell that the phases of a run are the beginning of such a
sequence.
-/

namespace LineScript.Phase

/-- The turns that carry an instruction out. -/
def turns : List (List Phase) := [
  [.execute, .assign], [.execute, .assign, .arithmetic], [.execute, .branch], [.execute, .goto],
  [.execute, .output]]

/-- The phases of a run from its start to its end. -/
inductive Whole : List Phase → Prop where
  | finish : Whole [.execute, .finish]
  | turn {turn rest : List Phase} (listed : turn ∈ turns) (more : Whole rest) : Whole (turn ++ rest)

theorem Whole.getLast? {phases : List Phase} (whole : Whole phases) :
    phases.getLast? = some .finish := by
  induction whole with
  | finish => rfl
  | turn listed more ih => rw [List.getLast?_append, ih, Option.some_or]

/-- No turn but the last has the phase that ends a run. -/
theorem finish_not_mem_of_mem_turns {turn : List Phase} (listed : turn ∈ turns) :
    Phase.finish ∉ turn := by
  have plain : ∀ turn ∈ turns, Phase.finish ∉ turn := by decide
  exact plain turn listed

theorem Whole.finish_last {phases : List Phase} (whole : Whole phases) {place : Nat}
    (found : phases[place]? = some .finish) : place + 1 = phases.length := by
  induction whole generalizing place with
  | finish =>
    match place, found with
    | 1, _ => rfl
  | @turn turn rest listed more ih =>
    by_cases inside : place < turn.length
    · rw [List.getElem?_append_left inside] at found
      exact absurd (List.mem_of_getElem? found) (finish_not_mem_of_mem_turns listed)
    · rw [List.getElem?_append_right (Nat.le_of_not_lt inside)] at found
      have last := ih found
      rw [List.length_append]
      omega

/-- The phases that come before a phase in its turn. -/
def lead : Phase → List Phase
  | .execute => []
  | .arithmetic => [.execute, .assign]
  | _ => [.execute]

/-- A phase after another one: in the same turn, or the first of the next. -/
inductive Follows (phase : Phase) : Phase → Prop where
  | within {next : Phase} (goesOn : next.lead = phase.lead ++ [phase]) : Follows phase next
  | across (closed : phase.lead ++ [phase] ∈ turns) : Follows phase .execute

/-- Nothing follows the end of a run. -/
theorem not_follows_finish {next : Phase} : ¬ Follows .finish next := by
  intro follows
  cases follows with
  | within goesOn => cases next <;> cases goesOn
  | across closed => exact absurd closed (by decide)

/-- The phases that would end a run after a phase. -/
def completion : Phase → List Phase
  | .execute => [.finish]
  | .finish => []
  | _ => [.execute, .finish]

theorem whole_of_isChain {first last : Phase} {phases : List Phase}
    (chain : (first :: phases).IsChain Follows) (ends : (first :: phases).getLast? = some last) :
    Whole (first.lead ++ (first :: phases) ++ last.completion) := by
  induction phases generalizing first with
  | nil =>
    obtain rfl := Option.some.inj ends
    cases first with
    | execute => exact .finish
    | finish => exact .finish
    | _ => exact .turn (by decide) .finish
  | cons second phases ih =>
    obtain ⟨follows, rest⟩ := List.isChain_cons_cons.mp chain
    have whole := ih rest ends
    cases follows with
    | within goesOn =>
      rw [goesOn, List.append_assoc first.lead] at whole
      exact whole
    | across closed =>
      have parts : first.lead ++ (first :: .execute :: phases) ++ last.completion =
          first.lead ++ [first] ++ (.execute :: phases ++ last.completion) := by simp
      rw [parts]
      exact .turn closed whole

/-- Phases that follow one another from the first are the beginning of a whole run. -/
theorem whole_of_isChain_concat {phases : List Phase} {last : Phase}
    (chain : (phases ++ [last]).IsChain Follows)
    (begins : (phases ++ [last]).head? = some .execute) :
    Whole (phases ++ [last] ++ last.completion) := by
  obtain ⟨rest, same⟩ := List.head?_eq_some_iff.mp begins
  have ends : (Phase.execute :: rest).getLast? = some last := by rw [← same, List.getLast?_concat]
  rw [same] at chain ⊢
  exact whole_of_isChain chain ends

/-- A keyword opens a turn. -/
theorem lead_of_named? {text : String} {next : Phase} (named : named? text = some next) :
    next.lead = [.execute] := by
  have listed : ∀ pair ∈ keywords, pair.2.lead = [.execute] := by decide
  exact listed _ (mem_keywords_of_named? named)

/-- A phase that carries instructions out may be the last of its turn. -/
theorem mem_turns_of_inside {phase : Phase} (inside : phase ≠ .execute ∧ phase ≠ .finish) :
    phase.lead ++ [phase] ∈ turns := by
  cases phase with
  | execute => exact absurd rfl inside.1
  | finish => exact absurd rfl inside.2
  | _ => decide

theorem lead_carrier {statement : Statement} (apart : statement.carrier ≠ statement.opening) :
    statement.carrier.lead = statement.opening.lead ++ [statement.opening] := by
  cases statement with
  | assign target origin =>
    cases origin with
    | arithmetic left operator right => rfl
    | _ => exact absurd rfl apart
  | _ => exact absurd rfl apart

/-- A phase goes on with its turn, closes it with the statement at hand, or ends the run. -/
theorem Acts.turn {program : Program} {phase : Phase} {action : Action}
    (acts : phase.Acts program action) :
    (∃ next, action = .proceed program (some next) ∧ next.lead = phase.lead ++ [phase]) ∨
    (∃ text statement, program.current = .ok (some text) ∧
      Statement.parse? (Text.trim text).toList = some statement ∧ phase = statement.carrier ∧
      statement.Acts program action) ∨
    phase = .finish ∧ action = .proceed program none := by
  cases acts with
  | ended => exact .inl ⟨.finish, rfl, rfl⟩
  | named found word => exact .inl ⟨_, rfl, lead_of_named? word⟩
  | handOn found read apart => exact .inl ⟨_, rfl, lead_carrier apart⟩
  | carry found read acts => exact .inr (.inl ⟨_, _, found, read, rfl, acts⟩)
  | finish => exact .inr (.inr ⟨rfl, rfl⟩)

end LineScript.Phase
