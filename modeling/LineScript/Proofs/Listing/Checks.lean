import LineScript.Listing
import LineScript.Proofs.Results
import LineScript.Proofs.Segment.Outcome

/-!
The checks that a source goes through before it is a listing: both frames, then the lines of both
segments. Each check is told by the source alone. The first one that fails gives the error, and the
error says which kind of check it comes from.
-/

namespace LineScript

open Segment

variable {ε α : Type}

/-- What a failed result failed with. -/
def failure? : Except ε α → Option ε
  | .ok _ => none
  | .error failure => some failure

theorem failure?_eq_some_iff {result : Except ε α} {failure : ε} :
    failure? result = some failure ↔ result = .error failure := by
  cases result <;> simp [failure?]

namespace Segment

/-- The pattern that the lines of a kind of segment follow. -/
def Kind.pattern : Kind → Pattern
  | .register => .value
  | .code => .statement

/-- The conditions that the lines of a segment may be refused with. -/
def lineConditions : List Condition :=
  [.malformedSegment, .malformedAssignment, .notChronological]

/-- The error of a frame has a message alone. -/
def FrameError (error : LoadError) : Prop :=
  error.number = none ∧ error.kind = none ∧ error.condition = none

/-- The error of a line has the kind of its segment, a condition of lines and the number of the two,
which is odd for registers and even for code. The message is that of the number. -/
def LineError (kind : Kind) (error : LoadError) : Prop :=
  error.kind = some kind ∧ ∃ number condition, error.number = some number ∧
    error.condition = some condition ∧ condition ∈ lineConditions ∧
    describe number = (some kind, some condition) ∧ (number % 2 = 1 ↔ kind = .register) ∧
    error.message = conditionText number

variable {kind : Kind} {pattern : Pattern} {texts : List (List Char)} {error : LoadError}

theorem conditionNumber_odd_iff {condition : Condition} (failed : condition ≠ .allOk) :
    conditionNumber kind condition % 2 = 1 ↔ kind = .register := by
  revert failed
  cases kind <;> cases condition <;> decide

theorem lineError_ofCondition {condition : Condition} (member : condition ∈ lineConditions) :
    LineError kind (.ofCondition kind condition) := by
  have failed : condition ≠ .allOk := by
    rintro rfl
    exact absurd member (by decide)
  have described := describe_conditionNumber kind condition failed
  exact ⟨rfl, conditionNumber kind condition, condition, rfl, congrArg Prod.snd described, member,
    described, conditionNumber_odd_iff failed, rfl⟩

/-- Whatever the lines of a segment are refused with, but for the length of an index, is an error of
lines. -/
theorem Pattern.Refuses.lineError (refuses : pattern.Refuses kind texts (.rejected error)) :
    LineError kind error := by
  cases refuses with
  | segment => exact lineError_ofCondition (by decide)
  | line present stops =>
    obtain ⟨place, text, here, fails, -⟩ := stops
    cases fails with
    | unwritten => exact lineError_ofCondition (by decide)
    | displaced => exact lineError_ofCondition (by decide)

end Segment

namespace Listing

variable {source : String} {failure : LoadFailure} {error : LoadError} {listing : Listing}

/-- A check of the frame or of the lines of a kind of segment. -/
inductive Check where
  | frame (kind : Kind)
  | lines (kind : Kind)
  deriving DecidableEq, Repr

namespace Check

/-- The checks in the order in which they are made. -/
def all : List Check := [.frame .register, .frame .code, .lines .register, .lines .code]

/-- Why a source does not pass a check. Lines without a frame around them are not at fault. -/
def failure? (source : String) : Check → Option LoadFailure
  | .frame kind => LineScript.failure? (extract kind source)
  | .lines kind =>
    match extract kind source with
    | .ok text => LineScript.failure? (load kind kind.pattern text)
    | .error _ => none

/-- What the error of a check says. -/
def Reports : Check → LoadError → Prop
  | .frame _, error => FrameError error
  | .lines kind, error => LineError kind error

theorem reports_of_failure? {check : Check}
    (failed : check.failure? source = some (.rejected error)) :
    check.Reports error := by
  cases check with
  | frame kind =>
    rw [failure?, extract, Frame.extract] at failed
    split at failed
    · cases failed
      exact ⟨rfl, rfl, rfl⟩
    · split at failed
      · cases failed
        exact ⟨rfl, rfl, rfl⟩
      · cases failed
  | lines kind =>
    rw [failure?] at failed
    split at failed
    · rename_i text framed
      cases loaded : load kind kind.pattern text with
      | ok payloads =>
        rw [loaded] at failed
        cases failed
      | error met =>
        rw [loaded] at failed
        cases failed
        exact (load_eq_error_iff.mp loaded).lineError
    · cases failed

end Check

/-- A source is refused with what is wrong by the first of the checks that it does not pass. -/
theorem ofSource_eq_error_iff :
    ofSource source = .error failure ↔
      Check.all.findSome? (Check.failure? source) = some failure := by
  rw [← failure?_eq_some_iff, ofSource, Check.all]
  simp only [List.findSome?_cons, List.findSome?_nil, Check.failure?, Kind.pattern]
  cases extract .register source with
  | error lost => rfl
  | ok registerText =>
    cases extract .code source with
    | error lost => rfl
    | ok codeText =>
      simp only [ok_bind, loadRegisters, loadCode, LineScript.failure?]
      cases load .register .value registerText with
      | error refused => rfl
      | ok registers =>
        cases load .code .statement codeText with
        | error refused => rfl
        | ok statements => rfl

theorem ofSource_eq_ok_iff :
    ofSource source = .ok listing ↔ ∃ registers code, extract .register source = .ok registers ∧
      extract .code source = .ok code ∧ loadRegisters registers = .ok listing.registers ∧
      loadCode code = .ok listing.statements := by
  constructor
  · intro loaded
    obtain ⟨registers, opened, loaded⟩ := bind_eq_ok loaded
    obtain ⟨code, entered, loaded⟩ := bind_eq_ok loaded
    obtain ⟨values, first, loaded⟩ := bind_eq_ok loaded
    obtain ⟨statements, second, loaded⟩ := bind_eq_ok loaded
    obtain rfl := Except.ok.inj loaded
    exact ⟨registers, code, opened, entered, first, second⟩
  · rintro ⟨registers, code, opened, entered, first, second⟩
    rw [ofSource, opened, ok_bind, entered, ok_bind, first, ok_bind, second]
    rfl

/-- The error of a source is that of the first check that the source does not pass: the frame of the
registers, the frame of the code, the lines of the registers, the lines of the code. It says which
kind of check it comes from. A source that passes all of them gives the payloads of its two
segments. -/
theorem errors_prioritised (source : String) :
    (∀ failure, ofSource source = .error failure ↔ ∃ front check rest,
      Check.all = front ++ check :: rest ∧ check.failure? source = some failure ∧
        ∀ earlier ∈ front, earlier.failure? source = none) ∧
    (∀ check error, Check.failure? source check = some (.rejected error) → check.Reports error) ∧
    ∀ listing, ofSource source = .ok listing ↔ ∃ registers code,
      extract .register source = .ok registers ∧ extract .code source = .ok code ∧
      loadRegisters registers = .ok listing.registers ∧ loadCode code = .ok listing.statements := by
  refine ⟨fun failure => ?_, fun check error => Check.reports_of_failure?,
    fun listing => ofSource_eq_ok_iff⟩
  rw [ofSource_eq_error_iff, List.findSome?_eq_some_iff]

/-- Register lines without an index, before code that does not end. -/
def twiceWrongSource : String :=
  "BEGIN_REGISTER_SEGMENT\n5\nEND_REGISTER_SEGMENT\nBEGIN_CODE_SEGMENT\n0 quit\n"

theorem twiceWrongSource_refused :
    Check.failure? twiceWrongSource (.lines .register) =
        some (.rejected ⟨"Malformed register segment", some 7, some .register⟩) ∧
      LineError .register ⟨"Malformed register segment", some 7, some .register⟩ ∧
      ofSource twiceWrongSource =
        .error (.rejected ⟨"Code segment not fully defined", none, none⟩) := by
  obtain ⟨first, reports, -⟩ := errors_prioritised twiceWrongSource
  have lines : Check.failure? twiceWrongSource (.lines .register) =
      some (.rejected ⟨"Malformed register segment", some 7, some .register⟩) := by decide +kernel
  have frame : Check.failure? twiceWrongSource (.frame .code) =
      some (.rejected ⟨"Code segment not fully defined", none, none⟩) := by decide +kernel
  have passed : ∀ earlier ∈ [Check.frame .register], earlier.failure? twiceWrongSource = none := by
    decide +kernel
  exact ⟨lines, reports (.lines .register) _ lines,
    (first _).mpr ⟨[.frame .register], .frame .code, [.lines .register, .lines .code], rfl, frame,
      passed⟩⟩

end Listing

end LineScript
