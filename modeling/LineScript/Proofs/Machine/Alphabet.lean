import LineScript.Proofs.Listing.Characters
import LineScript.Proofs.Machine.Atomicity
import LineScript.Proofs.Machine.Invariants
import LineScript.Proofs.Statement.Reading

/-!
The alphabet of a run. No value gets a character that does not stand in the program, in its input or
in the decimal text of a number: what holds of all of these holds of every value, wherever a run
stands.
-/

namespace LineScript

variable {alphabet : Char → Prop} {program other : Program} {outcome : Option Phase}

/-- A text has only characters of an alphabet. -/
def Over (alphabet : Char → Prop) (text : String) : Prop :=
  ∀ char ∈ text.toList, alphabet char

/-- An alphabet that numbers can be written in. -/
def WritesNumbers (alphabet : Char → Prop) : Prop :=
  ∀ value : Int, Over alphabet (Text.decimal value)

/-- The code, the values and the stack of a program are over an alphabet. -/
structure Program.Spelled (alphabet : Char → Prop) (program : Program) : Prop where
  code : ∀ text ∈ program.code, Over alphabet text
  vars : ∀ name value, program.vars.get? name = some value → Over alphabet value
  stack : ∀ value ∈ program.stack, Over alphabet value

namespace Program

variable {name value : String}

theorem Spelled.set (spelled : program.Spelled alphabet) (written : Over alphabet value) :
    (program.set name value).Spelled alphabet := by
  refine ⟨spelled.code, fun other held found => ?_, spelled.stack⟩
  rw [Program.set, Bindings.get?_insert] at found
  split at found
  · obtain rfl := Option.some.inj found
    exact written
  · exact spelled.vars other held found

theorem Spelled.push (spelled : program.Spelled alphabet) (written : Over alphabet value) :
    (program.push value).Spelled alphabet :=
  ⟨spelled.code, spelled.vars, List.forall_mem_cons.mpr ⟨written, spelled.stack⟩⟩

theorem Spelled.advance (spelled : program.Spelled alphabet) : program.advance.Spelled alphabet :=
  ⟨spelled.code, spelled.vars, spelled.stack⟩

theorem Spelled.jump (spelled : program.Spelled alphabet) (target : Int) :
    (program.jump target).Spelled alphabet :=
  ⟨spelled.code, spelled.vars, spelled.stack⟩

theorem Spelled.compute {target : String} {operator : Operator} {left right : Int}
    (spelled : program.Spelled alphabet) (numbers : WritesNumbers alphabet)
    (computed : program.compute target operator left right = .ok other) :
    other.Spelled alphabet := by
  rcases compute_cases computed with ⟨-, value, rfl⟩ | ⟨-, division, -, rfl⟩
  · exact spelled.set (numbers value)
  · exact (spelled.set (numbers division.quotient)).push (numbers division.remainder)

/-- The instruction at hand is one of the code. -/
theorem mem_code_of_current {text : String} (found : program.current = .ok (some text)) :
    text ∈ program.code := by
  rw [current] at found
  split at found
  · cases found
  · split at found
    · exact List.mem_of_getElem? (Except.ok.inj found)
    · split at found
      · exact List.mem_of_getElem? (Except.ok.inj found)
      · split at found <;> cases found

theorem spelled_ofListing {listing : Listing}
    (registers : ∀ value ∈ listing.registers, Over alphabet value)
    (statements : ∀ statement ∈ listing.statements, Over alphabet statement) :
    (ofListing listing).Spelled alphabet := by
  refine ⟨statements, fun name value held => ?_, List.forall_mem_nil _⟩
  have stored {start : Nat} {values : List String} (within : ∀ value ∈ values, Over alphabet value)
      (found : (initialVars start values).lookup name = some value) : Over alphabet value := by
    induction values generalizing start with
    | nil => cases found
    | cons first values ih =>
      rw [initialVars, List.lookup_cons] at found
      split at found
      · obtain rfl := Option.some.inj found
        exact fun char member =>
          within first List.mem_cons_self char (Value.mem_of_mem_unquote member)
      · exact ih (fun other later => within other (List.mem_cons_of_mem first later)) found
  exact stored registers held

end Program

theorem Statement.Acts.spelled {text : String} {statement : Statement}
    (acts : statement.Acts program (.proceed other outcome)) (spelled : program.Spelled alphabet)
    (numbers : WritesNumbers alphabet) (written : Over alphabet text)
    (read : Statement.parse? (Text.trim text).toList = some statement) :
    other.Spelled alphabet := by
  cases acts with
  | literal target literal =>
    rw [Text.trim, String.toList_ofList] at read
    exact (spelled.set fun char member =>
      written char (Text.mem_of_mem_trimChars
        (Statement.mem_of_mem_assigned read char member))).advance
  | @pop _ value rest top =>
    have stack := spelled.stack
    rw [top] at stack
    have popped : ({ program with stack := rest } : Program).Spelled alphabet :=
      ⟨spelled.code, spelled.vars, fun value later => stack value (List.mem_cons_of_mem _ later)⟩
    exact (popped.set (stack value List.mem_cons_self)).advance
  | copy held => exact (spelled.set (spelled.vars _ _ held)).advance
  | arithmetic _ _ result => exact (spelled.compute numbers result).advance
  | jump => exact spelled.jump _
  | taken => exact spelled.jump _
  | passed => exact spelled.advance

theorem Phase.Acts.spelled {phase : Phase} (acts : phase.Acts program (.proceed other outcome))
    (spelled : program.Spelled alphabet) (numbers : WritesNumbers alphabet) :
    other.Spelled alphabet := by
  cases acts with
  | ended => exact spelled
  | named => exact spelled
  | handOn => exact spelled
  | carry found read acts =>
    exact acts.spelled spelled numbers (spelled.code _ (Program.mem_code_of_current found)) read
  | finish => exact spelled

/-- The program and the input to come are over an alphabet. -/
structure Machine.Spelled (alphabet : Char → Prop) (machine : Machine) : Prop where
  program : machine.program.Spelled alphabet
  inputs : ∀ line ∈ machine.console.inputs, Over alphabet line

namespace Machine

variable {machine : Machine} {phase : Phase}

theorem Spelled.perform {action : Action} (spelled : machine.Spelled alphabet)
    (numbers : WritesNumbers alphabet) (acts : phase.Acts machine.program action) :
    (machine.perform action).2.Spelled alphabet := by
  cases action with
  | proceed program next => exact ⟨acts.spelled spelled.program numbers, spelled.inputs⟩
  | read target =>
    rcases machine.console.read_cases with ⟨line, rest, held, answered⟩ | ⟨disruption, answered⟩
    · have lines := spelled.inputs
      rw [held] at lines
      simp only [Machine.perform, answered]
      exact ⟨(spelled.program.set (lines line List.mem_cons_self)).advance,
        fun other later => lines other (List.mem_cons_of_mem line later)⟩
    · simp only [Machine.perform, answered]
      exact ⟨spelled.program, spelled.inputs⟩
  | write text =>
    rcases machine.console.write_cases text with answered | ⟨disruption, answered⟩
    · simp only [Machine.perform, answered]
      exact ⟨spelled.program.advance, spelled.inputs⟩
    · simp only [Machine.perform, answered]
      exact ⟨spelled.program, spelled.inputs⟩

theorem spelled_kept (numbers : WritesNumbers alphabet) : Kept (Spelled alphabet) where
  record _ _ _ spelled := ⟨spelled.program, spelled.inputs⟩
  perform _ _ _ spelled acts := spelled.perform numbers acts

/-- A machine that was loaded from a source starts in the alphabet of the source and the input. -/
theorem spelled_of_source {source : String} {listing : Listing}
    (loaded : Listing.ofSource source = .ok listing) (begins : machine.program = .ofListing listing)
    (plain : ∀ text ∈ source :: machine.console.inputs, Over alphabet text) :
    machine.Spelled alphabet := by
  have written (text : String) (present : text ∈ listing.registers ++ listing.statements) :
      Over alphabet text := fun char member =>
    plain source List.mem_cons_self char (Listing.mem_of_mem_ofSource loaded present member)
  refine ⟨?_, fun line present => plain line (List.mem_cons_of_mem source present)⟩
  rw [begins]
  exact Program.spelled_ofListing
    (fun value present => written value (List.mem_append_left _ present))
    fun statement present => written statement (List.mem_append_right _ present)

end Machine

end LineScript
