import LineScript.Proofs.Listing.RoundTrip
import LineScript.Proofs.Machine.Steps
import LineScript.Proofs.Statement.Reading

/-!
What the registers of a listing stand for when its program starts, and that an assignment of the
same text binds the same value.
-/

namespace LineScript

theorem Value.unquote_quoted (inner : String) : unquote ("\"" ++ inner ++ "\"") = inner := by
  simp [unquote, unquoteChars]

theorem Value.unquote_word {value : String}
    (inside : ∀ char ∈ value.toList, Text.isWord char = true) : unquote value = value := by
  have plain : ∀ rest, value.toList ≠ '"' :: rest := by
    intro rest same
    exact absurd (inside '"' (same ▸ List.mem_cons_self)) (by decide)
  rw [unquote, unquoteChars]
  · exact String.ofList_toList
  · exact plain

namespace Program

theorem names_initialVars (start : Nat) (values : List String) :
    (initialVars start values).map Prod.fst =
      (List.range' start values.length).map fun place => Text.decimal place := by
  induction values generalizing start with
  | nil => rfl
  | cons value values ih => simp [initialVars, ih, List.range'_succ]

/-- Names of places are apart, so each place keeps its own value. -/
theorem lookup_initialVars (start offset : Nat) (values : List String) :
    (initialVars start values).lookup (Text.decimal (start + offset : Nat)) =
      values[offset]?.map Value.unquote := by
  induction values generalizing start offset with
  | nil => rfl
  | cons value values ih =>
    cases offset with
    | zero => simp [initialVars]
    | succ offset =>
      have other : Text.decimal (start + (offset + 1) : Nat) ≠ Text.decimal start :=
        fun same => absurd (Text.decimal_injective same) (by omega)
      have rest := ih (start + 1) offset
      rw [Nat.add_assoc, Nat.add_comm 1] at rest
      rw [initialVars, List.lookup_cons, beq_eq_false_iff_ne.mpr other, List.getElem?_cons_succ]
      exact rest

/-- A position with an instruction is followed by one with an instruction or by the end. -/
theorem current_advance {program : Program} {text : String}
    (found : program.current = .ok (some text)) :
    ∃ instruction, program.advance.current = .ok instruction := by
  refine current_of_inside ?_
  rw [current] at found
  simp only [advance]
  split at found
  · simp at found
  · split at found
    · omega
    · split at found
      · omega
      · split at found <;> simp at found

end Program

namespace Machine

variable {machine : Machine} {text target : String} {literal : Literal}

/-- An assignment of a literal takes two steps, which change nothing but the target and the
position. -/
theorem run_literal (found : machine.program.current = .ok (some text))
    (begins : Phase.execute ∈ machine.handled) (assigns : Phase.assign ∈ machine.handled)
    (read : Statement.parse? (Text.trim text).toList = some (.assign target (.literal literal))) :
    ∃ after, machine.run 2 = (.paused .execute, after) ∧
      after.program = (machine.program.set target literal.value).advance ∧
      after.console = machine.console := by
  have first : machine.step .execute =
      (.ok (some .assign), machine.record .execute (some text)) :=
    step_proceed found begins (Phase.plan_execute_of_named? found (Phase.named?_of_parse? read))
  have second : (machine.record .execute (some text)).step .assign = (.ok (some .execute),
      ((machine.record .execute (some text)).record .assign (some text)).withProgram
        (machine.program.set target literal.value).advance) :=
    step_proceed found assigns (Phase.plan_carrier found read)
  have leads := Leads.step first (.step second (.here .execute _))
  have unchanged : (machine.program.set target literal.value).current = .ok (some text) := found
  obtain ⟨instruction, onward⟩ := Program.current_advance unchanged
  exact ⟨_, (leads.runFrom 0).trans (runFrom_zero_of_current onward), rfl, rfl⟩

end Machine

namespace Listing

open Segment

variable {listing : Listing} {value inner : String} {place : Nat}

/-- What the program of a listing is before its first step. A register holds itself, or what is
between its quotes. -/
structure Starts (listing : Listing) (program : Program) : Prop where
  code : program.code = listing.statements
  ip : program.ip = 0
  stack : program.stack = []
  names : program.vars.names =
    (List.range listing.registers.length).map fun place => Text.decimal place
  words : ∀ (place : Nat) value, listing.registers[place]? = some value →
    (∀ char ∈ value.toList, Text.isWord char = true) →
      program.vars.get? (Text.decimal place) = some value
  quoted : ∀ (place : Nat) inner, listing.registers[place]? = some ("\"" ++ inner ++ "\"") →
    program.vars.get? (Text.decimal place) = some inner

theorem get?_ofListing (listing : Listing) (place : Nat) :
    (Program.ofListing listing).vars.get? (Text.decimal place) =
      listing.registers[place]?.map Value.unquote := by
  have found := Program.lookup_initialVars 0 place listing.registers
  rwa [Nat.zero_add] at found

theorem starts_ofListing (listing : Listing) : listing.Starts (.ofListing listing) where
  code := rfl
  ip := rfl
  stack := rfl
  names := by
    rw [List.range_eq_range']
    exact Program.names_initialVars 0 listing.registers
  words place value here inside := by
    rw [get?_ofListing, here, Option.map_some, Value.unquote_word inside]
  quoted place inner here := by
    rw [get?_ofListing, here, Option.map_some, Value.unquote_quoted]

/-- A register that can stand on the right of an assignment: digits, or a quoted text. -/
def IsLiteral (value : String) : Prop :=
  (value ≠ "" ∧ ∀ char ∈ value.toList, Text.isDigit char = true) ∨
    ∃ inner, value = "\"" ++ inner ++ "\""

private theorem quote_not_mem {inner : List Char}
    (allowed : Pattern.Allows .value ('"' :: (inner ++ ['"']))) : '"' ∉ inner := by
  generalize same : '"' :: (inner ++ ['"']) = text at allowed
  cases allowed with
  | word nonempty inside => exact absurd (inside '"' (same ▸ List.mem_cons_self)) (by decide)
  | @quoted other inside =>
    obtain rfl : inner = other := by simpa using same
    exact fun member => absurd (inside '"' member) (by decide)

/-- A literal register reads as a literal of the value that it stands for. -/
theorem IsLiteral.read (literal : IsLiteral value) (allowed : Pattern.Allows .value value.toList) :
    ∃ found, Origin.parse? value.toList = some (.literal found) ∧
      found.value = Value.unquote value := by
  rcases literal with ⟨nonempty, digits⟩ | ⟨inner, rfl⟩
  · have some_char : value.toList ≠ [] := mt String.toList_eq_nil_iff.mp nonempty
    obtain ⟨first, rest, spelled⟩ := List.exists_cons_of_ne_nil some_char
    refine ⟨.digits (String.ofList value.toList), ?_, ?_⟩
    · refine Statement.origin_of_literal (by rw [spelled, List.head?_cons]) (.inl ?_)
        (Statement.literal_of_digits some_char digits)
      exact digits first (spelled ▸ List.mem_cons_self)
    · rw [Literal.value, String.ofList_toList,
        Value.unquote_word fun char member => Text.isWord_of_isDigit (digits char member)]
  · have spelled : ("\"" ++ inner ++ "\"").toList = '"' :: (inner.toList ++ ['"']) := by simp
    rw [spelled] at allowed ⊢
    refine ⟨.quoted (String.ofList inner.toList), ?_, ?_⟩
    · exact Statement.origin_of_literal rfl (.inr rfl)
        (Statement.literal_of_quoted (quote_not_mem allowed))
    · rw [Literal.value, String.ofList_toList, Value.unquote_quoted]

/-- No white space begins or ends a register. -/
theorem solid_of_allows {text : List Char} {char : Char} (allowed : Pattern.Allows .value text)
    (outer : text.head? = some char ∨ text.getLast? = some char) : Text.isBlank char = false := by
  cases allowed with
  | word nonempty inside =>
    have member : char ∈ text := outer.elim List.mem_of_head? List.mem_of_getLast?
    exact Text.isBlank_of_isWord (inside char member)
  | quoted inside =>
    obtain rfl : '"' = char := by simpa [List.getLast?_cons] using outer
    decide

/-- Executing an assignment of a literal register binds what the register stands for. -/
theorem IsLiteral.binds {machine : Machine} {name : String} (literal : IsLiteral value)
    (allowed : Pattern.Allows .value value.toList) (named : name ≠ "")
    (letters : ∀ char ∈ name.toList, Text.isWord char = true)
    (begins : Phase.execute ∈ machine.handled) (assigns : Phase.assign ∈ machine.handled)
    (found : machine.program.current = .ok (some ("let $" ++ name ++ " = " ++ value))) :
    ∃ after, machine.run 2 = (.paused .execute, after) ∧
      after.program = (machine.program.set name (Value.unquote value)).advance ∧
      after.console = machine.console := by
  obtain ⟨read, origin, same⟩ := literal.read allowed
  have spelled : ("let $" ++ name ++ " = " ++ value).toList =
      Statement.assignmentText name.toList value.toList := by
    simp [Statement.assignmentText]
  have trimmed : (Text.trim ("let $" ++ name ++ " = " ++ value)).toList =
      Statement.assignmentText name.toList value.toList := by
    rw [Text.trim, String.toList_ofList, spelled]
    refine Text.trimChars_of_solid (fun char first => ?_) fun char final => ?_
    · obtain rfl := Option.some.inj first
      decide
    · obtain ⟨last, closing, -⟩ := allowed.ends
      obtain rfl : last = char := by
        simpa [Statement.assignmentText, List.getLast?_append, List.getLast?_cons,
          closing] using final
      exact solid_of_allows allowed (.inr closing)
  have statement := Statement.parse?_assignmentText (mt String.toList_eq_nil_iff.mp named) letters
    (fun char first => solid_of_allows allowed (.inl first)) origin
  rw [← trimmed, String.ofList_toList] at statement
  rw [← same]
  exact Machine.run_literal found begins assigns statement

/-- A listing that can be written is read back from its text; so is any listing that was read,
unless a payload holds a mark. Its program starts with the registers as variables, and an assignment
of a literal register binds what its variable holds. -/
theorem framing_undone :
    (∀ listing : Listing, listing.Writable → ofSource listing.toSource = .ok listing) ∧
    (∀ (source : String) (listing : Listing), ofSource source = .ok listing →
      (∀ payload ∈ listing.registers ++ listing.statements, ¬ HoldsMark payload.toList) →
      ofSource listing.toSource = .ok listing) ∧
    ∀ listing : Listing, listing.Writable → ∃ program,
      (ofSource listing.toSource).map Program.ofListing = .ok program ∧ listing.Starts program ∧
      ∀ (place : Nat) (value held : String), listing.registers[place]? = some value →
        IsLiteral value → program.vars.get? (Text.decimal place) = some held →
        ∀ (machine : Machine) (name : String), name ≠ "" →
          (∀ char ∈ name.toList, Text.isWord char = true) →
          .execute ∈ machine.handled → .assign ∈ machine.handled →
          machine.program.current = .ok (some ("let $" ++ name ++ " = " ++ value)) →
          ∃ after, machine.run 2 = (.paused .execute, after) ∧
            after.program = (machine.program.set name held).advance ∧
            after.console = machine.console := by
  refine ⟨?written, ?read, ?started⟩
  case written =>
    intro listing writable
    exact writable.ofSource_toSource
  case read =>
    intro source listing loaded unmarked
    exact (writable_of_ofSource loaded unmarked).ofSource_toSource
  case started =>
    intro listing writable
    refine ⟨.ofListing listing, ?_, starts_ofListing listing, ?_⟩
    · rw [writable.ofSource_toSource]
      rfl
    · intro place value held here literal holds machine name named letters begins assigns found
      rw [get?_ofListing, here, Option.map_some] at holds
      obtain rfl := Option.some.inj holds
      have allowed := writable.registers value (List.mem_of_getElem? here)
      exact literal.binds allowed named letters begins assigns found

/-- Two registers, and a statement that assigns the text of the second. -/
def twoRegisters : Listing where
  registers := ["5", "\"a b\""]
  statements := ["let $x = \"a b\""]

theorem twoRegisters_writable : twoRegisters.Writable where
  registers := by
    have first : Pattern.Allows .value "5".toList :=
      .word (by decide) (List.all_eq_true.mp (by decide))
    have second : Pattern.Allows .value "\"a b\"".toList :=
      @Pattern.Allows.quoted "a b".toList (List.all_eq_true.mp (by decide))
    simpa [twoRegisters] using And.intro first second
  statements := by
    have only : Pattern.Allows .statement ('l' :: "et $x = \"a b\"".toList) := by
      refine .statement (by decide) (fun char last => ?_) (by decide)
      obtain rfl : '"' = char := by simpa using last
      decide
    simpa [twoRegisters] using only
  registers_length := (show 2 ≤ 10 ^ 1 by decide).trans
    (Nat.pow_le_pow_right (by decide) (by decide))
  statements_length :=
    (show 1 ≤ 10 ^ 1 by decide).trans (Nat.pow_le_pow_right (by decide) (by decide))
  unmarked := by
    simp only [HoldsMark]
    decide +kernel

theorem twoRegisters_undone :
    ofSource twoRegisters.toSource = .ok twoRegisters ∧ ∃ program,
      (ofSource twoRegisters.toSource).map Program.ofListing = .ok program ∧
      twoRegisters.Starts program ∧ ∃ after,
        Machine.run { program := .ofListing twoRegisters, console := { inputs := [] } } 2 =
          (.paused .execute, after) ∧
        after.program = ((Program.ofListing twoRegisters).set "x" "a b").advance := by
  obtain ⟨written, read, started⟩ := framing_undone
  have same := written twoRegisters twoRegisters_writable
  obtain ⟨program, loaded, starts, binds⟩ := started twoRegisters twoRegisters_writable
  refine ⟨read _ _ same twoRegisters_writable.unmarked, program, loaded, starts, ?_⟩
  have holds : program.vars.get? (Text.decimal (1 : Nat)) = some "a b" := starts.quoted 1 "a b" rfl
  obtain ⟨after, ended, bound, -⟩ := binds 1 _ _ rfl (.inr ⟨"a b", rfl⟩) holds
    { program := .ofListing twoRegisters, console := { inputs := [] } } "x" (by decide)
    (List.all_eq_true.mp (by decide)) (by decide) (by decide) rfl
  exact ⟨after, ended, bound⟩

end Listing

end LineScript
