import LineScript.Proofs.Text.Positional
import LineScript.Proofs.Value.Operands

/-!
Written integers. An integer is written in digits of any scripts with at most one sign before them,
and that is just what is read as one. White space around it does not matter to what a value reads
as, unless an information separator is part of it.
-/

namespace LineScript.Value

open Text

/-- At least one digit, of any scripts, mixed as one likes. -/
structure Digits (number : Nat) (text : List Char) : Prop where
  nonempty : text ≠ []
  values : Positional digitValue? 10 text number

/-- A text writes an integer: digits, with or without one sign before them. -/
inductive Written : Int → List Char → Prop where
  | unsigned {number : Nat} {text : List Char} (digits : Digits number text) : Written number text
  | positive {number : Nat} {text : List Char} (digits : Digits number text) :
    Written number ('+' :: text)
  | negative {number : Nat} {text : List Char} (digits : Digits number text) :
      Written (-number) ('-' :: text)

def isSign (char : Char) : Bool :=
  char == '+' || char == '-'

variable {number : Int} {text rest : List Char} {char : Char}

theorem natural?_eq_some_iff {number : Nat} : natural? text = some number ↔ Digits number text := by
  rw [natural?, Option.ite_none_right_eq_some, Bool.and_eq_true, Option.some.injEq,
    List.all_eq_true]
  constructor
  · rintro ⟨⟨nonempty, digits⟩, written⟩
    refine ⟨?_, positional_digits_iff.mpr ⟨digits, written⟩⟩
    rintro rfl
    cases nonempty
  · rintro ⟨nonempty, values⟩
    obtain ⟨digits, written⟩ := positional_digits_iff.mp values
    refine ⟨⟨?_, digits⟩, written⟩
    rwa [Bool.not_eq_true', List.isEmpty_eq_false_iff]

theorem Digits.isDigit {number : Nat} (digits : Digits number text) :
    ∀ char ∈ text, isDigit char = true :=
  digits.values.isSome

/-- Digits do not begin with a sign. -/
theorem Digits.not_sign {number : Nat} (digits : Digits number (char :: rest)) :
    isSign char = false := by
  have digit := digits.isDigit char List.mem_cons_self
  refine Bool.eq_false_iff.mpr fun sign => ?_
  rw [isSign, Bool.or_eq_true, beq_iff_eq, beq_iff_eq] at sign
  rcases sign with rfl | rfl <;> revert digit <;> decide

/-- A text is read as an integer if and only if it writes that integer. -/
theorem integer?_eq_some_iff : integer? text = some number ↔ Written number text := by
  constructor
  · intro read
    fun_cases integer? text with
    | case1 rest =>
      obtain ⟨value, found, rfl⟩ := exists_natural?_of_map read
      exact .negative (natural?_eq_some_iff.mp found)
    | case2 rest =>
      obtain ⟨value, found, rfl⟩ := exists_natural?_of_map read
      exact .positive (natural?_eq_some_iff.mp found)
    | case3 =>
      rename_i negative positive
      rw [integer?.eq_3 _ negative positive] at read
      obtain ⟨value, found, rfl⟩ := exists_natural?_of_map read
      exact .unsigned (natural?_eq_some_iff.mp found)
  · intro written
    cases written with
    | unsigned digits =>
      have plain (sign : Char) (signed : isSign sign = true) (rest : List Char) :
          text ≠ sign :: rest := by
        rintro rfl
        rw [digits.not_sign] at signed
        cases signed
      rw [integer?.eq_3 _ (plain '-' rfl) (plain '+' rfl), natural?_eq_some_iff.mpr digits]
      rfl
    | positive digits =>
      rw [integer?, natural?_eq_some_iff.mpr digits]
      rfl
    | negative digits =>
      rw [integer?, natural?_eq_some_iff.mpr digits]
      rfl

theorem Written.parts (written : Written number text) :
    ∃ value digits, Digits value digits ∧
      (text = digits ∨ ∃ sign, isSign sign = true ∧ text = sign :: digits) := by
  cases written with
  | unsigned digits => exact ⟨_, _, digits, .inl rfl⟩
  | positive digits => exact ⟨_, _, digits, .inr ⟨'+', rfl, rfl⟩⟩
  | negative digits => exact ⟨_, _, digits, .inr ⟨'-', rfl, rfl⟩⟩

/-- What keeps a text from being an integer. -/
inductive Misshapen : List Char → Prop where
  | empty : Misshapen []
  | loneSign {sign : Char} (signed : isSign sign = true) : Misshapen [sign]
  | doubledSign {first second : Char} {rest : List Char} (signed : isSign first = true)
      (again : isSign second = true) : Misshapen (first :: second :: rest)
  | underscore {text : List Char} (inside : '_' ∈ text) : Misshapen text
  | blank {char : Char} {text : List Char} (blank : isBlank char = true) (inside : char ∈ text) :
      Misshapen text

theorem Written.not_misshapen (written : Written number text) : ¬ Misshapen text := by
  intro misshapen
  obtain ⟨value, digits, numeric, parts⟩ := written.parts
  have unsigned {sign : Char} {rest : List Char} (signed : isSign sign = true) :
      digits ≠ sign :: rest := by
    rintro rfl
    rw [numeric.not_sign] at signed
    cases signed
  cases misshapen with
  | empty =>
    rcases parts with rfl | ⟨sign, -, same⟩
    · exact numeric.nonempty rfl
    · cases same
  | loneSign signed =>
    rcases parts with rfl | ⟨sign, -, same⟩
    · exact unsigned signed rfl
    · exact numeric.nonempty (List.cons.inj same).2.symm
  | doubledSign signed again =>
    rcases parts with rfl | ⟨sign, -, same⟩
    · exact unsigned signed rfl
    · exact unsigned again (List.cons.inj same).2.symm
  | underscore inside =>
    have digit : '_' ∉ digits := fun member => absurd (numeric.isDigit '_' member) (by decide)
    rcases parts with rfl | ⟨sign, signed, rfl⟩
    · exact digit inside
    · rcases List.mem_cons.mp inside with rfl | member
      · cases signed
      · exact digit member
  | blank blank inside =>
    rw [isBlank_of_mem_integer (integer?_eq_some_iff.mpr written) inside] at blank
    cases blank

/-- A value writes an integer between two stretches of white space. -/
structure Padded (value : String) (before after : List Char) (number : Int) : Prop where
  blanks : Blanks (before ++ after)
  core : ∃ core, Written number core ∧ value.toList = before ++ core ++ after

variable {value : String} {before after : List Char}

theorem padded_iff :
    Padded value before after number ↔ ∃ core, Surrounds value before core after number := by
  constructor
  · rintro ⟨blanks, core, written, parts⟩
    exact ⟨core, parts, blanks, integer?_eq_some_iff.mpr written⟩
  · rintro ⟨core, parts, blanks, numeric⟩
    exact ⟨blanks, core, integer?_eq_some_iff.mp numeric, parts⟩

theorem read_number_iff_padded :
    read value = .number number ↔
      ∃ before after, Padded value before after number ∧
        ∀ char ∈ before ++ after, isSeparator char = false := by
  constructor
  · intro reads
    cases trimmed : integer? (trimChars value.toList) with
    | none =>
      rw [read_eq_notNumeric_iff.mpr trimmed] at reads
      cases reads
    | some found =>
      obtain ⟨before, after, surrounds⟩ := exists_surrounds trimmed
      rcases read_of_surrounds surrounds with ⟨other, padded⟩ | ⟨other, -⟩
      · rw [other] at reads
        cases reads
        exact ⟨before, after, padded_iff.mpr ⟨_, surrounds⟩, padded⟩
      · rw [other] at reads
        cases reads
  · rintro ⟨before, after, padded, apart⟩
    obtain ⟨core, surrounds⟩ := padded_iff.mp padded
    rcases read_of_surrounds surrounds with ⟨reads, -⟩ | ⟨-, char, around, separator⟩
    · exact reads
    · rw [apart char around] at separator
      cases separator

theorem read_notNumeric_iff_not_written :
    read value = .notNumeric ↔ ∀ number, ¬ Written number (trimChars value.toList) := by
  rw [read_eq_notNumeric_iff, Option.eq_none_iff_forall_ne_some]
  exact forall_congr' fun number => not_congr integer?_eq_some_iff

theorem read_unreadable_iff_padded :
    read value = .unreadable ↔
      ∃ before after number, Padded value before after number ∧
        ∃ char ∈ before ++ after, isSeparator char = true := by
  rw [read_eq_unreadable_iff]
  constructor
  · rintro ⟨before, core, after, number, surrounds, separated⟩
    exact ⟨before, after, number, padded_iff.mpr ⟨core, surrounds⟩, separated⟩
  · rintro ⟨before, after, number, padded, separated⟩
    obtain ⟨core, surrounds⟩ := padded_iff.mp padded
    exact ⟨before, core, after, number, surrounds, separated⟩

end LineScript.Value
