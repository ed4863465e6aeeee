import LineScript.Proofs.Text.Positional
import LineScript.Proofs.Text.Spans
import LineScript.Proofs.Value.Canonical
import Mathlib.Algebra.Field.Rat

/-!
Numbers in JSON: digits without needless zeros, with or without a minus sign, decimal places and an
exponent. A number goes as far as it can, so it is never in doubt which one is read; the shortest
decimal text of an integer is read as that integer.
-/

namespace LineScript.Json

open Text

/-- A text begins with decimal digits, as many as there are, and the rest follows. -/
structure Decimals (text digits rest : List Char) : Prop where
  parts : text = digits ++ rest
  run : Run Char.isDigit digits
  stops : Stops Char.isDigit rest

/-- A text begins with one of some signs, or with none of them. -/
inductive Sign (signs : List (Char × Int)) : List Char → Int → List Char → Prop where
  | absent {text : List Char} (stops : Stops (fun char => (signs.lookup char).isSome) text) :
      Sign signs text 1 text
  | present {char : Char} {sign : Int} {rest : List Char} (listed : signs.lookup char = some sign) :
      Sign signs (char :: rest) sign rest

/-- A text begins with decimal places behind a point, or with no point. -/
inductive Fraction : List Char → List Char → List Char → Prop where
  | absent {text : List Char} (stops : Stops (· == '.') text) : Fraction text [] text
  | present {text places rest : List Char} (digits : Decimals text places rest) :
      Fraction ('.' :: text) places rest

def isExponentMark (char : Char) : Bool :=
  char == 'e' || char == 'E'

/-- A text begins with an exponent of ten, or with no mark of one. -/
inductive Exponent : List Char → Int → List Char → Prop where
  | absent {text : List Char} (stops : Stops isExponentMark text) : Exponent text 0 text
  | present {mark : Char} {text start digits rest : List Char} {sign : Int} {value : Nat}
      (marked : isExponentMark mark = true) (signed : Sign [('+', 1), ('-', -1)] text sign start)
      (decimals : Decimals start digits rest) (written : Positional digitValue? 10 digits value) :
      Exponent (mark :: text) (sign * value) rest

/-- A text begins with a number, and the rest follows. -/
inductive Number : List Char → ℚ → List Char → Prop where
  | mk {text start digits behind places after rest : List Char} {sign exponent : Int} {value : Nat}
      (signed : Sign [('-', -1)] text sign start) (whole : Decimals start digits behind)
      (leading : digits.head? = some '0' → digits = ['0']) (fraction : Fraction behind places after)
      (power : Exponent after exponent rest)
        (written : Positional digitValue? 10 (digits ++ places) value) :
      Number text (sign * value * 10 ^ (exponent - places.length)) rest

/-- What may stand in a number behind its first digit. -/
def isNumeric (char : Char) : Bool :=
  char.isDigit || char == '.' || isExponentMark char

variable {text rest tail digits others : List Char} {signs : List (Char × Int)} {sign other : Int}
  {value known : ℚ}

theorem Decimals.unique (first : Decimals text digits rest) (second : Decimals text others tail) :
    digits = others ∧ rest = tail := by
  obtain ⟨rfl, run, stops⟩ := first
  obtain ⟨parts, also, ends⟩ := second
  constructor
  · rw [← takeWhile_run run.inside stops, parts, takeWhile_run also.inside ends]
  · rw [← dropWhile_run run.inside stops, parts, dropWhile_run also.inside ends]

theorem Sign.unique (first : Sign signs text sign rest) (second : Sign signs text other tail) :
    sign = other ∧ rest = tail := by
  cases first with
  | absent stops =>
    cases second with
    | absent => exact ⟨rfl, rfl⟩
    | present listed =>
      have unlisted : (signs.lookup _).isSome = false := stops _ rfl
      rw [listed] at unlisted
      cases unlisted
  | present listed =>
    cases second with
    | absent stops =>
      have unlisted : (signs.lookup _).isSome = false := stops _ rfl
      rw [listed] at unlisted
      cases unlisted
    | present also => exact ⟨Option.some.inj (listed.symm.trans also), rfl⟩

theorem Fraction.unique (first : Fraction text digits rest) (second : Fraction text others tail) :
    digits = others ∧ rest = tail := by
  cases first with
  | absent stops =>
    cases second with
    | absent => exact ⟨rfl, rfl⟩
    | present => exact absurd (stops '.' rfl) (by decide)
  | present digits =>
    cases second with
    | absent stops => exact absurd (stops '.' rfl) (by decide)
    | present also => exact digits.unique also

theorem Exponent.unique (first : Exponent text sign rest) (second : Exponent text other tail) :
    sign = other ∧ rest = tail := by
  cases first with
  | absent stops =>
    cases second with
    | absent => exact ⟨rfl, rfl⟩
    | present marked =>
      rw [stops _ rfl] at marked
      cases marked
  | present marked signed decimals written =>
    cases second with
    | absent stops =>
      rw [stops _ rfl] at marked
      cases marked
    | present _ also more equal =>
      obtain ⟨rfl, rfl⟩ := signed.unique also
      obtain ⟨rfl, rfl⟩ := decimals.unique more
      rw [written.unique equal]
      exact ⟨rfl, rfl⟩

theorem Number.unique (first : Number text value rest) (second : Number text known tail) :
    value = known ∧ rest = tail := by
  obtain ⟨signed, whole, -, fraction, power, written⟩ := first
  obtain ⟨also, digits, -, places, exponent, equal⟩ := second
  obtain ⟨rfl, rfl⟩ := signed.unique also
  obtain ⟨rfl, rfl⟩ := whole.unique digits
  obtain ⟨rfl, rfl⟩ := fraction.unique places
  obtain ⟨rfl, rfl⟩ := power.unique exponent
  rw [written.unique equal]
  exact ⟨rfl, rfl⟩

theorem Decimals.begins {char : Char} (decimals : Decimals (char :: rest) digits tail) :
    char.isDigit = true := by
  obtain ⟨parts, ⟨nonempty, inside⟩, -⟩ := decimals
  obtain ⟨first, more, rfl⟩ := List.exists_cons_of_ne_nil nonempty
  rw [(List.cons.inj parts).1]
  exact inside first List.mem_cons_self

/-- A number begins with a minus sign or a digit. -/
theorem Number.begins {char : Char} (number : Number (char :: rest) value tail) :
    char = '-' ∨ char.isDigit = true := by
  obtain ⟨signed, whole, -, -, -, -⟩ := number
  cases signed with
  | absent => exact .inr whole.begins
  | present listed =>
    by_cases minus : char = '-'
    · exact .inl minus
    · rw [List.lookup_cons, beq_eq_false_iff_ne.mpr minus] at listed
      cases listed

theorem not_number_nil : ¬ Number [] value rest := by
  rintro ⟨signed, whole, -, -, -, -⟩
  cases signed
  obtain ⟨parts, ⟨nonempty, -⟩, -⟩ := whole
  exact nonempty (List.append_eq_nil_iff.mp parts.symm).1

theorem run_toDigits (number : Nat) : Run Char.isDigit (Nat.toDigits 10 number) :=
  ⟨(plain_iff.mpr rfl).nonempty, (plain_iff.mpr rfl).ascii⟩

theorem digitValue?_digitChar : ∀ value < 10, digitValue? (Nat.digitChar value) = some value := by
  decide

/-- The shortest text of a number, behind a sign or none, is read as the number with that sign. -/
theorem number_toDigits {start : List Char} {magnitude : Nat} (stops : Stops isNumeric rest)
    (signed : Sign [('-', -1)] start sign (Nat.toDigits 10 magnitude ++ rest)) :
    Number start ((sign * magnitude : Int) : ℚ) rest := by
  have apart (char : Char) (head : rest.head? = some char) :
      char.isDigit = false ∧ (char == '.') = false ∧ isExponentMark char = false := by
    have numeric := stops char head
    rwa [isNumeric, Bool.or_eq_false_iff, Bool.or_eq_false_iff, and_assoc] at numeric
  have leading := (plain_iff.mpr (rfl : Nat.toDigits 10 magnitude = _)).leading
  have whole : Decimals (Nat.toDigits 10 magnitude ++ rest) (Nat.toDigits 10 magnitude) rest :=
    ⟨rfl, run_toDigits magnitude, fun char head => (apart char head).1⟩
  have fraction : Fraction rest [] rest := .absent fun char head => (apart char head).2.1
  have power : Exponent rest 0 rest := .absent fun char head => (apart char head).2.2
  have written : Positional digitValue? 10 (Nat.toDigits 10 magnitude ++ []) magnitude := by
    rw [List.append_nil]
    exact positional_toDigits (by decide) digitValue?_digitChar magnitude
  have number := Number.mk signed whole leading fraction power written
  simpa using number

/-- The shortest decimal text of an integer is read as that integer. -/
theorem number_decimalChars (number : Int) (stops : Stops isNumeric rest) :
    Number (decimalChars number ++ rest) number rest := by
  by_cases below : number < 0
  · obtain ⟨magnitude, rfl⟩ : ∃ magnitude : Nat, number = -(magnitude : Int) :=
      ⟨number.natAbs, by omega⟩
    rw [decimalChars, if_pos below, Int.natAbs_neg, Int.natAbs_natCast, ← Int.neg_one_mul]
    exact number_toDigits stops (.present rfl)
  · obtain ⟨magnitude, rfl⟩ := Int.eq_ofNat_of_zero_le (Int.not_lt.mp below)
    have unsigned : Stops (fun char => ([('-', (-1 : Int))].lookup char).isSome)
        (Nat.toDigits 10 magnitude ++ rest) := by
      refine (run_toDigits magnitude).stops (fun char digit => ?_) rest
      have other : char ≠ '-' := by
        rintro rfl
        cases digit
      rw [List.lookup_cons, beq_eq_false_iff_ne.mpr other]
      rfl
    have read := number_toDigits stops (.absent unsigned)
    rwa [Int.one_mul, ← decimalChars_natCast] at read

end LineScript.Json
