import LineScript.Proofs.Text.Numerals
import LineScript.Proofs.Value.Operands
import Mathlib.Data.Nat.Digits.Defs

/-!
Canonical decimal texts. An integer has just one text in ASCII digits without zeros before it,
without a plus sign and without a minus sign before zero; arithmetic writes that text, and as an
operand it reads as the integer again, however long it is.
-/

namespace LineScript.Text

/-- Digits in ASCII write a number, with no zero before them. -/
structure Plain (number : Nat) (digits : List Char) : Prop where
  nonempty : digits ≠ []
  ascii : ∀ char ∈ digits, char.isDigit = true
  leading : digits.head? = some '0' → digits = ['0']
  writes : Nat.ofDigitChars 10 digits 0 = number

/-- A text is the canonical decimal text of an integer. -/
inductive Canonical : Int → String → Prop where
  | natural {number : Nat} {digits : List Char} (plain : Plain number digits) :
      Canonical number (String.ofList digits)
  | negative {number : Nat} {digits : List Char} (plain : Plain number digits)
    (nonzero : 0 < number) :
      Canonical (-number) (String.ofList ('-' :: digits))

section Plain

variable {number : Nat} {digits : List Char}

/-- A digit is the character of its value. -/
theorem toDigits_digit {char : Char} (digit : char.isDigit = true) :
    Nat.toDigits 10 (char.toNat - '0'.toNat) = [char] := by
  obtain ⟨low, high⟩ := bounds_of_char_isDigit digit
  have zero : '0'.toNat = 48 := rfl
  rw [zero, Nat.toDigits_of_lt_base (by omega), List.singleton_inj]
  apply Char.toNat_inj.mp
  rw [Nat.toNat_digitChar_of_lt_ten (by omega)]
  omega

/-- Digits after those of a number other than zero write the number that all of them do. -/
theorem toDigits_append {value : Nat} (positive : 0 < value)
    (ascii : ∀ char ∈ digits, char.isDigit = true) :
    Nat.toDigits 10 value ++ digits = Nat.toDigits 10 (Nat.ofDigitChars 10 digits value) := by
  induction digits generalizing value with
  | nil => exact List.append_nil _
  | cons char rest ih =>
    obtain ⟨digit, others⟩ := List.forall_mem_cons.mp ascii
    obtain ⟨low, high⟩ := bounds_of_char_isDigit digit
    have small : char.toNat - '0'.toNat < 10 := by
      have zero : '0'.toNat = 48 := rfl
      omega
    calc Nat.toDigits 10 value ++ char :: rest
        = Nat.toDigits 10 value ++ Nat.toDigits 10 (char.toNat - '0'.toNat) ++ rest := by
          rw [toDigits_digit digit, List.append_assoc, List.singleton_append]
      _ = Nat.toDigits 10 (10 * value + (char.toNat - '0'.toNat)) ++ rest := by
          rw [Nat.toDigits_append_toDigits (by decide) positive small]
      _ = Nat.toDigits 10 (Nat.ofDigitChars 10 (char :: rest) value) := by
          rw [ih (by omega) others, Nat.ofDigitChars_cons]

/-- Only zero has a zero in front. -/
theorem head?_toDigits (positive : 0 < number) : (Nat.toDigits 10 number).head? ≠ some '0' := by
  induction number using Nat.strongRecOn with
  | ind number ih =>
    by_cases small : number < 10
    · rw [Nat.toDigits_of_lt_base small, List.head?_cons]
      intro same
      have value := Nat.toNat_digitChar_of_lt_ten small
      rw [Option.some.inj same] at value
      have zero : '0'.toNat = 48 := rfl
      omega
    · rw [Nat.toDigits_of_base_le (by decide) (Nat.le_of_not_lt small),
        List.head?_append_of_ne_nil _ Nat.toDigits_ne_nil]
      exact ih (number / 10) (by omega) (by omega)

theorem plain_iff : Plain number digits ↔ digits = Nat.toDigits 10 number := by
  constructor
  · rintro ⟨nonempty, ascii, leading, rfl⟩
    obtain ⟨first, rest, rfl⟩ := List.exists_cons_of_ne_nil nonempty
    obtain ⟨digit, others⟩ := List.forall_mem_cons.mp ascii
    by_cases zero : first = '0'
    · rw [leading (congrArg some zero)]
      rfl
    · have positive : 0 < first.toNat - '0'.toNat := by
        obtain ⟨low, -⟩ := bounds_of_char_isDigit digit
        have other : first.toNat ≠ '0'.toNat := fun same => zero (Char.toNat_inj.mp same)
        have value : '0'.toNat = 48 := rfl
        omega
      rw [Nat.ofDigitChars_cons, Nat.mul_zero, Nat.zero_add, ← toDigits_append positive others,
        toDigits_digit digit, List.singleton_append]
  · rintro rfl
    refine ⟨Nat.toDigits_ne_nil, ?_, ?_, Nat.ofDigitChars_ten_toDigits⟩
    · intro char member
      exact Nat.isDigit_of_mem_toDigits (by decide) (by decide) member
    · intro zero
      have none : number = 0 := by
        by_contra nonzero
        exact head?_toDigits (Nat.pos_of_ne_zero nonzero) zero
      rw [none]
      rfl

end Plain

section Canonical

variable {number other : Int} {text : String}

/-- Every integer has one canonical text, the shortest decimal text. -/
theorem canonical_iff : Canonical number text ↔ text = decimal number := by
  constructor
  · intro canonical
    cases canonical with
    | natural plain => rw [plain_iff.mp plain, decimal, decimalChars_natCast]
    | @negative value digits plain nonzero =>
      have below : -(value : Int) < 0 := by omega
      rw [plain_iff.mp plain, decimal, decimalChars, if_pos below, Int.natAbs_neg,
        Int.natAbs_natCast]
      rfl
  · rintro rfl
    by_cases below : number < 0
    · obtain ⟨value, rfl⟩ : ∃ value : Nat, number = -(value : Int) := ⟨number.natAbs, by omega⟩
      rw [decimal, decimalChars, if_pos below, Int.natAbs_neg, Int.natAbs_natCast]
      exact .negative (plain_iff.mpr rfl) (by omega)
    · obtain ⟨value, rfl⟩ := Int.eq_ofNat_of_zero_le (Int.not_lt.mp below)
      rw [decimal, decimalChars_natCast]
      exact .natural (plain_iff.mpr rfl)

end Canonical

end LineScript.Text

namespace LineScript.Value

open Text

variable {number other : Int} {text first second : String}

theorem natural?_toDigits (number : Nat) : natural? (Nat.toDigits 10 number) = some number := by
  have digits : (Nat.toDigits 10 number).all isDigit = true := by
    apply List.all_eq_true.mpr
    intro char member
    exact isDigit_of_char_isDigit (Nat.isDigit_of_mem_toDigits (by decide) (by decide) member)
  have written := numeral_decimalChars number
  rw [decimalChars_natCast] at written
  simp [natural?, digits, written, Nat.toDigits_ne_nil]

/-- Digits do not begin with a sign. -/
theorem ne_sign_toDigits (number : Nat) {sign : Char} (apart : sign.isDigit = false)
    (rest : List Char) :
    Nat.toDigits 10 number ≠ sign :: rest := by
  intro same
  have member : sign ∈ Nat.toDigits 10 number := same ▸ List.mem_cons_self
  have digit := Nat.isDigit_of_mem_toDigits (by decide) (by decide) member
  rw [apart] at digit
  cases digit

theorem integer?_decimalChars (number : Int) : integer? (decimalChars number) = some number := by
  by_cases below : number < 0
  · obtain ⟨value, rfl⟩ : ∃ value : Nat, number = -(value : Int) := ⟨number.natAbs, by omega⟩
    rw [decimalChars, if_pos below, Int.natAbs_neg, Int.natAbs_natCast, List.singleton_append,
      integer?, natural?_toDigits]
    rfl
  · obtain ⟨value, rfl⟩ := Int.eq_ofNat_of_zero_le (Int.not_lt.mp below)
    rw [decimalChars_natCast, integer?.eq_3 _ (ne_sign_toDigits value (by decide))
      (ne_sign_toDigits value (by decide)), natural?_toDigits]
    rfl

/-- As an operand a canonical text reads as its integer. -/
theorem read_of_canonical (canonical : Canonical number text) : read text = .number number := by
  obtain rfl := canonical_iff.mp canonical
  have surrounds : Surrounds (decimal number) [] (decimalChars number) [] number := by
    refine ⟨?_, List.forall_mem_nil _, integer?_decimalChars number⟩
    rw [decimal, String.toList_ofList, List.nil_append, List.append_nil]
  rcases read_of_surrounds surrounds with ⟨reads, -⟩ | ⟨-, char, around, -⟩
  · exact reads
  · cases around

/-- Two canonical texts are the same text if and only if they write the same integer. -/
theorem canonical_inj (canonical : Canonical number first) (also : Canonical other second) :
    first = second ↔ number = other := by
  constructor
  · rintro rfl
    have reads := read_of_canonical canonical
    rw [read_of_canonical also] at reads
    exact (Reading.number.inj reads).symm
  · rintro rfl
    rw [canonical_iff.mp canonical, canonical_iff.mp also]

end LineScript.Value
