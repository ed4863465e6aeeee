import LineScript.Text.Digit
import Mathlib.Algebra.Group.Nat.Defs

/-!
Numerals: the decimal text of a number is made of digits and writes that number again.
-/

namespace LineScript.Text

private theorem digitValue?_of_char_isDigit {char : Char} (digit : char.isDigit = true) :
    digitValue? char = some (char.toNat - 48) := by
  have bounds : 48 ≤ char.toNat ∧ char.toNat < 48 + 10 := bounds_of_char_isDigit digit
  simp [digitValue?, digitZeros, bounds]

/-- The number that digits write after a number that is written already. -/
private def numeralFrom (value : Nat) (digits : List Char) : Nat :=
  digits.foldl (fun value char => 10 * value + (digitValue? char).getD 0) value

private theorem numeralFrom_eq_ofDigitChars (value : Nat) (digits : List Char)
    (ascii : ∀ char ∈ digits, char.isDigit = true) :
    numeralFrom value digits = Nat.ofDigitChars 10 digits value := by
  induction digits generalizing value with
  | nil => rfl
  | cons char digits ih =>
    have rest := ih (10 * value + (char.toNat - 48))
      fun other member => ascii other (List.mem_cons_of_mem char member)
    rw [Nat.ofDigitChars_cons]
    rw [numeralFrom, List.foldl_cons, digitValue?_of_char_isDigit (ascii char List.mem_cons_self)]
    exact rest

private theorem numeralFrom_lt (value : Nat) (digits : List Char) :
    numeralFrom value digits < (value + 1) * 10 ^ digits.length := by
  induction digits generalizing value with
  | nil => simp [numeralFrom]
  | cons char digits ih =>
    have small : (digitValue? char).getD 0 < 10 := by
      cases found : digitValue? char with
      | none => simp
      | some digit => simpa using digitValue?_lt found
    have scale : 10 * value + (digitValue? char).getD 0 + 1 ≤ (value + 1) * 10 := by omega
    calc numeralFrom value (char :: digits)
        = numeralFrom (10 * value + (digitValue? char).getD 0) digits := rfl
      _ < (10 * value + (digitValue? char).getD 0 + 1) * 10 ^ digits.length := ih _
      _ ≤ (value + 1) * 10 * 10 ^ digits.length := Nat.mul_le_mul_right _ scale
      _ = (value + 1) * 10 ^ (char :: digits).length := by
        rw [List.length_cons, Nat.pow_succ', Nat.mul_assoc]

/-- A run of digits writes less than the power of ten of its length. -/
theorem numeral_lt (digits : List Char) : numeral digits < 10 ^ digits.length := by
  have bound := numeralFrom_lt 0 digits
  rwa [Nat.zero_add, Nat.one_mul] at bound

theorem decimalChars_natCast (value : Nat) : decimalChars value = Nat.toDigits 10 value := by
  simp [decimalChars]

theorem decimalChars_ne_nil (value : Nat) : decimalChars value ≠ [] := by
  rw [decimalChars_natCast]
  exact Nat.toDigits_ne_nil

theorem isDigit_of_mem_decimalChars {value : Nat} {char : Char}
    (member : char ∈ decimalChars value) :
    isDigit char = true := by
  rw [decimalChars_natCast] at member
  exact isDigit_of_char_isDigit (Nat.isDigit_of_mem_toDigits (by decide) (by decide) member)

/-- The decimal text of an integer is made of a sign and digits. -/
theorem eq_or_isDigit_of_mem_decimalChars {value : Int} {char : Char}
    (member : char ∈ decimalChars value) : char = '-' ∨ isDigit char = true := by
  rw [decimalChars] at member
  rcases List.mem_append.mp member with sign | digit
  · split at sign
    · exact .inl (List.mem_singleton.mp sign)
    · cases sign
  · exact .inr (isDigit_of_char_isDigit (Nat.isDigit_of_mem_toDigits (by decide) (by decide) digit))

/-- The decimal text of a number writes that number. -/
theorem numeral_decimalChars (value : Nat) : numeral (decimalChars value) = value := by
  have ascii : ∀ char ∈ Nat.toDigits 10 value, char.isDigit = true :=
    fun char member => Nat.isDigit_of_mem_toDigits (by decide) (by decide) member
  rw [decimalChars_natCast]
  exact (numeralFrom_eq_ofDigitChars 0 _ ascii).trans Nat.ofDigitChars_ten_toDigits

theorem length_decimalChars_le_iff {value width : Nat} (positive : 0 < width) :
    (decimalChars value).length ≤ width ↔ value < 10 ^ width := by
  rw [decimalChars_natCast]
  exact Nat.length_toDigits_le_iff (by decide) positive

theorem decimal_injective {value other : Nat} (same : decimal value = decimal other) :
    value = other := by
  have chars : decimalChars value = decimalChars other := String.ofList_injective same
  rw [← numeral_decimalChars value, chars, numeral_decimalChars]

end LineScript.Text
