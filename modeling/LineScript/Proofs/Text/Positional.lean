import LineScript.Text.Digit
import Mathlib.Data.List.Forall2
import Mathlib.Data.List.Induction
import Mathlib.Data.Nat.Digits.Defs

/-!
Positional numbers. Characters that have a value each write a number to a base, the first of them
worth the most; the shortest text of a number writes it, and so does that text behind zeros.
-/

namespace LineScript.Text

/-- Every character of a text has a value, and to a base these values write a number. -/
def Positional (value? : Char → Option Nat) (base : Nat) (text : List Char) (number : Nat) : Prop :=
  ∃ values, List.Forall₂ (fun char value => value? char = some value) text values ∧
    Nat.ofDigits base values.reverse = number

variable {value? : Char → Option Nat} {base number other : Nat} {text rest : List Char}
  {char : Char}

theorem positional_cons_iff :
    Positional value? base (char :: rest) number ↔
      ∃ value low, value? char = some value ∧ Positional value? base rest low ∧
        number = low + base ^ rest.length * value := by
  constructor
  · rintro ⟨values, valued, rfl⟩
    obtain ⟨value, others, here, later, rfl⟩ := List.forall₂_cons_left_iff.mp valued
    refine ⟨value, _, here, ⟨others, later, rfl⟩, ?_⟩
    rw [Nat.ofDigits_reverse_cons, later.length_eq]
  · rintro ⟨value, low, here, ⟨others, later, rfl⟩, rfl⟩
    refine ⟨value :: others, .cons here later, ?_⟩
    rw [Nat.ofDigits_reverse_cons, later.length_eq]

theorem positional_nil : Positional value? base [] 0 :=
  ⟨[], .nil, rfl⟩

theorem Positional.append_digit {value : Nat} (written : Positional value? base text number)
    (digit : value? char = some value) :
    Positional value? base (text ++ [char]) (base * number + value) := by
  obtain ⟨values, valued, rfl⟩ := written
  refine ⟨values ++ [value], List.rel_append valued (.cons digit .nil), ?_⟩
  rw [List.reverse_append, List.reverse_singleton, List.singleton_append, Nat.ofDigits_cons,
    Nat.add_comm]

/-- Zeros in front are worth nothing. -/
theorem Positional.leading {zero : Char} (worthless : value? zero = some 0)
    (written : Positional value? base text number) (count : Nat) :
    Positional value? base (List.replicate count zero ++ text) number := by
  induction count with
  | zero => exact written
  | succ count ih =>
    rw [List.replicate_succ, List.cons_append]
    exact positional_cons_iff.mpr ⟨0, number, worthless, ih, by rw [Nat.mul_zero, Nat.add_zero]⟩

/-- A text writes one number at most. -/
theorem Positional.unique (first : Positional value? base text number)
    (second : Positional value? base text other) : number = other := by
  obtain ⟨values, valued, rfl⟩ := first
  obtain ⟨others, also, rfl⟩ := second
  have same : values = others := by
    refine List.right_unique_forall₂' (fun char value other here there => ?_) valued also
    exact Option.some.inj (here.symm.trans there)
  rw [same]

/-- The shortest text of a number writes it where each digit of the base has its value. -/
theorem positional_toDigits (proper : 1 < base)
    (digits : ∀ value < base, value? (Nat.digitChar value) = some value) (number : Nat) :
    Positional value? base (Nat.toDigits base number) number := by
  induction number using Nat.strongRecOn with
  | ind number ih =>
    by_cases small : number < base
    · rw [Nat.toDigits_of_lt_base small]
      have single : Positional value? base [Nat.digitChar number] (base * 0 + number) :=
        positional_nil.append_digit (digits number small)
      rwa [Nat.mul_zero, Nat.zero_add] at single
    · have smaller : number / base < number := Nat.div_lt_self (by omega) proper
      have last := digits (number % base) (Nat.mod_lt number (by omega))
      have whole := (ih _ smaller).append_digit last
      rwa [Nat.div_add_mod, ← Nat.toDigits_of_base_le proper (Nat.le_of_not_lt small)] at whole

/-- Digits of all scripts write the number that is read from them. -/
theorem positional_numeral (digits : ∀ char ∈ text, isDigit char = true) :
    Positional digitValue? 10 text (numeral text) := by
  induction text using List.reverseRecOn with
  | nil => exact positional_nil
  | append_singleton text char ih =>
    obtain ⟨earlier, last⟩ := List.forall_mem_append.mp digits
    obtain ⟨value, found⟩ := Option.isSome_iff_exists.mp (last char (List.mem_singleton_self char))
    have whole := (ih earlier).append_digit found
    have read : numeral (text ++ [char]) = 10 * numeral text + value := by
      rw [numeral, List.foldl_append, List.foldl_cons, List.foldl_nil, found, Option.getD_some]
      rfl
    rwa [← read] at whole

theorem Positional.isSome (written : Positional value? base text number) :
    ∀ char ∈ text, (value? char).isSome = true := by
  intro char member
  induction text generalizing number with
  | nil => cases member
  | cons first rest ih =>
    obtain ⟨value, low, here, later, -⟩ := positional_cons_iff.mp written
    rcases List.mem_cons.mp member with rfl | inside
    · rw [here, Option.isSome_some]
    · exact ih later inside

/-- Digits write a number if and only if that number is read from them. -/
theorem positional_digits_iff :
    Positional digitValue? 10 text number ↔
      (∀ char ∈ text, isDigit char = true) ∧ numeral text = number := by
  constructor
  · intro written
    have digits : ∀ char ∈ text, isDigit char = true := written.isSome
    exact ⟨digits, (positional_numeral digits).unique written⟩
  · rintro ⟨digits, rfl⟩
    exact positional_numeral digits

end LineScript.Text
