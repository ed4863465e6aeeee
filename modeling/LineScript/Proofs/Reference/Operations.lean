import LineScript.Proofs.Reference.Semantics
import LineScript.Proofs.Value.Integers

/-!
The reference's own order, division and reading of integers against those that the machine uses.
-/

namespace LineScript.Reference

theorem precedes_eq (left right : List Char) : precedes left right = decide (left < right) := by
  induction left generalizing right with
  | nil =>
    cases right with
    | nil => rfl
    | cons char rest => simp [precedes]
  | cons char left ih =>
    cases right with
    | nil => simp [precedes]
    | cons other right =>
      rw [precedes, ih, Bool.eq_iff_iff]
      simp [List.cons_lt_cons_iff, Char.lt_def, UInt32.lt_iff_toNat_lt]

theorem precedes_toList (left right : String) :
    precedes left.toList right.toList = decide (left < right) :=
  precedes_eq left.toList right.toList

private theorem le_eq (left right : String) :
    (decide (left = right) || precedes left.toList right.toList) = decide (left ≤ right) := by
  rw [precedes_toList, Bool.eq_iff_iff]
  simp [Std.le_iff_lt_or_eq, or_comm]

theorem holds_eq (comparison : Comparison) (left right : String) :
    holds comparison left right = comparison.holds left right := by
  cases comparison with
  | less => exact precedes_toList left right
  | atMost => exact le_eq left right
  | greater => exact precedes_toList right left
  | atLeast =>
    rw [holds, Comparison.holds, ← le_eq]
    simp [eq_comm]
  | equal => rfl
  | unequal => rfl

theorem quotient_eq_tdiv (dividend divisor : Int) :
    quotient dividend divisor = dividend.tdiv divisor := by
  have negative (number : Nat) : (Int.negSucc number < 0) = True :=
    eq_true (Int.negSucc_lt_zero number)
  have positive (number : Nat) : (Int.ofNat number < 0) = False :=
    eq_false (Int.not_lt.mpr (Int.natCast_nonneg number))
  cases dividend with
  | ofNat dividend =>
    cases divisor with
    | ofNat divisor =>
      unfold quotient
      rw [if_pos ((positive dividend).trans (positive divisor).symm)]
      rfl
    | negSucc divisor => exact if_neg (by simp [negative])
  | negSucc dividend =>
    cases divisor with
    | ofNat divisor => exact if_neg (by simp [negative])
    | negSucc divisor =>
      unfold quotient
      rw [if_pos ((negative dividend).trans (negative divisor).symm)]
      rfl

theorem remainder_eq_tmod (dividend divisor : Int) :
    remainder dividend divisor = dividend.tmod divisor := by
  rw [remainder, quotient_eq_tdiv, Int.tmod_def]

theorem mapM_digits_iff {digits : List Char} {values : List Nat} :
    digits.mapM Text.digitValue? = some values ↔
      List.Forall₂ (fun char value => Text.digitValue? char = some value) digits values := by
  induction digits generalizing values with
  | nil => simp [eq_comm]
  | cons char rest ih =>
    rw [List.mapM_cons, List.forall₂_cons_left_iff]
    simp only [Option.bind_eq_bind, Option.bind_eq_some_iff, Option.pure_def, Option.some.injEq, ih]
    constructor
    · rintro ⟨value, here, others, later, rfl⟩
      exact ⟨value, others, here, later, rfl⟩
    · rintro ⟨value, others, here, later, rfl⟩
      exact ⟨value, here, others, later, rfl⟩

theorem whole?_eq (digits : List Char) : whole? digits = Value.natural? digits := by
  refine Option.ext fun number => ?_
  rw [Value.natural?_eq_some_iff, whole?]
  constructor
  · intro read
    obtain ⟨filled, read⟩ := Option.ite_none_left_eq_some.mp read
    obtain ⟨values, valued, written⟩ := Option.map_eq_some_iff.mp read
    exact ⟨mt List.isEmpty_iff.mpr filled, values, mapM_digits_iff.mp valued, written⟩
  · rintro ⟨nonempty, values, valued, written⟩
    rw [if_neg (mt List.isEmpty_iff.mp nonempty), mapM_digits_iff.mpr valued]
    exact congrArg some written

theorem integer?_eq (value : String) :
    integer? value = Value.integer? (Text.trimChars value.toList) := by
  rw [integer?]
  cases Text.trimChars value.toList with
  | nil => rfl
  | cons sign digits =>
    simp only [whole?_eq]
    by_cases negative : sign = '-'
    · subst negative
      rw [if_pos rfl, Value.integer?]
      cases Value.natural? digits <;> rfl
    · by_cases positive : sign = '+'
      · subst positive
        rw [if_neg negative, if_pos rfl, Value.integer?]
        cases Value.natural? digits <;> rfl
      · have unsigned {char : Char} {rest : List Char} (other : sign ≠ char) :
            sign :: digits ≠ char :: rest := fun same => other (List.cons.inj same).1
        rw [if_neg negative, if_neg positive,
          Value.integer?.eq_3 _ (fun _ => unsigned negative) fun _ => unsigned positive]
        cases Value.natural? (sign :: digits) <;> rfl

end LineScript.Reference
