import LineScript.Arithmetic
import LineScript.Proofs.Value.Canonical
import LineScript.Statement.Basic
import Mathlib.Data.List.Forall2

/-!
Sheets: what a straight line of arithmetic and pops comes to over the integers. A cell of a sheet is
a text that was there before, or an integer that was computed and has no text yet.
-/

namespace LineScript

/-- Division toward zero: the remainder is less than the divisor and has the sign of the
dividend. -/
structure Arithmetic.Divides (dividend divisor quotient remainder : Int) : Prop where
  parts : dividend = divisor * quotient + remainder
  small : remainder.natAbs < divisor.natAbs
  side : remainder = 0 ∨ 0 < dividend ∧ 0 < remainder ∨ dividend < 0 ∧ remainder < 0

namespace Arithmetic

variable {dividend divisor quotient remainder : Int}

theorem Divides.nonzero (divides : Divides dividend divisor quotient remainder) : divisor ≠ 0 := by
  have small := divides.small
  omega

theorem divides_tdiv (dividend : Int) (nonzero : divisor ≠ 0) :
    Divides dividend divisor (dividend.tdiv divisor) (dividend.tmod divisor) where
  parts := (Int.mul_tdiv_add_tmod dividend divisor).symm
  small := by
    rw [Int.natAbs_tmod]
    exact Nat.mod_lt _ (Int.natAbs_pos.mpr nonzero)
  side := by
    rcases Int.lt_trichotomy dividend 0 with below | rfl | above
    · have reflected := Int.tmod_nonneg divisor (Int.neg_nonneg_of_nonpos (Int.le_of_lt below))
      rw [Int.neg_tmod] at reflected
      omega
    · exact .inl (Int.zero_tmod divisor)
    · have same := Int.tmod_nonneg divisor (Int.le_of_lt above)
      omega

/-- A division has one quotient and one remainder. -/
theorem Divides.eq_tdiv (divides : Divides dividend divisor quotient remainder) :
    quotient = dividend.tdiv divisor ∧ remainder = dividend.tmod divisor := by
  have nonzero := divides.nonzero
  obtain ⟨parts, small, side⟩ := divides
  have found : dividend.tdiv divisor = quotient ∧ dividend.tmod divisor = remainder := by
    rcases Int.le_total 0 dividend with above | below
    · exact (Int.tdiv_tmod_unique above nonzero).mpr ⟨by omega, by omega, by omega⟩
    · exact (Int.tdiv_tmod_unique' below nonzero).mpr ⟨by omega, by omega, by omega⟩
  exact ⟨found.1.symm, found.2.symm⟩

theorem divide?_of_divides (divides : Divides dividend divisor quotient remainder) :
    divide? dividend divisor = some ⟨quotient, remainder⟩ := by
  obtain ⟨rfl, rfl⟩ := divides.eq_tdiv
  rw [divide?, if_neg divides.nonzero]

end Arithmetic

/-- The integer that an operator makes of two others. A division makes two. -/
def Operator.result? : Operator → Int → Int → Option Int
  | .add, left, right => some (left + right)
  | .subtract, left, right => some (left - right)
  | .multiply, left, right => some (left * right)
  | .divide, _, _ => none

inductive Cell where
  | given (text : String)
  | computed (number : Int)
  deriving DecidableEq, Repr

/-- A cell is an operand with an integer value. -/
def Cell.Reads : Cell → Int → Prop
  | .given text, number => Value.read text = .number number
  | .computed found, number => found = number

/-- A text stands in a cell. -/
def Cell.Holds : Cell → String → Prop
  | .given text, held => held = text
  | .computed number, held => Text.Canonical number held

/-- The cells of the variables and of the stack, its top first. -/
structure Sheet where
  vars : String → Option Cell
  stack : List Cell

namespace Sheet

variable (sheet : Sheet)

def bind (name : String) (cell : Cell) : Sheet :=
  { sheet with vars := fun other => if other = name then some cell else sheet.vars other }

def push (cell : Cell) : Sheet :=
  { sheet with stack := cell :: sheet.stack }

/-- A variable is an operand with an integer value. -/
def Operand (name : String) (number : Int) : Prop :=
  ∃ cell, sheet.vars name = some cell ∧ cell.Reads number

/-- What an arithmetic statement or a pop makes of a sheet. -/
inductive Yields : Statement → Sheet → Prop where
  | compute {target left right : String} {operator : Operator} {leftValue rightValue result : Int}
      (leftReads : sheet.Operand left leftValue) (rightReads : sheet.Operand right rightValue)
      (exact : operator.result? leftValue rightValue = some result) :
      Yields (.assign target (.arithmetic left operator right))
        (sheet.bind target (.computed result))
  | divide {target left right : String} {leftValue rightValue quotient remainder : Int}
      (leftReads : sheet.Operand left leftValue) (rightReads : sheet.Operand right rightValue)
      (divides : Arithmetic.Divides leftValue rightValue quotient remainder) :
      Yields (.assign target (.arithmetic left .divide right))
        ((sheet.bind target (.computed quotient)).push (.computed remainder))
  | pop {target : String} {cell : Cell} {rest : List Cell} (top : sheet.stack = cell :: rest) :
      Yields (.assign target .stack) (({ sheet with stack := rest } : Sheet).bind target cell)

/-- What a straight line makes of a sheet. -/
inductive Computes : Sheet → List Statement → Sheet → Prop where
  | nil (sheet : Sheet) : Computes sheet [] sheet
  | cons {sheet middle after : Sheet} {statement : Statement} {rest : List Statement}
      (yields : sheet.Yields statement middle) (goesOn : Computes middle rest after) :
      Computes sheet (statement :: rest) after

end Sheet

end LineScript
