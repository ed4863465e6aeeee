/-!
Division of integers that rounds toward zero. The remainder takes the sign of the dividend.
-/

namespace LineScript.Arithmetic

structure Division where
  quotient : Int
  remainder : Int
  deriving DecidableEq, Repr

/-- Division by zero has no result. -/
def divide? (dividend divisor : Int) : Option Division :=
  if divisor = 0 then none
  else some ⟨dividend.tdiv divisor, dividend.tmod divisor⟩

theorem divide?_eq_none_iff {dividend divisor : Int} :
    divide? dividend divisor = none ↔ divisor = 0 := by
  simp [divide?]

end LineScript.Arithmetic
