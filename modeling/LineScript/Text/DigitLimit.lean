import LineScript.Text.Digit

/-!
The limit on digits. The decimal text of an integer can be had only if it has no more digits than
the limit, the sign not counted.
-/

namespace LineScript.Text

/-- The most digits that an integer is written with. -/
def maxDigits : Nat := 4300

/-- An integer with no more digits than the limit. -/
def Writable (value : Int) : Prop :=
  value.natAbs < Nat.pow 10 maxDigits

instance (value : Int) : Decidable (Writable value) :=
  inferInstanceAs (Decidable (value.natAbs < Nat.pow 10 maxDigits))

/-- Why a text with integers cannot be had. -/
inductive DigitFailure where
  | tooManyDigits
  deriving DecidableEq, Repr

def DigitFailure.message : DigitFailure → String
  | .tooManyDigits =>
    s!"Exceeds the limit ({maxDigits} digits) for integer string conversion; " ++
      "use sys.set_int_max_str_digits() to increase the limit"

/-- A text that shows some integers, unless one of them has too many digits. -/
def withIntegers (shown : List Int) (text : String) : Except DigitFailure String :=
  if ∀ value ∈ shown, Writable value then .ok text else .error .tooManyDigits

end LineScript.Text
