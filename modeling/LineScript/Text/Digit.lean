/-!
Decimal digits of every script and the numbers they write. Digits come in runs of ten that begin at
a zero; scripts may be mixed within one numeral.
-/

namespace LineScript.Text

/-- The zeros of all scripts. -/
def digitZeros : List Nat := [
  0x30, 0x660, 0x6F0, 0x7C0, 0x966, 0x9E6, 0xA66, 0xAE6, 0xB66, 0xBE6, 0xC66, 0xCE6, 0xD66, 0xDE6,
  0xE50, 0xED0, 0xF20, 0x1040, 0x1090, 0x17E0, 0x1810, 0x1946, 0x19D0, 0x1A80, 0x1A90, 0x1B50,
  0x1BB0, 0x1C40, 0x1C50, 0xA620, 0xA8D0, 0xA900, 0xA9D0, 0xA9F0, 0xAA50, 0xABF0, 0xFF10, 0x104A0,
  0x10D30, 0x11066, 0x110F0, 0x11136, 0x111D0, 0x112F0, 0x11450, 0x114D0, 0x11650, 0x116C0,
  0x11730, 0x118E0, 0x11950, 0x11C50, 0x11D50, 0x11DA0, 0x16A60, 0x16AC0, 0x16B50, 0x1D7CE,
  0x1D7D8, 0x1D7E2, 0x1D7EC, 0x1D7F6, 0x1E140, 0x1E2F0, 0x1E950, 0x1FBF0]

def digitValue? (char : Char) : Option Nat :=
  (digitZeros.find? fun start => start ≤ char.toNat && char.toNat < start + 10).map
    (char.toNat - ·)

def isDigit (char : Char) : Bool :=
  (digitValue? char).isSome

/-- The number that a run of digits writes. -/
def numeral (digits : List Char) : Nat :=
  digits.foldl (fun value char => 10 * value + (digitValue? char).getD 0) 0

/-- The shortest decimal text of an integer, with a minus sign below zero. -/
def decimalChars (value : Int) : List Char :=
  (if value < 0 then ['-'] else []) ++ Nat.toDigits 10 value.natAbs

def decimal (value : Int) : String :=
  String.ofList (decimalChars value)

theorem digitValue?_lt {char : Char} {value : Nat} (digit : digitValue? char = some value) :
    value < 10 := by
  simp only [digitValue?, Option.map_eq_some_iff] at digit
  obtain ⟨start, found, rfl⟩ := digit
  have bounds := List.find?_some found
  simp only [Bool.and_eq_true, decide_eq_true_eq] at bounds
  omega

theorem bounds_of_char_isDigit {char : Char} (digit : char.isDigit = true) :
    0x30 ≤ char.toNat ∧ char.toNat < 0x3A := by
  simp only [Char.isDigit, Bool.and_eq_true, decide_eq_true_eq] at digit
  exact ⟨UInt32.le_iff_toNat_le.mp digit.1, Nat.lt_succ_of_le (UInt32.le_iff_toNat_le.mp digit.2)⟩

theorem isDigit_of_char_isDigit {char : Char} (digit : char.isDigit = true) :
    isDigit char = true := by
  have bounds := bounds_of_char_isDigit digit
  simp [isDigit, digitValue?, digitZeros, bounds.1, show char.toNat < 48 + 10 from bounds.2]

end LineScript.Text
