import LineScript.Proofs.Machine.Troubles
import LineScript.Proofs.Machine.Work
import LineScript.Proofs.Value.Integers

/-!
Operands of arithmetic. The value of a variable is an operand just where it writes an integer in
white space without information separators. With a separator it is an integer that is not read as
one, and a value of any other shape is no number.
-/

namespace LineScript.Work

open Text Value

variable {machine : Machine} {name value : String}

/-- What comes of a value as an operand is told by how it reads. -/
theorem operand_on_of_held (held : machine.program.vars.get? name = some value) :
    (operand name).on machine =
      match read value with
      | .number number => (.ok number, machine)
      | .notNumeric => (.error (.ofCause (.notNumeric name value)), machine)
      | .unreadable => (.error (.mishap (.unreadable value)), machine) := by
  rw [on_operand, Program.operand, Program.require, held, ok_bind]
  cases read value <;> rfl

theorem operand_on_ok_iff (held : machine.program.vars.get? name = some value) {number : Int} :
    (operand name).on machine = (.ok number, machine) ↔ read value = .number number := by
  rw [operand_on_of_held held]
  cases read value <;> simp

theorem operand_on_notNumeric_iff (held : machine.program.vars.get? name = some value) :
    (operand name).on machine = (.error (.ofCause (.notNumeric name value)), machine) ↔
      read value = .notNumeric := by
  rw [operand_on_of_held held]
  cases read value <;> simp [Trouble.ofCause]

theorem operand_on_unreadable_iff (held : machine.program.vars.get? name = some value) :
    (operand name).on machine = (.error (.mishap (.unreadable value)), machine) ↔
      read value = .unreadable := by
  rw [operand_on_of_held held]
  cases read value <;> simp [Trouble.ofCause]

/-- A value has one of three outcomes as an operand, and its shape tells which: the integer that it
writes in white space without separators; a fault that shows the value as it is, if what is between
the white space writes no integer; a mishap, if a separator stands around an integer. -/
theorem operand_domain (machine : Machine) (name value : String)
    (held : machine.program.vars.get? name = some value) :
    (∀ number, (operand name).on machine = (.ok number, machine) ↔
      ∃ before after, Padded value before after number ∧
        ∀ char ∈ before ++ after, isSeparator char = false) ∧
    ((operand name).on machine = (.error (.ofCause (.notNumeric name value)), machine) ↔
      ∀ number, ¬ Written number (trimChars value.toList)) ∧
    ((operand name).on machine = (.error (.mishap (.unreadable value)), machine) ↔
      ∃ before after number, Padded value before after number ∧
        ∃ char ∈ before ++ after, isSeparator char = true) ∧
    ((∃ number, (operand name).on machine = (.ok number, machine)) ∨
      (operand name).on machine = (.error (.ofCause (.notNumeric name value)), machine) ∨
      (operand name).on machine = (.error (.mishap (.unreadable value)), machine)) ∧
    (Misshapen (trimChars value.toList) →
      (operand name).on machine = (.error (.ofCause (.notNumeric name value)), machine)) ∧
    (Fault.Cause.notNumeric name value).message =
      "Variable $" ++ name ++ " is not numeric: '" ++ value ++ "'" ∧
    "invalid literal for int() with base 10: ".toList <+:
      (Mishap.unreadable value).message.toList := by
  refine ⟨fun number => (operand_on_ok_iff held).trans read_number_iff_padded,
    (operand_on_notNumeric_iff held).trans read_notNumeric_iff_not_written,
    (operand_on_unreadable_iff held).trans read_unreadable_iff_padded, ?total, ?misshapen, rfl,
    prefix_of_parts rfl⟩
  case total =>
    rw [operand_on_notNumeric_iff held, operand_on_unreadable_iff held]
    cases reads : read value with
    | number number => exact .inl ⟨number, (operand_on_ok_iff held).mpr reads⟩
    | notNumeric => exact .inr (.inl rfl)
    | unreadable => exact .inr (.inr rfl)
  case misshapen =>
    intro misshapen
    rw [operand_on_notNumeric_iff held, read_notNumeric_iff_not_written]
    exact fun number written => written.not_misshapen misshapen

/-- Three variables: digits of two scripts in white space, digits with an underscore, and a digit
behind a file separator. -/
def threeShapes : Machine where
  program := {
    code := []
    vars := ⟨[("x", "\u00a0-٣4\t"), ("y", "1_0"), ("z", "\x1c5")]⟩
    stack := []
    ip := 0
  }
  console := { inputs := [] }

theorem threeShapes_domain :
    threeShapes.program.vars.get? "x" = some "\u00a0-٣4\t" ∧
      (operand "x").on threeShapes = (.ok (-34), threeShapes) ∧
    threeShapes.program.vars.get? "y" = some "1_0" ∧
      (operand "y").on threeShapes = (.error (.ofCause (.notNumeric "y" "1_0")), threeShapes) ∧
    threeShapes.program.vars.get? "z" = some "\x1c5" ∧
      (operand "z").on threeShapes = (.error (.mishap (.unreadable "\x1c5")), threeShapes) := by
  obtain ⟨numbers, -⟩ := operand_domain threeShapes "x" "\u00a0-٣4\t" rfl
  obtain ⟨-, -, -, -, misshapen, -⟩ := operand_domain threeShapes "y" "1_0" rfl
  obtain ⟨-, -, separated, -⟩ := operand_domain threeShapes "z" "\x1c5" rfl
  have mixed : Written (-34) ['-', '٣', '4'] := integer?_eq_some_iff.mp (by decide)
  have five : Written 5 ['5'] := integer?_eq_some_iff.mp (by decide)
  have apart : ∀ char ∈ ['\u00a0'] ++ ['\t'], isSeparator char = false :=
    List.forall_mem_cons.mpr ⟨rfl, List.forall_mem_singleton.mpr rfl⟩
  refine ⟨rfl, (numbers (-34)).mpr ⟨['\u00a0'], ['\t'], ⟨by decide, _, mixed, by decide⟩, apart⟩,
    rfl, misshapen (.underscore (by decide)), rfl,
    separated.mpr ⟨['\x1c'], [], 5, ⟨by decide, _, five, by decide⟩, '\x1c', by decide, rfl⟩⟩

end LineScript.Work
