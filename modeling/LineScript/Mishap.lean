import LineScript.Text.Quoted

/-!
Mishaps: failures that no statement reports by itself. A step of the machine turns most of them into
faults.
-/

namespace LineScript

inductive Mishap where
  /-- An operand that reads as a number but is surrounded by information separators. -/
  | unreadable (value : String)
  | indexOutOfRange (index : Int) (size : Nat)
  /-- A position that is below every index of a machine word. -/
  | notAnIndex
  | unknownName (name : String)
  | codeFixed
  /-- The console fails. -/
  | failure (message : String)
  /-- The console is closed. -/
  | closed (message : String)
  deriving DecidableEq, Repr

/-- The most characters of a quoted operand that a message shows. -/
def Mishap.shownOperand : Nat := 200

def Mishap.message : Mishap → String
  | .unreadable value =>
    "invalid literal for int() with base 10: " ++
      String.ofList ((Text.Quoted.encode value.toList).take shownOperand)
  | .indexOutOfRange index size =>
    s!"index {index} is out of bounds for axis 0 with size {size}"
  | .notAnIndex =>
    "only integers, slices (`:`), ellipsis (`...`), numpy.newaxis (`None`) and integer or boolean " ++
      "arrays are valid indices"
  | .unknownName name => Text.quoted name
  | .codeFixed => "assignment destination is read-only"
  | .failure message => message
  | .closed message => message

end LineScript
