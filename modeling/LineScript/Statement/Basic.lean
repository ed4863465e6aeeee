import LineScript.Value

/-!
Statements: a variable takes a value, a jump goes to a line, a branch jumps if a comparison holds,
and an output shows a variable.
-/

namespace LineScript

/-- A literal keeps the form in which it is written. -/
inductive Literal where
  | digits (text : String)
  | quoted (inner : String)
  deriving DecidableEq, Repr

/-- The value that a literal stands for. -/
def Literal.value : Literal → String
  | .digits text => text
  | .quoted inner => inner

inductive Operator where
  | add
  | subtract
  | multiply
  | divide
  deriving DecidableEq, Repr

inductive Comparison where
  | less
  | atMost
  | greater
  | atLeast
  | equal
  | unequal
  deriving DecidableEq, Repr

/-- Comparison of texts, character by character in the order of code points. -/
def Comparison.holds (comparison : Comparison) (left right : String) : Bool :=
  match comparison with
  | .less => left < right
  | .atMost => left ≤ right
  | .greater => right < left
  | .atLeast => right ≤ left
  | .equal => left = right
  | .unequal => left ≠ right

/-- Where an assigned value comes from. -/
inductive Origin where
  | literal (literal : Literal)
  | stack
  | input
  | copy (source : String)
  | arithmetic (left : String) (operator : Operator) (right : String)
  deriving DecidableEq, Repr

/-- A jump keeps the digits of the line that it goes to. -/
inductive Statement where
  | assign (target : String) (origin : Origin)
  | jump (line : String)
  | branch (left : String) (comparison : Comparison) (right : String) (line : String)
  | output (name : String)
  deriving DecidableEq, Repr

end LineScript
