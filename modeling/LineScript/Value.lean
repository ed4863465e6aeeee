import LineScript.Text.Blank
import LineScript.Text.Digit

/-!
Values are texts. A quoted text stands for what is between its quotes, and an operand of arithmetic
is read as an integer: an optional sign and digits, with white space around it.
-/

namespace LineScript.Value

def unquoteChars : List Char → List Char
  | '"' :: rest => if rest.getLast? = some '"' then rest.dropLast else '"' :: rest
  | text => text

/-- What is between the quotes, if a text begins and ends with two different ones. -/
def unquote (value : String) : String :=
  String.ofList (unquoteChars value.toList)

/-- The number that a non-empty run of digits writes. -/
def natural? (text : List Char) : Option Nat :=
  if !text.isEmpty && text.all Text.isDigit then some (Text.numeral text) else none

/-- The integer that an optional sign and digits write. -/
def integer? : List Char → Option Int
  | '-' :: digits => (natural? digits).map fun value => -(value : Int)
  | '+' :: digits => (natural? digits).map fun value => (value : Int)
  | digits => (natural? digits).map fun value => (value : Int)

/-- The white space that may surround an integer: all but the four information separators. -/
def isPadding (char : Char) : Bool :=
  Text.isBlank char && !(0x1C ≤ char.toNat && char.toNat ≤ 0x1F)

inductive Reading where
  | number (value : Int)
  | notNumeric
  /-- A number whose surroundings hold an information separator. -/
  | unreadable
  deriving DecidableEq, Repr

/-- How a value reads as an operand. -/
def read (value : String) : Reading :=
  match integer? (Text.trimChars value.toList) with
  | none => .notNumeric
  | some _ =>
    match integer? (Text.trimEnd isPadding (value.toList.dropWhile isPadding)) with
    | some number => .number number
    | none => .unreadable

end LineScript.Value
