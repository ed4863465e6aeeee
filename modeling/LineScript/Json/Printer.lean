import LineScript.Json.Basic
import LineScript.Text.DigitLimit
import LineScript.Text.Quoted

/-!
JSON in printable ASCII: each item and each field stands on a line of its own, two spaces deeper
than what holds it, and characters beyond ASCII are escaped as UTF-16 units. A value with an integer
of too many digits is not printed.
-/

namespace LineScript.Json

/-- A UTF-16 unit as an escape. -/
def unit (value : Nat) : List Char :=
  '\\' :: 'u' :: Text.hexChars 4 value

/-- The UTF-16 units of a code point, as escapes. -/
def units (point : Nat) : List Char :=
  if point < 0x10000 then unit point
  else
    let offset := point - 0x10000
    unit (0xD800 + offset / 0x400) ++ unit (0xDC00 + offset % 0x400)

def escape (char : Char) : List Char :=
  if char = '"' || char = '\\' then ['\\', char]
  else if char = '\n' then ['\\', 'n']
  else if char = '\r' then ['\\', 'r']
  else if char = '\t' then ['\\', 't']
  else if char.toNat = 0x08 then ['\\', 'b']
  else if char.toNat = 0x0C then ['\\', 'f']
  else if 0x20 ≤ char.toNat && char.toNat ≤ 0x7E then [char]
  else units char.toNat

def string (text : String) : List Char :=
  '"' :: text.toList.flatMap escape ++ ['"']

/-- A line break and the indent of a level. -/
def newline (level : Nat) : List Char :=
  '\n' :: List.replicate (2 * level) ' '

mutual

/-- The text of a value inside so many lists and objects. -/
def renderAt (level : Nat) : Json → List Char
  | .null => "null".toList
  | .number value => Text.decimalChars value
  | .text value => string value
  | .list [] => "[]".toList
  | .list (item :: rest) =>
    '[' :: newline (level + 1) ++ renderAt (level + 1) item ++ renderItems (level + 1) rest ++
      newline level ++ [']']
  | .object [] => ['\x7b', '\x7d']
  | .object ((name, value) :: rest) =>
    '\x7b' :: newline (level + 1) ++ string name ++ ": ".toList ++ renderAt (level + 1) value ++
      renderFields (level + 1) rest ++ newline level ++ ['\x7d']

/-- The items after the first. -/
def renderItems (level : Nat) : List Json → List Char
  | [] => []
  | item :: rest => ',' :: newline level ++ renderAt level item ++ renderItems level rest

/-- The fields after the first. -/
def renderFields (level : Nat) : List (String × Json) → List Char
  | [] => []
  | (name, value) :: rest =>
    ',' :: newline level ++ string name ++ ": ".toList ++ renderAt level value ++
      renderFields level rest

end

/-- The text of a value with all its integers, however many digits they have. -/
def render (json : Json) : String :=
  String.ofList (renderAt 0 json)

/-- The text of a value, within the limit on digits. -/
def render? (json : Json) : Except Text.DigitFailure String :=
  Text.withIntegers json.numbers json.render

end LineScript.Json
