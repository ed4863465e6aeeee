/-!
JSON values without fractions: nothing, integers, texts, lists and objects with ordered fields.
-/

namespace LineScript

inductive Json where
  | null
  | number (value : Int)
  | text (value : String)
  | list (items : List Json)
  | object (fields : List (String × Json))
  deriving Repr

namespace Json

def ofText? : Option String → Json
  | some value => .text value
  | none => .null

def ofNumber? : Option Int → Json
  | some value => .number value
  | none => .null

mutual

/-- The integers that stand in a value. -/
def numbers : Json → List Int
  | .null => []
  | .number value => [value]
  | .text _ => []
  | .list items => numbersOfItems items
  | .object fields => numbersOfFields fields

def numbersOfItems : List Json → List Int
  | [] => []
  | item :: rest => item.numbers ++ numbersOfItems rest

def numbersOfFields : List (String × Json) → List Int
  | [] => []
  | (_, value) :: rest => value.numbers ++ numbersOfFields rest

end

end Json

end LineScript
