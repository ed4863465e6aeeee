import LineScript.Text.UnprintableRanges

/-!
Quoted texts: in single quotes, or in double quotes when the text holds a single quote and no double
one. Backslashes, the quote in use and unprintable characters are escaped.
-/

namespace LineScript.Text

/-- Lower-case hexadecimal digits, filled up with zeros to a width. -/
def hexChars (width value : Nat) : List Char :=
  let digits := Nat.toDigits 16 value
  List.replicate (width - digits.length) '0' ++ digits

def isPrintable (char : Char) : Bool :=
  !RangeTable.contains unprintableRanges char.toNat

namespace Quoted

/-- The quote that surrounds a text. -/
def mark (text : List Char) : Char :=
  if text.contains '\'' && !text.contains '"' then '"' else '\''

def escape (quote char : Char) : List Char :=
  if char = quote || char = '\\' then ['\\', char]
  else if char = '\n' then ['\\', 'n']
  else if char = '\r' then ['\\', 'r']
  else if char = '\t' then ['\\', 't']
  else if isPrintable char then [char]
  else if char.toNat < 0x100 then '\\' :: 'x' :: hexChars 2 char.toNat
  else if char.toNat < 0x10000 then '\\' :: 'u' :: hexChars 4 char.toNat
  else '\\' :: 'U' :: hexChars 8 char.toNat

def encode (text : List Char) : List Char :=
  let quote := mark text
  quote :: text.flatMap (escape quote) ++ [quote]

end Quoted

def quoted (text : String) : String :=
  String.ofList (Quoted.encode text.toList)

/-- A list of texts, each quoted, in brackets. -/
def quotedList (texts : List String) : String :=
  "[" ++ String.intercalate ", " (texts.map quoted) ++ "]"

end LineScript.Text
