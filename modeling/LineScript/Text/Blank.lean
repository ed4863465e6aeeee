import LineScript.Text.RangeTable

/-!
White space: the space, the tab and line controls, the four information separators, and the spaces
of the other scripts. The zero-width space and the byte order mark are none.
-/

namespace LineScript.Text

def blankRanges : RangeTable := [
  (0x09, 0x0D), (0x1C, 0x20), (0x85, 0x85), (0xA0, 0xA0), (0x1680, 0x1680), (0x2000, 0x200A),
  (0x2028, 0x2029), (0x202F, 0x202F), (0x205F, 0x205F), (0x3000, 0x3000)]

def isBlank (char : Char) : Bool :=
  RangeTable.contains blankRanges char.toNat

/-- The text without its longest suffix of characters in a class. -/
def trimEnd (inClass : Char → Bool) (text : List Char) : List Char :=
  (text.reverse.dropWhile inClass).reverse

/-- The text without the white space around it. -/
def trimChars (text : List Char) : List Char :=
  trimEnd isBlank (text.dropWhile isBlank)

def trim (text : String) : String :=
  String.ofList (trimChars text.toList)

end LineScript.Text
