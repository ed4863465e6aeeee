import LineScript.Text.Digit
import LineScript.Text.WordRanges

/-!
Word characters: letters, digits and other numeric characters of every script, and the underscore.
Combining marks are none.
-/

namespace LineScript.Text

def isWord (char : Char) : Bool :=
  char == '_' || isDigit char || RangeTable.contains wordRanges char.toNat

theorem isWord_of_isDigit {char : Char} (digit : isDigit char = true) : isWord char = true := by
  simp [isWord, digit]

end LineScript.Text
