/-!
Line breaks: a text as its lines, and a text with one kind of break.
-/

namespace LineScript.Text

/-- A character at the head of the first line. -/
def pushFirst (char : Char) : List (List Char) → List (List Char)
  | [] => [[char]]
  | line :: more => (char :: line) :: more

/-- The lines of a text. A line feed, or a carriage return with a line feed, ends a line. -/
def lines : List Char → List (List Char)
  | [] => [[]]
  | '\r' :: '\n' :: rest => [] :: lines rest
  | char :: rest => if char = '\n' then [] :: lines rest else pushFirst char (lines rest)

/-- Every break, and every lone carriage return, as one line feed. -/
def unifyBreaks : List Char → List Char
  | [] => []
  | '\r' :: '\n' :: rest => '\n' :: unifyBreaks rest
  | char :: rest => (if char = '\r' then '\n' else char) :: unifyBreaks rest

/-- The lines that a reader of input gets one by one. Only a line feed ends a line, and a line feed
at the end of the text opens no further one. -/
def readableLines (text : String) : List String :=
  let all := (text.toList.splitOn '\n').map String.ofList
  if all.getLast? = some "" then all.dropLast else all

end LineScript.Text
