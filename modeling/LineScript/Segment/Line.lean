import LineScript.Text.Blank
import LineScript.Text.Word

/-!
The lines of a segment: an index in digits, a gap of spaces and tabs, a payload. Spaces, tabs and
carriage returns at the end of a line do not count.
-/

namespace LineScript.Segment

/-- What a line may carry: a register value, or a statement. -/
inductive Pattern where
  | value
  | statement
  deriving DecidableEq, Repr

def isGap (char : Char) : Bool :=
  char == ' ' || char == '\t'

def isFiller (char : Char) : Bool :=
  isGap char || char == '\r'

/-- Characters that a quoted value may hold. -/
def isInner (char : Char) : Bool :=
  char != '"' && char != '\r' && char != '\n'

/-- A register value is one word, or a text in double quotes. -/
def valuePayload? (text : List Char) : Option (List Char) :=
  match text with
  | '"' :: rest =>
    match rest.dropWhile isInner with
    | '"' :: tail =>
      if tail.all isFiller then some ('"' :: rest.takeWhile isInner ++ ['"']) else none
    | _ => none
  | _ =>
    let word := text.takeWhile Text.isWord
    if !word.isEmpty && (text.dropWhile Text.isWord).all isFiller then some word else none

/-- A statement begins with no white space and runs to the end of the line. -/
def statementPayload? (text : List Char) : Option (List Char) :=
  match text with
  | [] => none
  | char :: _ => if Text.isBlank char then none else some (Text.trimEnd isFiller text)

def Pattern.payload? : Pattern → List Char → Option (List Char)
  | .value => valuePayload?
  | .statement => statementPayload?

structure Line where
  index : List Char
  payload : List Char
  deriving DecidableEq, Repr

/-- The line that a text writes under a pattern. -/
def Line.parse? (pattern : Pattern) (text : List Char) : Option Line :=
  let index := text.takeWhile Text.isDigit
  let rest := text.dropWhile Text.isDigit
  let gap := rest.takeWhile isGap
  if index.isEmpty || gap.isEmpty then none
  else (pattern.payload? (rest.dropWhile isGap)).map (Line.mk index)

end LineScript.Segment
