import LineScript.Segment.Line
import LineScript.Segment.LoadError
import LineScript.Text.Lines

/-!
Loading one segment: every line that is not blank must follow the pattern, and the indices must
count up from zero.
-/

namespace LineScript.Segment

/-- The most digits that an index may have, leading zeros included. -/
def maxIndexDigits : Nat := 4300

/-- The payload of a line that is expected to have a certain index. -/
def Line.accept (kind : Kind) (expected : Nat) (line : Line) : Except LoadFailure String :=
  if maxIndexDigits < line.index.length then .error (.oversizedIndex line.index.length)
  else if Text.numeral line.index = expected then .ok (String.ofList line.payload)
  else .error (.rejected (.ofCondition kind .notChronological))

/-- The payloads of lines whose indices count up from a start. -/
def payloads (kind : Kind) (pattern : Pattern) (start : Nat) :
    List (List Char) → Except LoadFailure (List String)
  | [] => .ok []
  | text :: rest => do
    let line ← match Line.parse? pattern text with
      | some line => pure line
      | none => throw (.rejected (.ofCondition kind .malformedAssignment))
    let payload ← line.accept kind start
    let others ← payloads kind pattern (start + 1) rest
    return payload :: others

/-- The lines of a text that are not blank. -/
def inked (text : List Char) : List (List Char) :=
  (Text.lines text).filter fun line => !line.all Text.isBlank

/-- Whether a line of the pattern stands anywhere between line feeds. Carriage returns are left
where they are. -/
def hasLine (pattern : Pattern) (text : List Char) : Bool :=
  (text.splitOn '\n').any fun stretch => (Line.parse? pattern stretch).isSome

/-- White space alone is an empty segment. A text without any line of the pattern is no segment, and
that shows before its lines are read one by one. -/
def load (kind : Kind) (pattern : Pattern) (text : String) : Except LoadFailure (List String) :=
  if text.toList.all Text.isBlank then .ok []
  else if hasLine pattern text.toList then payloads kind pattern 0 (inked text.toList)
  else .error (.rejected (.ofCondition kind .malformedSegment))

def loadRegisters (text : String) : Except LoadFailure (List String) :=
  load .register .value text

def loadCode (text : String) : Except LoadFailure (List String) :=
  load .code .statement text

end LineScript.Segment
