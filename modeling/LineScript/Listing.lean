import LineScript.Segment.Frame
import LineScript.Segment.Load

/-!
Listings: the register values and the statements of a program, as read from a source text and as
written back to one. Both frames are looked for before any line is read.
-/

namespace LineScript

structure Listing where
  registers : List String
  statements : List String
  deriving DecidableEq, Repr

namespace Listing

/-- The listing that a source text writes. -/
def ofSource (source : String) : Except LoadFailure Listing := do
  let registerText ← Segment.extract .register source
  let codeText ← Segment.extract .code source
  let registers ← Segment.loadRegisters registerText
  let statements ← Segment.loadCode codeText
  return { registers, statements }

/-- The lines of a segment, numbered from a start. -/
def numbered (start : Nat) : List String → List Char
  | [] => []
  | payload :: rest =>
    Text.decimalChars start ++ ' ' :: payload.toList ++ '\n' :: numbered (start + 1) rest

def framed (kind : Segment.Kind) (payloads : List String) : List Char :=
  kind.frame.opening.toList ++ '\n' :: numbered 0 payloads ++ kind.frame.closing.toList ++ ['\n']

/-- The canonical source text of a listing. -/
def toSource (listing : Listing) : String :=
  String.ofList (framed .register listing.registers ++ framed .code listing.statements)

end Listing

end LineScript
