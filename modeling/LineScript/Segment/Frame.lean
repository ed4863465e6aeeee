import LineScript.Segment.LoadError
import LineScript.Text.Case
import LineScript.Text.Search

/-!
Frames: a segment stands between a mark that begins it and the first mark after that which ends it.
-/

namespace LineScript.Segment

/-- The marks that begin and end a segment. -/
structure Frame where
  opening : String
  closing : String
  deriving DecidableEq, Repr

def Kind.frame : Kind → Frame
  | .register => ⟨"BEGIN_REGISTER_SEGMENT", "END_REGISTER_SEGMENT"⟩
  | .code => ⟨"BEGIN_CODE_SEGMENT", "END_CODE_SEGMENT"⟩

/-- The text inside the first frame; `name` is what messages call the segment. -/
def Frame.extract (frame : Frame) (name source : String) : Except LoadError String :=
  match Text.splitAtFirst? frame.opening.toList source.toList with
  | none => .error (.plain ("No " ++ name ++ " segment found"))
  | some (_, inside) =>
    match Text.splitAtFirst? frame.closing.toList inside with
    | none => .error (.plain (Text.capitalize name ++ " segment not fully defined"))
    | some (body, _) => .ok (String.ofList body)

/-- The text of a segment of a kind. -/
def extract (kind : Kind) (source : String) : Except LoadFailure String :=
  (kind.frame.extract kind.name source).mapError .rejected

end LineScript.Segment
