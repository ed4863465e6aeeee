/-!
The conditions that end the reading of a segment, and their numbers. Register segments take the odd
numbers and code segments the even ones; zero stands for success in both.
-/

namespace LineScript.Segment

inductive Kind where
  | register
  | code
  deriving DecidableEq, Repr

inductive Condition where
  | noSegment
  | allOk
  | malformedAssignment
  | notChronological
  | malformedSegment
  deriving DecidableEq, Repr

def Kind.name : Kind → String
  | .register => "register"
  | .code => "code"

def Condition.name : Condition → String
  | .noSegment => "NoSegment"
  | .allOk => "AllOk"
  | .malformedAssignment => "MalformedAssignment"
  | .notChronological => "NotChronological"
  | .malformedSegment => "MalformedSegment"

def Kind.all : List Kind := [.register, .code]

def Condition.all : List Condition :=
  [.noSegment, .allOk, .malformedAssignment, .notChronological, .malformedSegment]

/-- The number of a condition met in a segment of a kind. -/
def conditionNumber : Kind → Condition → Int
  | _, .allOk => 0
  | .register, .noSegment => 1
  | .code, .noSegment => 2
  | .register, .malformedAssignment => 3
  | .code, .malformedAssignment => 4
  | .register, .notChronological => 5
  | .code, .notChronological => 6
  | .register, .malformedSegment => 7
  | .code, .malformedSegment => 8

/-- The text of a number, whether or not a condition has it. -/
def conditionText (number : Int) : String :=
  match number with
  | 0 => "OK"
  | 1 => "No register segment found"
  | 2 => "No code segment found"
  | 3 => "Malformed register declaration: expected 'index value'"
  | 4 => "Malformed code line: expected 'index statement'"
  | 5 => "Register declarations are not in chronological order"
  | 6 => "Code lines are not in chronological order"
  | 7 => "Malformed register segment"
  | 8 => "Malformed code segment"
  | other => s!"Unknown load error code {other}"

/-- The kind and the condition behind a number. Success belongs to no kind, and a number that no
condition has belongs to nothing. -/
def describe (value : Int) : Option Kind × Option Condition :=
  if value = 0 then (none, some .allOk)
  else
    match (Kind.all.flatMap fun kind => Condition.all.map (kind, ·)).find? fun (kind, condition) =>
        conditionNumber kind condition = value with
    | some (kind, condition) => (some kind, some condition)
    | none => (none, none)

theorem describe_conditionNumber (kind : Kind) (condition : Condition)
    (failed : condition ≠ .allOk) :
    describe (conditionNumber kind condition) = (some kind, some condition) := by
  revert failed
  cases kind <;> cases condition <;> decide

end LineScript.Segment
