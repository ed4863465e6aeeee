import LineScript.Segment.Condition

/-!
Errors of loading. An error of framing has a message alone; an error of a line has the number of its
condition and the kind of its segment.
-/

namespace LineScript

structure LoadError where
  message : String
  number : Option Int
  kind : Option Segment.Kind
  deriving DecidableEq, Repr

namespace LoadError

/-- An error whose message, if none is given, is that of its number. -/
def build (message : Option String) (number : Option Int) (kind : Option Segment.Kind) :
    LoadError where
  message := message.getD ((number.map Segment.conditionText).getD "Load failed")
  number := number
  kind := kind

/-- An error of framing. -/
def plain (message : String) : LoadError :=
  build (some message) none none

def ofCondition (kind : Segment.Kind) (condition : Segment.Condition) : LoadError :=
  build none (some (Segment.conditionNumber kind condition)) (some kind)

def condition (error : LoadError) : Option Segment.Condition :=
  error.number.bind fun number => (Segment.describe number).2

end LoadError

/-- Why a text could not be loaded: its form is at fault, or an index has more digits than are
read. -/
inductive LoadFailure where
  | rejected (error : LoadError)
  | oversizedIndex (digits : Nat)
  deriving DecidableEq, Repr

def LoadFailure.message : LoadFailure → String
  | .rejected error => error.message
  | .oversizedIndex digits =>
    s!"Exceeds the limit (4300 digits) for integer string conversion: value has {digits} digits; " ++
      "use sys.set_int_max_str_digits() to increase the limit"

end LineScript
