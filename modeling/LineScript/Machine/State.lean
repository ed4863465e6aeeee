import LineScript.Machine.Console
import LineScript.Machine.Journal

/-!
The state of a machine: a program, the console that it talks to, what was said so far and a journal
of its steps.
-/

namespace LineScript

inductive Event where
  | input (text : String)
  | output (text : String)
  deriving DecidableEq, Repr

structure Machine where
  program : Program
  console : Console
  events : Array Event := #[]
  journal : Journal := .seeded
  /-- The phases that can be carried out. -/
  handled : List Phase := Phase.all
  /-- Whether the journal keeps snapshots. -/
  verbose : Bool := false

end LineScript
