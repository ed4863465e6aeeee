import LineScript.Machine.Fault

/-!
The console: lines to read, texts written, and the calls that are disturbed. A disturbed call reads
or writes nothing, but it counts.
-/

namespace LineScript

/-- How a call of the console fails. -/
inductive Disruption where
  | failure (message : String)
  | closed (message : String)
  | fault (fault : Fault)
  deriving DecidableEq, Repr

structure Console where
  inputs : List String
  outputs : Array String := #[]
  reads : Nat := 0
  writes : Nat := 0
  /-- What disturbs the read with a number, counted from zero. -/
  readDisruption : Nat → Option Disruption := fun _ => none
  writeDisruption : Nat → Option Disruption := fun _ => none

namespace Disruption

/-- A closed console ends the input. -/
def whileReading : Disruption → Trouble
  | .failure message => .mishap (.failure message)
  | .closed _ => .ofCause .inputClosed
  | .fault found => .fault found

def whileWriting : Disruption → Trouble
  | .failure message => .mishap (.failure message)
  | .closed message => .mishap (.closed message)
  | .fault found => .fault found

end Disruption

namespace Console

/-- The next line, or why there is none; a console without lines is closed. -/
def read (console : Console) : Except Disruption String × Console :=
  let called := { console with reads := console.reads + 1 }
  match console.readDisruption console.reads, console.inputs with
  | some disruption, _ => (.error disruption, called)
  | none, [] => (.error (.closed ""), called)
  | none, line :: rest => (.ok line, { called with inputs := rest })

def write (console : Console) (text : String) : Except Disruption Unit × Console :=
  let called := { console with writes := console.writes + 1 }
  match console.writeDisruption console.writes with
  | some disruption => (.error disruption, called)
  | none => (.ok (), { called with outputs := called.outputs.push text })

end Console

end LineScript
