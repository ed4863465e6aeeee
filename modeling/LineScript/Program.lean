import LineScript.Bindings
import LineScript.Listing
import LineScript.Mishap
import LineScript.Value

/-!
Programs: code that never changes, variables, a stack and the position of the current instruction.
A position at or past the end of the code means that nothing is left to run; a negative position
counts from the end.
-/

namespace LineScript

structure Program where
  code : List String
  vars : Bindings
  /-- The top comes first. -/
  stack : List String
  ip : Int
  deriving DecidableEq, Repr

/-- What a program looked like at some moment, with long texts cut. -/
structure Snapshot where
  ip : Int
  vars : Bindings
  /-- The top comes last. -/
  stack : List String
  deriving DecidableEq, Repr

namespace Program

/-- Values without their quotes, under the names `0`, `1`, … -/
def initialVars (start : Nat) : List String → List (String × String)
  | [] => []
  | value :: rest =>
    (Text.decimal start, Value.unquote value) :: initialVars (start + 1) rest

/-- The program of a listing, before its first step. -/
def ofListing (listing : Listing) : Program where
  code := listing.statements
  vars := ⟨initialVars 0 listing.registers⟩
  stack := []
  ip := 0

/-- The least index that fits a machine word. -/
def leastIndex : Int := -0x8000000000000000

def current (program : Program) : Except Mishap (Option String) :=
  let size : Int := program.code.length
  if size ≤ program.ip then .ok none
  else if 0 ≤ program.ip then .ok program.code[program.ip.toNat]?
  else if -size ≤ program.ip then .ok program.code[(size + program.ip).toNat]?
  else if leastIndex ≤ program.ip then .error (.indexOutOfRange program.ip program.code.length)
  else .error .notAnIndex

def advance (program : Program) : Program :=
  { program with ip := program.ip + 1 }

def jump (program : Program) (target : Int) : Program :=
  { program with ip := target }

def push (program : Program) (value : String) : Program :=
  { program with stack := value :: program.stack }

def pop? (program : Program) : Option (String × Program) :=
  match program.stack with
  | [] => none
  | value :: rest => some (value, { program with stack := rest })

def set (program : Program) (name value : String) : Program :=
  { program with vars := program.vars.insert name value }

/-- Binds a name to the value of another name. -/
def copy (program : Program) (target source : String) : Except Mishap Program :=
  match program.vars.get? source with
  | some value => .ok (program.set target value)
  | none => .error (.unknownName source)

/-- Code cannot be written to. -/
def setCode (_program : Program) (_index : Int) (_text : String) : Except Mishap Program :=
  .error .codeFixed

/-- A text of more than eighty characters is cut to seventy-seven and three dots. -/
def shorten (text : String) : String :=
  if 80 < text.length then String.ofList (text.toList.take 77) ++ "..." else text

def snapshot (program : Program) : Snapshot where
  ip := program.ip
  vars := ⟨program.vars.toList.map fun (name, value) => ("$" ++ name, shorten value)⟩
  stack := (program.stack.map shorten).reverse

end Program

end LineScript
