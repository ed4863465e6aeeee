import LineScript.Program

/-!
The journal: one entry for every step, in order, after a first entry that stands for the start.
-/

namespace LineScript

structure Journal.Entry where
  step : Int
  rule : String
  ip : Option Int
  instruction : Option String
  snapshot : Option Snapshot
  deriving DecidableEq, Repr

/-- An identifier with at least six characters for the number, its sign included. -/
def Journal.Entry.id (entry : Journal.Entry) : String :=
  let digits := Nat.toDigits 10 entry.step.natAbs
  let sign := if entry.step < 0 then ['-'] else []
  let fill := List.replicate (6 - sign.length - digits.length) '0'
  String.ofList ('s' :: '_' :: sign ++ fill ++ digits)

structure Journal where
  entries : Array Journal.Entry := #[]
  /-- The number of the next step. -/
  next : Int := 0
  deriving DecidableEq, Repr

namespace Journal

def record (journal : Journal) (rule : String) (ip : Option Int) (instruction : Option String)
    (snapshot : Option Snapshot) : Journal where
  entries := journal.entries.push { step := journal.next, rule, ip, instruction, snapshot }
  next := journal.next + 1

/-- The rule of the first entry. -/
def seedRule : String := "SEED"

/-- The journal before the first step. -/
def seeded : Journal :=
  ({} : Journal).record seedRule none (some "<seed>") none

def last? (journal : Journal) : Option Entry :=
  journal.entries.back?

end Journal

end LineScript
