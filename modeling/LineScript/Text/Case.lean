import LineScript.Text.CaseRanges

/-!
Capitalised words: the first character in title case, all others in lower case. A capital sigma that
ends a word becomes a final sigma.
-/

namespace LineScript.Text

/-- The image of a code point under the first run that holds it, else the code point itself. -/
def CaseRun.apply (runs : List CaseRun) (point : Nat) : Nat :=
  match runs.find? fun run =>
    run.first ≤ point && point ≤ run.last && (point - run.first) % run.step == 0 with
  | some run => (point + run.shift).toNat
  | none => point

def titleCase (char : Char) : List Char :=
  match titleExpansions.lookup char.toNat with
  | some points => points.map Char.ofNat
  | none => [Char.ofNat (CaseRun.apply titleRuns char.toNat)]

/-- Lower case away from any neighbours; the dotted capital I leaves its dot behind. -/
def lowerCase (char : Char) : List Char :=
  if char.toNat = 0x130 then ['i', Char.ofNat 0x307]
  else [Char.ofNat (CaseRun.apply lowerRuns char.toNat)]

def meetsCased (text : List Char) : Bool :=
  ((text.dropWhile fun char => RangeTable.contains ignorableRanges char.toNat).head?).any
    fun char => RangeTable.contains casedRanges char.toNat

/-- Whether a word ends between the characters before, nearest first, and those after. -/
def endsWord (before after : List Char) : Bool :=
  meetsCased before && !meetsCased after

/-- Lower case of a text, given the characters before it, nearest first. -/
def lowerCaseAfter (before : List Char) : List Char → List Char
  | [] => []
  | char :: rest =>
    (if char = 'Σ' then [if endsWord before rest then 'ς' else 'σ'] else lowerCase char) ++
      lowerCaseAfter (char :: before) rest

def capitalize (text : String) : String :=
  match text.toList with
  | [] => ""
  | first :: rest => String.ofList (titleCase first ++ lowerCaseAfter [first] rest)

end LineScript.Text
