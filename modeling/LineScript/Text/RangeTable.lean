/-!
Sets of code points, given by ascending ranges.
-/

namespace LineScript.Text

/-- Ranges of code points, both ends included, in ascending order. -/
abbrev RangeTable := List (Nat × Nat)

/-- Membership; the search ends at the first range above the code point. -/
def RangeTable.contains : RangeTable → Nat → Bool
  | [], _ => false
  | (first, last) :: rest, point =>
    if point < first then false else point ≤ last || RangeTable.contains rest point

/-- What a table contains lies in one of its ranges. -/
theorem RangeTable.exists_of_contains {table : RangeTable} {point : Nat}
    (found : RangeTable.contains table point = true) :
    ∃ range ∈ table, range.1 ≤ point ∧ point ≤ range.2 := by
  induction table with
  | nil => simp [contains] at found
  | cons range rest inductionHypothesis =>
    obtain ⟨first, last⟩ := range
    simp only [contains] at found
    split at found
    · contradiction
    · rename_i above
      rcases Bool.or_eq_true_iff.mp found with here | later
      · exact ⟨(first, last), List.mem_cons_self, by omega, of_decide_eq_true here⟩
      · obtain ⟨range, member, bounds⟩ := inductionHypothesis later
        exact ⟨range, List.mem_cons_of_mem _ member, bounds⟩

end LineScript.Text
