/-!
The first occurrence of a mark in a text. Main statement: the parts found around it make up the
text again.
-/

namespace LineScript.Text

/-- The parts before and after the first occurrence of a mark. The empty mark occurs at the
start. -/
def splitAtFirst? (mark : List Char) : List Char → Option (List Char × List Char)
  | [] => if mark.isEmpty then some ([], []) else none
  | char :: rest =>
    if mark.isPrefixOf (char :: rest) then some ([], (char :: rest).drop mark.length)
    else (splitAtFirst? mark rest).map fun (before, after) => (char :: before, after)

theorem append_of_splitAtFirst? {mark text before after : List Char}
    (found : splitAtFirst? mark text = some (before, after)) :
    text = before ++ mark ++ after := by
  induction text generalizing before with
  | nil =>
    simp only [splitAtFirst?] at found
    split at found <;> simp_all
  | cons char rest inductionHypothesis =>
    simp only [splitAtFirst?] at found
    split at found
    · rename_i here
      obtain ⟨tail, same⟩ := List.isPrefixOf_iff_prefix.mp here
      simp only [Option.some.injEq, Prod.mk.injEq] at found
      obtain ⟨rfl, rfl⟩ := found
      simp [← same]
    · simp only [Option.map_eq_some_iff, Prod.mk.injEq, Prod.exists] at found
      obtain ⟨shorter, _, later, rfl, rfl⟩ := found
      simp [inductionHypothesis later]

end LineScript.Text
