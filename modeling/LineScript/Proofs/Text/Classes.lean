import LineScript.Segment.Line

/-!
Which classes of characters meet. White space shares no character with words, so it ends every run
of digits or word characters.
-/

namespace LineScript.Text

theorem RangeTable.contains_eq_false {table other : RangeTable} {point : Nat}
    (apart : ∀ range ∈ table, ∀ beside ∈ other, range.2 < beside.1 ∨ beside.2 < range.1)
    (found : RangeTable.contains table point = true) :
    RangeTable.contains other point = false := by
  apply Bool.eq_false_iff.mpr
  intro again
  obtain ⟨range, member, bounds⟩ := exists_of_contains found
  obtain ⟨beside, present, besideBounds⟩ := exists_of_contains again
  have separate := apart range member beside present
  omega

private theorem blankRanges_apart : ∀ range ∈ blankRanges, ∀ beside ∈ wordRanges,
    range.2 < beside.1 ∨ beside.2 < range.1 := by
  decide +kernel

private theorem blankRanges_apart_zeros : ∀ range ∈ blankRanges, ∀ start ∈ digitZeros,
    range.2 < start ∨ start + 10 ≤ range.1 := by
  decide +kernel

theorem isDigit_of_isBlank {char : Char} (blank : isBlank char = true) : isDigit char = false := by
  obtain ⟨range, member, bounds⟩ := RangeTable.exists_of_contains blank
  simp only [isDigit, digitValue?, Option.isSome_map, Option.isSome_eq_false_iff,
    Option.isNone_iff_eq_none, List.find?_eq_none, Bool.and_eq_true, decide_eq_true_eq, not_and]
  intro start present lower
  have separate := blankRanges_apart_zeros range member start present
  omega

theorem isWord_of_isBlank {char : Char} (blank : isBlank char = true) : isWord char = false := by
  have letters := RangeTable.contains_eq_false blankRanges_apart blank
  have line : char ≠ '_' := by
    rintro rfl
    revert blank
    decide
  simp [isWord, isDigit_of_isBlank blank, letters, line]

theorem isBlank_of_isWord {char : Char} (word : isWord char = true) : isBlank char = false := by
  cases blank : isBlank char with
  | false => rfl
  | true => rw [isWord_of_isBlank blank] at word; contradiction

theorem isBlank_of_isDigit {char : Char} (digit : isDigit char = true) : isBlank char = false :=
  isBlank_of_isWord (isWord_of_isDigit digit)

end LineScript.Text

namespace LineScript.Segment

theorem isBlank_of_isFiller {char : Char} (filler : isFiller char = true) :
    Text.isBlank char = true := by
  simp only [isFiller, isGap, Bool.or_eq_true, beq_iff_eq] at filler
  rcases filler with (rfl | rfl) | rfl <;> decide

theorem isFiller_of_isGap {char : Char} (gap : isGap char = true) : isFiller char = true := by
  simp [isFiller, gap]

theorem isFiller_of_isWord {char : Char} (word : Text.isWord char = true) :
    isFiller char = false := by
  cases filler : isFiller char with
  | false => rfl
  | true => rw [Text.isWord_of_isBlank (isBlank_of_isFiller filler)] at word; contradiction

theorem isDigit_of_isGap {char : Char} (gap : isGap char = true) : Text.isDigit char = false :=
  Text.isDigit_of_isBlank (isBlank_of_isFiller (isFiller_of_isGap gap))

end LineScript.Segment
