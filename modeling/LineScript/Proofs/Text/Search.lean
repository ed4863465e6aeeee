import LineScript.Text.Search

/-!
Searching a text for marks that hold no line feed. A line without the mark is passed over whole,
since no occurrence goes across its end.
-/

namespace LineScript.Text

variable {mark text before after : List Char} {separator : Char}

/-- A mark that begins before a character it does not hold also ends before it. -/
theorem isPrefix_of_append_cons (absent : separator ∉ mark)
    (begins : mark <+: before ++ separator :: after) : mark <+: before := by
  rcases Nat.lt_or_ge before.length mark.length with longer | shorter
  · have inside : before ++ [separator] <+: mark :=
      List.prefix_of_prefix_length_le ⟨after, by simp⟩ begins
        (by simpa using Nat.succ_le_of_lt longer)
    exact absurd (inside.subset (List.mem_append_right _ (List.mem_singleton_self separator)))
      absent
  · exact List.prefix_of_prefix_length_le begins (List.prefix_append _ _) shorter

theorem isInfix_append_cons_iff (absent : separator ∉ mark) :
    mark <:+: before ++ separator :: after ↔ mark <:+: before ∨ mark <:+: after := by
  constructor
  · intro occurs
    induction before with
    | nil =>
      rcases List.infix_cons_iff.mp occurs with here | later
      · exact .inl (isPrefix_of_append_cons absent here).isInfix
      · exact .inr later
    | cons char before ih =>
      rcases List.infix_cons_iff.mp occurs with here | later
      · exact .inl (isPrefix_of_append_cons absent here).isInfix
      · exact (ih later).imp_left fun inside => List.infix_cons inside
  · rintro (inside | later)
    · exact inside.trans (List.prefix_append _ _).isInfix
    · exact later.trans ⟨before ++ [separator], [], by simp⟩

/-- The search passes over a stretch in which no occurrence begins. -/
theorem splitAtFirst?_append {passed : List Char}
    (clear : ∀ tail, tail ≠ [] → tail <:+ passed → ¬ mark <+: tail ++ text) :
    splitAtFirst? mark (passed ++ text) =
      (splitAtFirst? mark text).map fun (before, after) => (passed ++ before, after) := by
  induction passed with
  | nil => simp
  | cons char passed ih =>
    have here : ¬ mark.isPrefixOf (char :: (passed ++ text)) = true := by
      rw [List.isPrefixOf_iff_prefix]
      exact clear (char :: passed) (List.cons_ne_nil char passed) (List.suffix_refl _)
    have later := ih fun tail nonempty ends =>
      clear tail nonempty (ends.trans (List.suffix_cons char passed))
    rw [List.cons_append, splitAtFirst?, if_neg here, later, Option.map_map]
    rfl

/-- The search passes over a line that does not hold the mark. -/
theorem splitAtFirst?_append_break {line : List Char} (plain : '\n' ∉ mark)
    (clean : ¬ mark <:+: line) :
    splitAtFirst? mark (line ++ '\n' :: text) =
      (splitAtFirst? mark text).map fun (before, after) => (line ++ '\n' :: before, after) := by
  have clear : ∀ tail, tail ≠ [] → tail <:+ line ++ ['\n'] → ¬ mark <+: tail ++ text := by
    intro tail nonempty ends begins
    obtain ⟨rest, rfl, inside⟩ := (List.suffix_concat_iff.mp ends).resolve_left nonempty
    rw [List.append_assoc, List.singleton_append] at begins
    exact clean ((isPrefix_of_append_cons plain begins).isInfix.trans inside.isInfix)
  simpa using splitAtFirst?_append clear

theorem splitAtFirst?_mark (mark text : List Char) :
    splitAtFirst? mark (mark ++ text) = some ([], text) := by
  cases whole : mark ++ text with
  | nil => simp_all [splitAtFirst?]
  | cons char rest =>
    have begins : mark.isPrefixOf (char :: rest) = true :=
      List.isPrefixOf_iff_prefix.mpr (whole ▸ List.prefix_append mark text)
    rw [splitAtFirst?, if_pos begins, ← whole, List.drop_left]

end LineScript.Text
