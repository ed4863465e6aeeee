import LineScript.Proofs.Text.Classes
import LineScript.Text.Lines
import Mathlib.Data.List.Forall2

/-!
Lines beside the stretches between line feeds. Line by line they differ by one carriage return at
the end, and a text is blank when its lines are.
-/

namespace LineScript.Text

variable {text line : List Char}

theorem lines_ne_nil (text : List Char) : lines text ≠ [] := by
  fun_cases lines text with
  | case1 => simp
  | case2 rest => simp
  | case3 rest single => simp
  | case4 char rest single plain => cases lines rest <;> simp [pushFirst]

theorem pushFirst_lines (char : Char) (text : List Char) :
    pushFirst char (lines text) = (lines text).modifyHead (char :: ·) := by
  cases split : lines text with
  | nil => exact absurd split (lines_ne_nil text)
  | cons first more => rfl

/-- A stretch between line feeds is a line, or a line with one carriage return more. -/
def Beside (line stretch : List Char) : Prop :=
  stretch = line ∨ stretch = line ++ ['\r']

private theorem beside_cons {lines stretches : List (List Char)} (char : Char)
    (beside : List.Forall₂ Beside lines stretches) :
    List.Forall₂ Beside (lines.modifyHead (char :: ·)) (stretches.modifyHead (char :: ·)) := by
  cases beside with
  | nil => exact .nil
  | cons first more =>
    refine .cons ?_ more
    rcases first with rfl | rfl
    · exact .inl rfl
    · exact .inr rfl

theorem lines_beside_stretches (text : List Char) :
    List.Forall₂ Beside (lines text) (text.splitOn '\n') := by
  fun_induction lines text with
  | case1 => exact .cons (.inl rfl) .nil
  | case2 rest ih =>
    simp only [List.splitOn_cons_eq_if_modifyHead]
    exact .cons (.inr rfl) ih
  | case3 rest single ih =>
    rw [List.splitOn_cons_eq_if_modifyHead]
    exact .cons (.inl rfl) ih
  | case4 char rest single plain ih =>
    rw [List.splitOn_cons_eq_if_modifyHead, if_neg (by simpa using plain), pushFirst_lines]
    exact beside_cons char ih

/-- The lines of a text, one character longer, when that character ends no line. -/
theorem mem_pushFirst_lines {char : Char} (member : line ∈ pushFirst char (lines text)) :
    ∃ before ∈ lines text, line = before ∨ line = char :: before := by
  cases split : lines text with
  | nil => exact absurd split (lines_ne_nil text)
  | cons first more =>
    rw [split] at member
    rcases List.mem_cons.mp member with rfl | later
    · exact ⟨first, List.mem_cons_self, .inr rfl⟩
    · exact ⟨line, List.mem_cons_of_mem _ later, .inl rfl⟩

theorem break_not_mem_of_mem_lines (member : line ∈ lines text) : '\n' ∉ line := by
  fun_induction lines text generalizing line with
  | case1 => simp_all
  | case2 rest ih =>
    rcases List.mem_cons.mp member with rfl | later
    · simp
    · exact ih later
  | case3 rest single ih =>
    rcases List.mem_cons.mp member with rfl | later
    · simp
    · exact ih later
  | case4 char rest single plain ih =>
    obtain ⟨before, present, rfl | rfl⟩ := mem_pushFirst_lines member
    · exact ih present
    · simpa [Ne.symm plain] using ih present

theorem mem_of_mem_lines {char : Char} (present : line ∈ lines text) (member : char ∈ line) :
    char ∈ text := by
  fun_induction lines text generalizing line with
  | case1 =>
    obtain rfl := List.mem_singleton.mp present
    exact member
  | case2 rest ih =>
    rcases List.mem_cons.mp present with rfl | later
    · cases member
    · exact List.mem_cons_of_mem _ (List.mem_cons_of_mem _ (ih later member))
  | case3 rest single ih =>
    rcases List.mem_cons.mp present with rfl | later
    · cases member
    · exact List.mem_cons_of_mem _ (ih later member)
  | case4 char rest single plain ih =>
    obtain ⟨before, inside, rfl | rfl⟩ := mem_pushFirst_lines present
    · exact List.mem_cons_of_mem _ (ih inside member)
    · rcases List.mem_cons.mp member with rfl | later
      · exact List.mem_cons_self
      · exact List.mem_cons_of_mem _ (ih inside later)

/-- A line without breaks comes first when a line feed follows it. -/
theorem lines_append_break (plain : '\n' ∉ line) (closed : line.getLast? ≠ some '\r') :
    lines (line ++ '\n' :: text) = line :: lines text := by
  induction line with
  | nil => simp [lines]
  | cons char rest ih =>
    obtain ⟨here, later⟩ : '\n' ≠ char ∧ '\n' ∉ rest := by simpa using plain
    have single : ∀ tail, char = '\r' → rest ++ '\n' :: text = '\n' :: tail → False := by
      intro tail back feed
      cases rest with
      | nil => exact closed (by simp [back])
      | cons next rest =>
        have same : next = '\n' := (List.cons.inj feed).1
        simp [same] at later
    rw [List.cons_append, lines.eq_3 _ _ single, if_neg (Ne.symm here), ih later, pushFirst]
    cases rest with
    | nil => simp
    | cons next rest => simpa using closed

theorem all_isBlank_lines (text : List Char) :
    (lines text).all (List.all · isBlank) = text.all isBlank := by
  fun_induction lines text with
  | case1 => simp
  | case2 rest ih =>
    have feed : isBlank '\n' = true := by decide
    have back : isBlank '\r' = true := by decide
    simp [feed, back, ← ih]
  | case3 rest single ih =>
    have feed : isBlank '\n' = true := by decide
    simp [feed, ← ih]
  | case4 char rest single plain ih =>
    rw [List.all_cons, ← ih]
    cases split : lines rest with
    | nil => exact absurd split (lines_ne_nil rest)
    | cons first more => simp [pushFirst, Bool.and_assoc]

end LineScript.Text
