import LineScript.Proofs.Listing.RoundTrip
import Mathlib.Data.List.Infix

/-!
Segments may stand in either order, with any unmarked text around and between them. Two marks
overlap only where they coincide, so no mark stands across the border of a mark and unmarked text.
-/

namespace LineScript.Segment

variable {mark other tail text rest : List Char}

private theorem marks_apart : ∀ mark ∈ marks, ∀ other ∈ marks, ∀ tail ∈ mark.tails, tail ≠ [] →
    tail <+: other ∨ other <+: tail → tail = mark ∧ other = mark := by
  decide +kernel

/-- A tail of a mark that agrees with another mark, as far as both of them go, is all of that
mark. -/
theorem eq_of_overlap (member : mark ∈ marks) (present : other ∈ marks) (ends : tail <:+ mark)
    (nonempty : tail ≠ []) (agrees : tail <+: other ∨ other <+: tail) :
    tail = mark ∧ other = mark :=
  marks_apart mark member other present tail ((List.mem_tails tail mark).mpr ends) nonempty agrees

/-- No mark begins in unmarked text that another mark follows. -/
theorem not_isPrefix_of_unmarked (member : mark ∈ marks) (present : other ∈ marks)
    (unmarked : ¬ HoldsMark text) (ends : tail <:+ text) (nonempty : tail ≠ []) :
    ¬ mark <+: tail ++ (other ++ rest) := by
  intro begins
  have held (inside : mark <+: tail) : False :=
    unmarked ⟨mark, member, inside.isInfix.trans ends.isInfix⟩
  rcases List.prefix_or_prefix_of_prefix begins (List.prefix_append tail _) with inside | across
  · exact held inside
  · obtain ⟨remainder, rfl⟩ := across
    have agrees := List.prefix_or_prefix_of_prefix ((List.prefix_append_right_inj tail).mp begins)
      (List.prefix_append other rest)
    have overlap : remainder ≠ [] := by
      rintro rfl
      exact held (by simp)
    obtain ⟨whole, -⟩ :=
      eq_of_overlap member present (List.suffix_append tail remainder) overlap agrees
    exact nonempty (List.self_eq_append_left.mp whole)

/-- No mark begins in another mark. -/
theorem not_isPrefix_of_mark (member : mark ∈ marks) (present : other ∈ marks)
    (apart : mark ≠ other)
    (ends : tail <:+ other) (nonempty : tail ≠ []) : ¬ mark <+: tail ++ rest := by
  intro begins
  have agrees := List.prefix_or_prefix_of_prefix (List.prefix_append tail rest) begins
  exact apart (eq_of_overlap present member ends nonempty agrees).2

/-- The search for a mark passes over unmarked text before a mark. -/
theorem splitAtFirst?_unmarked (member : mark ∈ marks) (present : other ∈ marks)
    (unmarked : ¬ HoldsMark text) :
    Text.splitAtFirst? mark (text ++ (other ++ rest)) =
      (Text.splitAtFirst? mark (other ++ rest)).map fun (before, after) =>
        (text ++ before, after) :=
  Text.splitAtFirst?_append fun _ nonempty ends =>
    not_isPrefix_of_unmarked member present unmarked ends nonempty

/-- The search for a mark passes over another mark. -/
theorem splitAtFirst?_other (member : mark ∈ marks) (present : other ∈ marks)
    (apart : mark ≠ other) :
    Text.splitAtFirst? mark (other ++ rest) =
      (Text.splitAtFirst? mark rest).map fun (before, after) => (other ++ before, after) :=
  Text.splitAtFirst?_append fun _ nonempty ends =>
    not_isPrefix_of_mark member present apart ends nonempty

/-- The search for a mark ends at the mark that follows unmarked text. -/
theorem splitAtFirst?_unmarked_mark (member : mark ∈ marks) (unmarked : ¬ HoldsMark text) :
    Text.splitAtFirst? mark (text ++ (mark ++ rest)) = some (text, rest) := by
  rw [splitAtFirst?_unmarked member member unmarked, Text.splitAtFirst?_mark]
  simp

end LineScript.Segment

namespace LineScript.Listing

open Segment

variable {kind other : Kind} {before between body skipped after : String}

/-- A text between the marks of a kind. -/
def enclose (kind : Kind) (body : String) : String :=
  kind.frame.opening ++ body ++ kind.frame.closing

theorem frames_apart (apart : kind ≠ other) :
    kind.frame.opening.toList ≠ other.frame.opening.toList ∧
      kind.frame.opening.toList ≠ other.frame.closing.toList := by
  revert apart
  cases kind <;> cases other <;> decide

/-- The first segment is found behind the text before it. -/
theorem extract_first (leading : ¬ HoldsMark before.toList) (inside : ¬ HoldsMark body.toList) :
    Segment.extract kind (before ++ enclose kind body ++ after) = .ok body := by
  have begins : Text.splitAtFirst? kind.frame.opening.toList
      (before ++ enclose kind body ++ after).toList =
        some (before.toList, body.toList ++ (kind.frame.closing.toList ++ after.toList)) := by
    simpa [enclose] using splitAtFirst?_unmarked_mark (opening_mem_marks kind) leading
  have ends : Text.splitAtFirst? kind.frame.closing.toList
      (body.toList ++ (kind.frame.closing.toList ++ after.toList)) =
        some (body.toList, after.toList) :=
    splitAtFirst?_unmarked_mark (closing_mem_marks kind) inside
  rw [extract_of_splitAtFirst? begins ends, String.ofList_toList]

/-- The second segment is found behind all of the first. -/
theorem extract_second (apart : kind ≠ other) (leading : ¬ HoldsMark before.toList)
    (passed : ¬ HoldsMark skipped.toList) (middle : ¬ HoldsMark between.toList)
    (inside : ¬ HoldsMark body.toList) :
    Segment.extract kind
      (before ++ enclose other skipped ++ between ++ enclose kind body ++ after) = .ok body := by
  obtain ⟨opening, closing⟩ := frames_apart apart
  have member := opening_mem_marks kind
  have begins : ∃ passed, Text.splitAtFirst? kind.frame.opening.toList
      (before ++ enclose other skipped ++ between ++ enclose kind body ++ after).toList =
        some (passed, body.toList ++ (kind.frame.closing.toList ++ after.toList)) := by
    simp only [enclose, String.toList_append, List.append_assoc]
    rw [splitAtFirst?_unmarked member (opening_mem_marks other) leading,
      splitAtFirst?_other member (opening_mem_marks other) opening,
      splitAtFirst?_unmarked member (closing_mem_marks other) passed,
      splitAtFirst?_other member (closing_mem_marks other) closing,
      splitAtFirst?_unmarked_mark member middle]
    exact ⟨_, rfl⟩
  obtain ⟨whole, begins⟩ := begins
  have ends : Text.splitAtFirst? kind.frame.closing.toList
      (body.toList ++ (kind.frame.closing.toList ++ after.toList)) =
        some (body.toList, after.toList) :=
    splitAtFirst?_unmarked_mark (closing_mem_marks kind) inside
  rw [extract_of_splitAtFirst? begins ends, String.ofList_toList]

/-- The listing of two segment texts: registers are read before code. -/
def ofSegments (registers code : String) : Except LoadFailure Listing := do
  let values ← Segment.loadRegisters registers
  let statements ← Segment.loadCode code
  return { registers := values, statements }

theorem ofSource_of_extract {source registers code : String}
    (first : Segment.extract .register source = .ok registers)
    (second : Segment.extract .code source = .ok code) :
    ofSource source = ofSegments registers code := by
  rw [ofSource, first, ok_bind, second, ok_bind]
  rfl

/-- A source reads the same whichever of its segments comes first, and as the two segment texts read
by themselves; the text around them does not count. -/
theorem ofSource_either_order (before between after registers code : String)
    (unmarked : ∀ text ∈ [before, between, after, registers, code], ¬ HoldsMark text.toList) :
    ofSource (before ++ enclose .register registers ++ between ++ enclose .code code ++ after) =
        ofSegments registers code ∧
      ofSource (before ++ enclose .code code ++ between ++ enclose .register registers ++ after) =
        ofSegments registers code := by
  have leading : ¬ HoldsMark before.toList := unmarked before (by simp)
  have middle : ¬ HoldsMark between.toList := unmarked between (by simp)
  have values : ¬ HoldsMark registers.toList := unmarked registers (by simp)
  have statements : ¬ HoldsMark code.toList := unmarked code (by simp)
  constructor
  · have first : Segment.extract .register
        (before ++ enclose .register registers ++ between ++ enclose .code code ++ after) =
          .ok registers := by
      rw [String.append_assoc, String.append_assoc]
      exact extract_first leading values
    exact ofSource_of_extract first (extract_second (by decide) leading values middle statements)
  · have second : Segment.extract .code
        (before ++ enclose .code code ++ between ++ enclose .register registers ++ after) =
          .ok code := by
      rw [String.append_assoc, String.append_assoc]
      exact extract_first leading statements
    exact ofSource_of_extract (extract_second (by decide) leading statements middle values) second

/-- The text around the segments may come as close to a mark as it likes. -/
theorem nearMarks_either_order :
    (∀ text ∈ ["BEGIN_CODE_SEGMEN", "T END_", "END_REGISTER_SEGMEN", "\n0 5\n", "\n0 quit\n"],
      ¬ HoldsMark text.toList) ∧
    ofSource ("BEGIN_CODE_SEGMEN" ++ enclose .register "\n0 5\n" ++ "T END_" ++
        enclose .code "\n0 quit\n" ++ "END_REGISTER_SEGMEN") = .ok ⟨["5"], ["quit"]⟩ ∧
    ofSource ("BEGIN_CODE_SEGMEN" ++ enclose .code "\n0 quit\n" ++ "T END_" ++
        enclose .register "\n0 5\n" ++ "END_REGISTER_SEGMEN") = .ok ⟨["5"], ["quit"]⟩ := by
  have unmarked : ∀ text ∈
      ["BEGIN_CODE_SEGMEN", "T END_", "END_REGISTER_SEGMEN", "\n0 5\n", "\n0 quit\n"],
      ¬ HoldsMark text.toList := by
    simp only [HoldsMark]
    decide +kernel
  have read : ofSegments "\n0 5\n" "\n0 quit\n" = .ok ⟨["5"], ["quit"]⟩ := by
    decide +kernel
  obtain ⟨first, second⟩ := ofSource_either_order _ _ _ _ _ unmarked
  exact ⟨unmarked, first.trans read, second.trans read⟩

end LineScript.Listing
