import LineScript.Proofs.Listing.RoundTrip
import LineScript.Proofs.Segment.Contents
import Mathlib.Data.List.Infix

/-!
Texts whose carriage returns all stand before line feeds. If the carriage returns are dropped, the
lines stay the same, and so do the places of marks between them; a source with such breaks is loaded
like the one with line feeds alone.
-/

namespace LineScript.Text

variable {text before after mark : List Char} {char : Char}

/-- Every carriage return stands right before a line feed. -/
def Paired (text : List Char) : Prop :=
  ∀ before after, text = before ++ '\r' :: after → after.head? = some '\n'

instance (text : List Char) : Decidable (Paired text) :=
  decidable_of_iff (∀ tail ∈ text.tails, tail.head? = some '\r' → tail.tail.head? = some '\n') <| by
    simp only [List.mem_tails]
    constructor
    · rintro checked before after rfl
      exact checked ('\r' :: after) (List.suffix_append _ _) rfl
    · rintro paired tail ⟨before, rfl⟩ begins
      obtain ⟨after, rfl⟩ := List.head?_eq_some_iff.mp begins
      exact paired before after rfl

/-- Every carriage return with a line feed as the line feed alone. -/
def joinBreaks : List Char → List Char
  | [] => []
  | '\r' :: '\n' :: rest => '\n' :: joinBreaks rest
  | char :: rest => char :: joinBreaks rest

theorem Paired.right (paired : Paired (before ++ after)) : Paired after := by
  rintro first rest rfl
  exact paired (before ++ first) rest (List.append_assoc ..).symm

theorem Paired.tail (paired : Paired (char :: after)) : Paired after :=
  (show Paired ([char] ++ after) from paired).right

/-- What stands before a text that begins with no line feed has its carriage returns paired by
itself. -/
theorem Paired.left (paired : Paired (before ++ after)) (begins : after.head? ≠ some '\n') :
    Paired before := by
  rintro first rest rfl
  have next := paired first (rest ++ after) (by simp)
  cases rest with
  | nil => exact absurd next begins
  | cons char rest => exact next

theorem Paired.ne_return (paired : Paired (char :: after))
    (single : ∀ rest, char = '\r' → after = '\n' :: rest → False) : char ≠ '\r' := by
  rintro rfl
  obtain ⟨rest, same⟩ := List.head?_eq_some_iff.mp (paired [] after rfl)
  exact single rest rfl same

theorem unifyBreaks_of_paired (paired : Paired text) : unifyBreaks text = joinBreaks text := by
  fun_induction joinBreaks text with
  | case1 => rfl
  | case2 rest ih => rw [unifyBreaks, ih paired.tail.tail]
  | case3 char rest single ih =>
    rw [unifyBreaks.eq_3 _ _ single, if_neg (paired.ne_return single), ih paired.tail]

theorem lines_joinBreaks (paired : Paired text) : lines (joinBreaks text) = lines text := by
  fun_induction joinBreaks text with
  | case1 => rfl
  | case2 rest ih =>
    rw [lines.eq_3 _ _ fun _ same => absurd same (by decide), if_pos rfl, lines.eq_2,
      ih paired.tail.tail]
  | case3 char rest single ih =>
    have plain := paired.ne_return single
    rw [lines.eq_3 _ _ single, lines.eq_3 _ _ fun _ same => absurd same plain, ih paired.tail]

theorem joinBreaks_append (plain : '\r' ∉ before) :
    joinBreaks (before ++ after) = before ++ joinBreaks after := by
  induction before with
  | nil => rfl
  | cons char rest ih =>
    obtain ⟨here, later⟩ := not_or.mp (mt List.mem_cons.mpr plain)
    rw [List.cons_append, joinBreaks.eq_3 _ _ fun _ same => absurd same.symm here, ih later]
    rfl

/-- Dropping carriage returns neither makes nor breaks a mark that holds no part of a line break. -/
theorem prefix_joinBreaks_iff (solid : '\r' ∉ mark) (plain : '\n' ∉ mark) :
    mark <+: joinBreaks text ↔ mark <+: text := by
  fun_induction joinBreaks text generalizing mark with
  | case1 => rfl
  | case2 rest ih =>
    cases mark with
    | nil => exact ⟨fun _ => List.nil_prefix, fun _ => List.nil_prefix⟩
    | cons first mark =>
      rw [List.cons_prefix_cons, List.cons_prefix_cons]
      constructor
      · rintro ⟨rfl, -⟩
        exact absurd List.mem_cons_self plain
      · rintro ⟨rfl, -⟩
        exact absurd List.mem_cons_self solid
  | case3 char rest single ih =>
    cases mark with
    | nil => exact ⟨fun _ => List.nil_prefix, fun _ => List.nil_prefix⟩
    | cons first mark =>
      rw [List.cons_prefix_cons, List.cons_prefix_cons, ih (List.not_mem_of_not_mem_cons solid)
        (List.not_mem_of_not_mem_cons plain)]

theorem splitAtFirst?_cons (absent : ¬ mark <+: char :: after) :
    splitAtFirst? mark (char :: after) =
      (splitAtFirst? mark after).map fun (before, after) => (char :: before, after) := by
  rw [splitAtFirst?, if_neg (mt List.isPrefixOf_iff_prefix.mp absent)]

/-- A mark that holds no part of a line break is found in the same place. -/
theorem splitAtFirst?_joinBreaks (nonempty : mark ≠ []) (solid : '\r' ∉ mark) (plain : '\n' ∉ mark)
    (paired : Paired text) :
    splitAtFirst? mark (joinBreaks text) =
      (splitAtFirst? mark text).map fun (before, after) =>
        (joinBreaks before, joinBreaks after) := by
  obtain ⟨first, others, rfl⟩ := List.exists_cons_of_ne_nil nonempty
  have apart {char : Char} {after : List Char} (absent : char ∉ first :: others) :
      ¬ first :: others <+: char :: after := fun begins =>
    absent ((List.cons_prefix_cons.mp begins).1 ▸ List.mem_cons_self)
  fun_induction joinBreaks text with
  | case1 => rfl
  | case2 rest ih =>
    rw [splitAtFirst?_cons (apart plain), splitAtFirst?_cons (apart solid),
      splitAtFirst?_cons (apart plain),
      ih paired.tail.tail, Option.map_map, Option.map_map, Option.map_map]
    rfl
  | case3 char rest single ih =>
    by_cases here : first :: others <+: char :: rest
    · obtain ⟨tail, same⟩ := here
      rw [← joinBreaks.eq_3 _ _ single, ← same, joinBreaks_append solid, splitAtFirst?_mark,
        splitAtFirst?_mark]
      rfl
    · have absent : ¬ first :: others <+: char :: joinBreaks rest := by
        rw [← joinBreaks.eq_3 _ _ single, prefix_joinBreaks_iff solid plain]
        exact here
      rw [splitAtFirst?_cons absent, splitAtFirst?_cons here, ih paired.tail, Option.map_map,
        Option.map_map]
      refine congrArg (Option.map · _) (funext fun (before, after) => ?_)
      have head : joinBreaks (char :: before) = char :: joinBreaks before :=
        joinBreaks.eq_3 _ _ fun _ same => absurd same (paired.ne_return single)
      simp only [Function.comp_apply, head]

end LineScript.Text

namespace LineScript.Segment

open Text

variable {kind : Kind} {pattern : Pattern}

theorem return_not_mem_of_mem_marks {mark : List Char} (member : mark ∈ marks) : '\r' ∉ mark := by
  revert mark
  decide

theorem ne_nil_of_mem_marks {mark : List Char} (member : mark ∈ marks) : mark ≠ [] := by
  revert mark
  decide

theorem load_joinBreaks {body : List Char} (paired : Paired body) :
    load kind pattern (String.ofList (joinBreaks body)) =
      load kind pattern (String.ofList body) := by
  apply load_congr
  rw [String.toList_ofList, String.toList_ofList, contents, contents, inked, inked,
    lines_joinBreaks paired]

/-- The segment of a kind is found in the same place, or missing for the same reason. -/
theorem extract_joinBreaks {text : List Char} (paired : Paired text) (kind : Kind) :
    (∃ failure, extract kind (String.ofList text) = .error failure ∧
        extract kind (String.ofList (joinBreaks text)) = .error failure) ∨
      ∃ body, Paired body ∧ extract kind (String.ofList text) = .ok (String.ofList body) ∧
        extract kind (String.ofList (joinBreaks text)) = .ok (String.ofList (joinBreaks body)) := by
  have search {mark text : List Char} (member : mark ∈ marks) (paired : Paired text) :=
    splitAtFirst?_joinBreaks (ne_nil_of_mem_marks member) (return_not_mem_of_mem_marks member)
      (break_not_mem_of_mem_marks member) paired
  have opening := search (Listing.opening_mem_marks kind) paired
  rw [extract, extract, Frame.extract, Frame.extract, String.toList_ofList, String.toList_ofList,
    opening]
  cases begins : splitAtFirst? kind.frame.opening.toList text with
  | none => exact .inl ⟨_, rfl, rfl⟩
  | some parts =>
    obtain ⟨before, inside⟩ := parts
    have paired : Paired inside := (append_of_splitAtFirst? begins ▸ paired).right
    have closing := search (Listing.closing_mem_marks kind) paired
    simp only [Option.map_some, closing]
    cases ends : splitAtFirst? kind.frame.closing.toList inside with
    | none => exact .inl ⟨_, rfl, rfl⟩
    | some parts =>
      obtain ⟨body, after⟩ := parts
      have whole := append_of_splitAtFirst? ends
      rw [List.append_assoc] at whole
      have solid : (kind.frame.closing.toList ++ after).head? ≠ some '\n' := by
        intro same
        cases kind <;> cases same
      exact .inr ⟨body, (whole ▸ paired).left solid, rfl, rfl⟩

end LineScript.Segment

namespace LineScript.Listing

open Text

/-- A source whose carriage returns all stand before line feeds is loaded, or refused, like the
source without them. -/
theorem ofSource_joinBreaks {text : List Char} (paired : Paired text) :
    ofSource (String.ofList (joinBreaks text)) = ofSource (String.ofList text) := by
  rw [ofSource, ofSource]
  rcases Segment.extract_joinBreaks paired .register with ⟨failure, plain, joined⟩ |
    ⟨registers, first, plain, joined⟩
  · rw [plain, joined]
    rfl
  rw [plain, joined, ok_bind, ok_bind]
  rcases Segment.extract_joinBreaks paired .code with ⟨failure, plain, joined⟩ |
    ⟨code, second, plain, joined⟩
  · rw [plain, joined]
    rfl
  rw [plain, joined, ok_bind, ok_bind, Segment.loadRegisters, Segment.loadRegisters,
    Segment.load_joinBreaks first]
  simp only [Segment.loadCode, Segment.load_joinBreaks second]

end LineScript.Listing
