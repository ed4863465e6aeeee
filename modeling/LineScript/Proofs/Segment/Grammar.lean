import LineScript.Proofs.Text.Lines
import LineScript.Proofs.Text.Spans

/-!
The grammar of the lines of a segment, and the reader against it: a text without line feeds reads as
the one line that it writes, and as none if it writes none.
-/

namespace LineScript.Segment

/-- The payloads of a pattern: a word or a quoted text, or a statement, which neither begins with
white space nor ends in filler. -/
inductive Pattern.Allows : Pattern → List Char → Prop where
  | word {payload : List Char} (nonempty : payload ≠ [])
      (inside : ∀ char ∈ payload, Text.isWord char = true) : Allows .value payload
  | quoted {inner : List Char} (inside : ∀ char ∈ inner, isInner char = true) :
      Allows .value ('"' :: inner ++ ['"'])
  | statement {first : Char} {rest : List Char} (begins : Text.isBlank first = false)
      (ends : ∀ char, (first :: rest).getLast? = some char → isFiller char = false)
      (plain : '\n' ∉ first :: rest) : Allows .statement (first :: rest)

/-- A text writes a line: an index in digits, a gap, a payload, and filler to the end. -/
inductive Pattern.Writes (pattern : Pattern) : List Char → Line → Prop where
  | line {index gap payload filler : List Char} (indexed : index ≠ [])
      (digits : ∀ char ∈ index, Text.isDigit char = true) (parted : gap ≠ [])
      (gaps : ∀ char ∈ gap, isGap char = true) (allowed : pattern.Allows payload)
      (filled : ∀ char ∈ filler, isFiller char = true) :
      Writes pattern (index ++ gap ++ payload ++ filler) ⟨index, payload⟩

variable {pattern : Pattern} {text payload : List Char} {line : Line}

/-- The payload that a text carries before its filler. -/
def Pattern.Carries (pattern : Pattern) (text payload : List Char) : Prop :=
  pattern.Allows payload ∧ ∃ filler, text = payload ++ filler ∧
    ∀ char ∈ filler, isFiller char = true

private theorem valuePayload?_sound (read : valuePayload? text = some payload) :
    Pattern.Carries .value text payload := by
  unfold valuePayload? at read
  split at read
  · rename_i rest
    split at read
    · rename_i tail closing
      simp only [Option.ite_none_right_eq_some, List.all_eq_true, Option.some.injEq] at read
      obtain ⟨filled, rfl⟩ := read
      refine ⟨.quoted fun char member => List.mem_takeWhile_imp member, tail, ?_, filled⟩
      rw [List.append_assoc, List.cons_append, List.singleton_append, ← closing,
        List.takeWhile_append_dropWhile]
    · contradiction
  · simp only [Option.ite_none_right_eq_some, Bool.and_eq_true, Bool.not_eq_true',
      List.isEmpty_eq_false_iff, List.all_eq_true, Option.some.injEq] at read
    obtain ⟨⟨nonempty, filled⟩, rfl⟩ := read
    refine ⟨.word nonempty fun char member => List.mem_takeWhile_imp member,
      text.dropWhile Text.isWord, ?_, filled⟩
    exact List.takeWhile_append_dropWhile.symm

private theorem statementPayload?_sound (plain : '\n' ∉ text)
    (read : statementPayload? text = some payload) : Pattern.Carries .statement text payload := by
  unfold statementPayload? at read
  split at read
  · contradiction
  · rename_i first rest
    simp only [Option.ite_none_left_eq_some, Bool.not_eq_true, Option.some.injEq] at read
    obtain ⟨begins, rfl⟩ := read
    obtain ⟨filler, same, filled⟩ := Text.exists_trimEnd_append isFiller (first :: rest)
    cases kept : Text.trimEnd isFiller (first :: rest) with
    | nil =>
      rw [kept, List.nil_append] at same
      have trimmed : isFiller first = true := filled first (same ▸ List.mem_cons_self)
      rw [isBlank_of_isFiller trimmed] at begins
      contradiction
    | cons head tail =>
      rw [kept] at same
      obtain rfl : first = head := (List.cons.inj same).1
      refine ⟨.statement begins ?_ ?_, filler, same, filled⟩
      · intro char last
        exact Text.getLast?_trimEnd (kept ▸ last)
      · intro member
        exact plain (same ▸ List.mem_append_left filler member)

private theorem valuePayload?_complete (carried : Pattern.Carries .value text payload) :
    valuePayload? text = some payload := by
  obtain ⟨allowed, filler, rfl, filled⟩ := carried
  cases allowed with
  | word nonempty inside =>
    have stop : ∀ char, filler.head? = some char → Text.isWord char = false := by
      intro char head
      cases word : Text.isWord char with
      | false => rfl
      | true => simpa [filled char (List.mem_of_head? head)] using isFiller_of_isWord word
    unfold valuePayload?
    split
    · rename_i rest begins
      obtain ⟨first, payload, rfl⟩ := List.exists_cons_of_ne_nil nonempty
      have quote : first = '"' := (List.cons.inj begins).1
      have word := inside first List.mem_cons_self
      subst quote
      exact absurd word (by decide)
    · simp only [Text.takeWhile_run inside stop, Text.dropWhile_run inside stop]
      simpa [nonempty] using filled
  | @quoted inner inside =>
    have stop : ∀ char, ('"' :: filler).head? = some char → isInner char = false := by
      rintro char ⟨⟩
      decide
    have whole : '"' :: inner ++ ['"'] ++ filler = '"' :: (inner ++ '"' :: filler) := by simp
    simp only [whole, valuePayload?, Text.takeWhile_run inside stop, Text.dropWhile_run inside stop]
    simpa using filled

private theorem statementPayload?_complete (carried : Pattern.Carries .statement text payload) :
    statementPayload? text = some payload := by
  obtain ⟨allowed, filler, rfl, filled⟩ := carried
  cases allowed with
  | statement begins ends plain =>
    simp only [List.cons_append, statementPayload?, begins, Bool.false_eq_true, ↓reduceIte,
      Option.some.injEq]
    exact Text.trimEnd_append filled ends

theorem payload?_eq_some_iff (plain : '\n' ∉ text) :
    pattern.payload? text = some payload ↔ pattern.Carries text payload := by
  cases pattern with
  | value => exact ⟨valuePayload?_sound, valuePayload?_complete⟩
  | statement => exact ⟨statementPayload?_sound plain, statementPayload?_complete⟩

/-- A payload begins with no gap, so the gap before it is as long as it can be. -/
theorem Pattern.Allows.begins (allowed : pattern.Allows payload) :
    ∃ first, payload.head? = some first ∧ isGap first = false := by
  cases allowed with
  | word nonempty inside =>
    obtain ⟨first, rest, rfl⟩ := List.exists_cons_of_ne_nil nonempty
    have filler := isFiller_of_isWord (inside first List.mem_cons_self)
    exact ⟨first, rfl, by simpa using (Bool.or_eq_false_iff.mp filler).1⟩
  | quoted inside => exact ⟨'"', rfl, by decide⟩
  | @statement first rest begins ends plain =>
    refine ⟨first, rfl, ?_⟩
    cases gap : isGap first with
    | false => rfl
    | true => rw [isBlank_of_isFiller (isFiller_of_isGap gap)] at begins; contradiction

theorem Pattern.Allows.ends (allowed : pattern.Allows payload) :
    ∃ last, payload.getLast? = some last ∧ isFiller last = false := by
  cases allowed with
  | word nonempty inside =>
    refine ⟨payload.getLast nonempty, List.getLast?_eq_some_getLast nonempty, ?_⟩
    exact isFiller_of_isWord (inside _ (List.getLast_mem nonempty))
  | quoted inside => exact ⟨'"', List.getLast?_concat, by decide⟩
  | @statement first rest begins ends plain =>
    have last := List.getLast?_eq_some_getLast (List.cons_ne_nil first rest)
    exact ⟨_, last, ends _ last⟩

theorem Pattern.Allows.plain (allowed : pattern.Allows payload) : '\n' ∉ payload := by
  cases allowed with
  | word nonempty inside =>
    intro member
    exact absurd (inside _ member) (by decide)
  | quoted inside =>
    intro member
    simp only [List.cons_append, List.mem_cons, List.mem_append, List.not_mem_nil,
      or_false] at member
    rcases member with quote | inner | quote
    · exact absurd quote (by decide)
    · exact absurd (inside _ inner) (by decide)
    · exact absurd quote (by decide)
  | statement begins ends plain => exact plain

theorem Pattern.Writes.allows (written : pattern.Writes text line) :
    pattern.Allows line.payload := by
  cases written with
  | line _ _ _ _ allowed _ => exact allowed

/-- A text in the grammar is one line. -/
theorem Pattern.Writes.plain (written : pattern.Writes text line) : '\n' ∉ text := by
  cases written with
  | line indexed digits parted gaps allowed filled =>
    simp only [List.mem_append, not_or]
    refine ⟨⟨⟨?_, ?_⟩, allowed.plain⟩, ?_⟩
    · intro member
      exact absurd (digits _ member) (by decide)
    · intro member
      exact absurd (gaps _ member) (by decide)
    · intro member
      exact absurd (filled _ member) (by decide)

theorem Line.parse?_sound (plain : '\n' ∉ text) (read : Line.parse? pattern text = some line) :
    pattern.Writes text line := by
  simp only [Line.parse?, Option.ite_none_left_eq_some, Bool.or_eq_true, List.isEmpty_iff, not_or,
    Option.map_eq_some_iff] at read
  obtain ⟨⟨indexed, parted⟩, payload, found, rfl⟩ := read
  have inside : '\n' ∉ (text.dropWhile Text.isDigit).dropWhile isGap := by
    intro member
    exact plain ((List.dropWhile_sublist _).subset ((List.dropWhile_sublist _).subset member))
  obtain ⟨allowed, filler, same, filled⟩ := (payload?_eq_some_iff inside).mp found
  have whole : text.takeWhile Text.isDigit ++ (text.dropWhile Text.isDigit).takeWhile isGap ++
      payload ++ filler = text := by
    rw [List.append_assoc, List.append_assoc, ← same, List.takeWhile_append_dropWhile,
      List.takeWhile_append_dropWhile]
  have written : pattern.Writes (text.takeWhile Text.isDigit ++
      (text.dropWhile Text.isDigit).takeWhile isGap ++ payload ++ filler)
      ⟨text.takeWhile Text.isDigit, payload⟩ :=
    .line indexed (fun _ member => List.mem_takeWhile_imp member) parted
      (fun _ member => List.mem_takeWhile_imp member) allowed filled
  rwa [whole] at written

theorem Line.parse?_complete (written : pattern.Writes text line) :
    Line.parse? pattern text = some line := by
  have plain := written.plain
  cases written with
  | @line index gap payload filler indexed digits parted gaps allowed filled =>
    have afterIndex : ∀ char, (gap ++ (payload ++ filler)).head? = some char →
        Text.isDigit char = false := by
      obtain ⟨first, rest, rfl⟩ := List.exists_cons_of_ne_nil parted
      rintro char ⟨⟩
      exact isDigit_of_isGap (gaps first List.mem_cons_self)
    have afterGap : ∀ char, (payload ++ filler).head? = some char → isGap char = false := by
      obtain ⟨first, head, noGap⟩ := allowed.begins
      intro char found
      rw [List.head?_append, head, Option.some_or] at found
      exact Option.some.inj found ▸ noGap
    have inside : '\n' ∉ payload ++ filler := by
      intro member
      exact plain (by rw [List.append_assoc]; exact List.mem_append_right _ member)
    have read := (payload?_eq_some_iff inside).mpr ⟨allowed, filler, rfl, filled⟩
    simp only [Line.parse?, List.append_assoc, Text.takeWhile_run digits afterIndex,
      Text.dropWhile_run digits afterIndex, Text.takeWhile_run gaps afterGap,
      Text.dropWhile_run gaps afterGap, read]
    simp [indexed, parted]

/-- A text without line feeds reads as the line that it writes. -/
theorem Line.parse?_eq_some_iff (plain : '\n' ∉ text) :
    Line.parse? pattern text = some line ↔ pattern.Writes text line :=
  ⟨Line.parse?_sound plain, Line.parse?_complete⟩

private theorem writes_concat_iff {last : Char} (fills : isFiller last = true) :
    pattern.Writes (text ++ [last]) line ↔ pattern.Writes text line := by
  constructor
  · intro written
    generalize whole : text ++ [last] = longer at written
    cases written with
    | @line index gap payload filler indexed digits parted gaps allowed filled =>
      rcases List.eq_nil_or_concat filler with rfl | ⟨rest, closing, rfl⟩
      · obtain ⟨closing, ends, solid⟩ := allowed.ends
        have same := congrArg List.getLast? whole
        rw [List.getLast?_concat, List.append_nil, List.getLast?_append, ends,
          Option.some_or] at same
        obtain rfl := Option.some.inj same
        exact absurd fills (Bool.eq_false_iff.mp solid)
      · rw [List.concat_eq_append, ← List.append_assoc] at whole
        rw [(List.append_inj' whole rfl).1]
        refine .line indexed digits parted gaps allowed fun char member => filled char ?_
        rw [List.concat_eq_append]
        exact List.mem_append_left _ member
  · intro written
    cases written with
    | @line index gap payload filler indexed digits parted gaps allowed filled =>
      rw [List.append_assoc]
      refine .line indexed digits parted gaps allowed fun char member => ?_
      rcases List.mem_append.mp member with before | ends
      · exact filled char before
      · obtain rfl := List.mem_singleton.mp ends
        exact fills

/-- More filler at the end does not count. -/
theorem Pattern.writes_append_filler_iff {filler : List Char}
    (filled : ∀ char ∈ filler, isFiller char = true) :
    pattern.Writes (text ++ filler) line ↔ pattern.Writes text line := by
  induction filler generalizing text with
  | nil => rw [List.append_nil]
  | cons first rest ih =>
    rw [List.append_cons, ih fun char member => filled char (List.mem_cons_of_mem first member)]
    exact writes_concat_iff (filled first List.mem_cons_self)

theorem break_not_mem_append_filler {filler : List Char} (plain : '\n' ∉ text)
    (filled : ∀ char ∈ filler, isFiller char = true) : '\n' ∉ text ++ filler := by
  intro member
  rcases List.mem_append.mp member with inside | ends
  · exact plain inside
  · exact absurd (filled _ ends) (by decide)

theorem Line.parse?_append_filler {filler : List Char} (plain : '\n' ∉ text)
    (filled : ∀ char ∈ filler, isFiller char = true) :
    Line.parse? pattern (text ++ filler) = Line.parse? pattern text := by
  have longer := break_not_mem_append_filler plain filled
  apply Option.ext
  intro line
  rw [Line.parse?_eq_some_iff longer, Line.parse?_eq_some_iff plain,
    Pattern.writes_append_filler_iff filled]

end LineScript.Segment
