import LineScript.Proofs.Segment.Contents

/-!
The layout of a segment: the kind of its breaks, its blank lines, what stands at the end of a line,
the gap and the digits of an index. No change of layout changes what the lines say, so a segment
loads to the same with it.
-/

namespace LineScript.Segment

variable {kind : Kind} {pattern : Pattern} {text before after line other filler : List Char}

/-- A line begins after a text. -/
inductive OpensLine : List Char → Prop where
  | text : OpensLine []
  | line (before : List Char) : OpensLine (before ++ ['\n'])

/-- A line ends before a text, but for filler. -/
inductive EndsLine : List Char → Prop where
  | text {filler : List Char} (filled : ∀ char ∈ filler, isFiller char = true) : EndsLine filler
  | line {filler : List Char} (filled : ∀ char ∈ filler, isFiller char = true) (after : List Char) :
      EndsLine (filler ++ '\n' :: after)

/-- A carriage return before every line feed, also where one stands there already. -/
def withReturns (text : List Char) : List Char :=
  text.flatMap fun char => if char = '\n' then ['\r', '\n'] else [char]

/-- A line of the grammar in another spelling: with another gap, or with other digits for the same
index. -/
inductive Pattern.Respelled (pattern : Pattern) : List Char → List Char → Prop where
  | gap {index gap other payload filler : List Char} (digits : Text.Run Text.isDigit index)
      (parted : Text.Run isGap gap) (parts : Text.Run isGap other)
        (allowed : pattern.Allows payload)
      (filled : ∀ char ∈ filler, isFiller char = true) :
      Respelled pattern (index ++ gap ++ payload ++ filler) (index ++ other ++ payload ++ filler)
  | index {index other gap payload filler : List Char} (digits : Text.Run Text.isDigit index)
      (short : index.length ≤ maxIndexDigits) (others : Text.Run Text.isDigit other)
      (brief : other.length ≤ maxIndexDigits) (same : Text.numeral index = Text.numeral other)
      (parted : Text.Run isGap gap) (allowed : pattern.Allows payload)
      (filled : ∀ char ∈ filler, isFiller char = true) :
      Respelled pattern (index ++ gap ++ payload ++ filler) (other ++ gap ++ payload ++ filler)

/-- One change of the layout of a text. -/
inductive Pattern.Relaid (pattern : Pattern) : List Char → List Char → Prop where
  | breaks (text : List Char) : Relaid pattern text (withReturns text)
  | blankLine {before blank : List Char} (opens : OpensLine before) (blanks : Text.Blanks blank)
      (after : List Char) : Relaid pattern (before ++ after) (before ++ (blank ++ '\n' :: after))
  | lastBlankLine {blank : List Char} (text : List Char) (blanks : Text.Blanks blank) :
      Relaid pattern text (text ++ '\n' :: blank)
  | blankEnd {text blank : List Char} (opens : OpensLine text) (blanks : Text.Blanks blank) :
      Relaid pattern text (text ++ blank)
  | trailing {filler after : List Char} (before : List Char)
      (filled : ∀ char ∈ filler, isFiller char = true) (ends : EndsLine after) :
      Relaid pattern (before ++ after) (before ++ filler ++ after)
  | respelled {before line other after : List Char} (opens : OpensLine before)
      (changed : pattern.Respelled line other) (ends : EndsLine after) :
      Relaid pattern (before ++ line ++ after) (before ++ other ++ after)

theorem OpensLine.contents_append (opens : OpensLine before) :
    contents pattern (before ++ after) = contents pattern before ++ contents pattern after := by
  cases opens with
  | text => rw [contents_nil, List.nil_append, List.nil_append]
  | line before =>
    rw [List.append_assoc, List.singleton_append, contents_append_break, contents_append_break,
      contents_nil, List.append_nil]

/-- What stands behind the end of a line says the same for every line before it. -/
theorem EndsLine.exists_contents (ends : EndsLine after) (pattern : Pattern) :
    ∃ rest, ∀ line, '\n' ∉ line →
      contents pattern (line ++ after) = contents pattern line ++ rest := by
  cases ends with
  | text filled =>
    refine ⟨[], fun line plain => ?_⟩
    rw [contents_append_filler plain filled, List.append_nil]
  | line filled after =>
    refine ⟨contents pattern after, fun line plain => ?_⟩
    rw [← List.append_assoc, contents_append_break, contents_append_filler plain filled]

/-- A line in the midst of a text gives way to one that says the same. -/
theorem contents_replace_line (opens : OpensLine before) (ends : EndsLine after)
    (plain : '\n' ∉ line)
    (single : '\n' ∉ other) (same : contents pattern line = contents pattern other) :
    contents pattern (before ++ line ++ after) = contents pattern (before ++ other ++ after) := by
  obtain ⟨rest, split⟩ := ends.exists_contents pattern
  rw [List.append_assoc, opens.contents_append, split line plain, same, ← split other single,
    ← opens.contents_append, ← List.append_assoc]

theorem exists_last_line (text : List Char) :
    ∃ before line, text = before ++ line ∧ OpensLine before ∧ '\n' ∉ line := by
  obtain ⟨line, parts, plain⟩ := Text.exists_trimEnd_append (· != '\n') text
  refine ⟨_, line, parts, ?_, fun member => absurd (plain _ member) (by decide)⟩
  rcases List.eq_nil_or_concat (Text.trimEnd (· != '\n') text) with empty | ⟨before, last, ends⟩
  · rw [empty]
    exact .text
  · have closing : (Text.trimEnd (· != '\n') text).getLast? = some last := by
      rw [ends, List.concat_eq_append, List.getLast?_concat]
    obtain rfl : last = '\n' := by simpa using Text.getLast?_trimEnd closing
    rw [ends, List.concat_eq_append]
    exact .line before

theorem contents_insert_filler (filled : ∀ char ∈ filler, isFiller char = true)
    (ends : EndsLine after) :
    contents pattern (before ++ filler ++ after) = contents pattern (before ++ after) := by
  obtain ⟨front, line, rfl, opens, plain⟩ := exists_last_line before
  rw [List.append_assoc front]
  exact contents_replace_line opens ends (break_not_mem_append_filler plain filled) plain
    (contents_append_filler plain filled)

/-- The line feeds get their carriage returns one by one, from the front. -/
theorem contents_withReturns (before text : List Char) :
    contents pattern (before ++ withReturns text) = contents pattern (before ++ text) := by
  induction text generalizing before with
  | nil => rfl
  | cons char rest ih =>
    by_cases feed : char = '\n'
    · -- The return that comes before this line feed is filler at the end of a line.
      have here : contents pattern (before ++ ['\r'] ++ '\n' :: rest) =
          contents pattern (before ++ '\n' :: rest) :=
        contents_insert_filler (by simp [isFiller]) (.line (List.forall_mem_nil _) rest)
      have later := ih (before ++ ['\r', '\n'])
      subst feed
      rw [← here]
      simpa [withReturns] using later
    · have later := ih (before ++ [char])
      simpa [withReturns, feed] using later

theorem Pattern.Writes.contents_eq {said : Line} (written : pattern.Writes text said) :
    contents pattern text = [some said.content] := by
  rw [contents_of_plain written.plain written.inked, Pattern.content?, Line.parse?_complete written,
    Option.map_some]

theorem Pattern.Respelled.written (changed : pattern.Respelled line other) :
    ∃ first second, pattern.Writes line first ∧ pattern.Writes other second ∧
      first.content = second.content := by
  cases changed with
  | gap digits parted parts allowed filled =>
    exact ⟨_, _, .line digits.nonempty digits.inside parted.nonempty parted.inside allowed filled,
      .line digits.nonempty digits.inside parts.nonempty parts.inside allowed filled, rfl⟩
  | index digits short others brief same parted allowed filled =>
    refine ⟨_, _, .line digits.nonempty digits.inside parted.nonempty parted.inside allowed filled,
      .line others.nonempty others.inside parted.nonempty parted.inside allowed filled, ?_⟩
    rw [Line.content, Line.content, if_neg (Nat.not_lt.mpr short), if_neg (Nat.not_lt.mpr brief),
      same]

theorem Pattern.Relaid.contents_eq (relaid : pattern.Relaid text other) :
    contents pattern text = contents pattern other := by
  cases relaid with
  | breaks text => exact (contents_withReturns [] text).symm
  | blankLine opens blanks after =>
    rw [opens.contents_append, opens.contents_append, contents_append_break,
      contents_of_blanks blanks, List.nil_append]
  | lastBlankLine text blanks =>
    rw [contents_append_break, contents_of_blanks blanks, List.append_nil]
  | blankEnd opens blanks =>
    rw [opens.contents_append, contents_of_blanks blanks, List.append_nil]
  | trailing before filled ends => exact (contents_insert_filler filled ends).symm
  | respelled opens changed ends =>
    obtain ⟨first, second, written, respelt, same⟩ := changed.written
    apply contents_replace_line opens ends written.plain respelt.plain
    rw [written.contents_eq, respelt.contents_eq, same]

/-- The layout of a segment does not matter: after any change of it the segment loads to the same
payloads, or is refused for the same reason. -/
theorem layout_ignored (kind : Kind) (pattern : Pattern) (source other : String)
    (relaid : pattern.Relaid source.toList other.toList) :
    load kind pattern source = load kind pattern other :=
  load_congr relaid.contents_eq

/-- The Arabic digits of `001` for the index `1`. -/
theorem arabicIndex_loads : load .register .value "0 a\n٠٠١ b\r\n" = .ok ["a", "b"] := by
  have digits : Text.Run Text.isDigit ['1'] := ⟨by decide, List.all_eq_true.mp (by decide)⟩
  have others : Text.Run Text.isDigit ['٠', '٠', '١'] :=
    ⟨by decide, List.all_eq_true.mp (by decide)⟩
  have gap : Text.Run isGap [' '] := ⟨by decide, List.all_eq_true.mp (by decide)⟩
  have allowed : Pattern.value.Allows ['b'] := .word (by decide) (List.all_eq_true.mp (by decide))
  have changed : Pattern.value.Respelled (['1'] ++ [' '] ++ ['b'] ++ ['\r'])
      (['٠', '٠', '١'] ++ [' '] ++ ['b'] ++ ['\r']) :=
    .index digits (by decide) others (by decide) (by decide) gap allowed
      (List.all_eq_true.mp (by decide))
  have relaid : Pattern.value.Relaid "0 a\n1 b\r\n".toList "0 a\n٠٠١ b\r\n".toList :=
    .respelled (.line "0 a".toList) changed (.line (List.forall_mem_nil _) [])
  rw [← layout_ignored .register .value _ _ relaid]
  decide +kernel

end LineScript.Segment
