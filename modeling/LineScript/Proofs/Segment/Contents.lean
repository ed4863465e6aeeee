import LineScript.Proofs.Segment.Outcome

/-!
What the lines of a segment say, apart from how they are laid out. Loading looks at nothing else,
and what a text says is put together from what it says before and after a line feed.
-/

namespace LineScript.Segment

variable {kind : Kind} {pattern : Pattern} {text line : List Char}

/-- The place and the payload that a line names. An index that is too long names no place; only its
length is told. -/
def Line.content (line : Line) : Except Nat (Nat × List Char) :=
  if maxIndexDigits < line.index.length then .error line.index.length
  else .ok (Text.numeral line.index, line.payload)

/-- What a text says as one line, if it is in the grammar. -/
def Pattern.content? (pattern : Pattern) (text : List Char) :
    Option (Except Nat (Nat × List Char)) :=
  (Line.parse? pattern text).map Line.content

/-- What the lines of a text say, one after the other. -/
def contents (pattern : Pattern) (text : List Char) :
    List (Option (Except Nat (Nat × List Char))) :=
  (inked text).map pattern.content?

/-- Whether a line is accepted depends on what it says. -/
theorem Line.accept_congr {first second : Line} (same : first.content = second.content)
    (kind : Kind) (expected : Nat) : first.accept kind expected = second.accept kind expected := by
  unfold Line.content at same
  split at same <;> split at same
  · rename_i long other
    rw [Line.accept, Line.accept, if_pos long, if_pos other, Except.error.inj same]
  · contradiction
  · contradiction
  · rename_i short other
    obtain ⟨index, payload⟩ := Prod.mk.inj (Except.ok.inj same)
    rw [Line.accept, Line.accept, if_neg short, if_neg other, index, payload]

theorem payloads_congr {texts others : List (List Char)}
    (same : texts.map pattern.content? = others.map pattern.content?) (start : Nat) :
    payloads kind pattern start texts = payloads kind pattern start others := by
  induction texts generalizing others start with
  | nil =>
    obtain rfl := List.map_eq_nil_iff.mp same.symm
    rfl
  | cons text texts ih =>
    cases others with
    | nil => contradiction
    | cons other others =>
      obtain ⟨here, later⟩ := List.cons.inj same
      unfold Pattern.content? at here
      rw [payloads, payloads, ih later]
      cases first : Line.parse? pattern text with
      | none =>
        rw [first, Option.map_none, eq_comm, Option.map_eq_none_iff] at here
        rw [here]
      | some line =>
        rw [first, Option.map_some, eq_comm, Option.map_eq_some_iff] at here
        obtain ⟨twin, second, alike⟩ := here
        simp only [second, pure_bind, Line.accept_congr alike]

theorem contents_eq_nil_iff : contents pattern text = [] ↔ text.all Text.isBlank = true := by
  rw [contents, List.map_eq_nil_iff, inked_eq_nil_iff]

theorem hasLine_iff_mem_contents :
    hasLine pattern text = true ↔ ∃ content, some content ∈ contents pattern text := by
  rw [hasLine_iff]
  constructor
  · rintro ⟨line, member, parsed, written⟩
    have read := Line.parse?_complete written
    exact ⟨parsed.content, List.mem_map.mpr ⟨line, member, by rw [Pattern.content?, read]; rfl⟩⟩
  · rintro ⟨content, member⟩
    obtain ⟨line, present, said⟩ := List.mem_map.mp member
    obtain ⟨parsed, read, -⟩ := Option.map_eq_some_iff.mp said
    exact ⟨line, present, parsed, Line.parse?_sound (break_not_mem_of_mem_inked present) read⟩

/-- Two sources that say the same load to the same. -/
theorem load_congr {source other : String}
    (same : contents pattern source.toList = contents pattern other.toList) :
    load kind pattern source = load kind pattern other := by
  have blank : source.toList.all Text.isBlank = other.toList.all Text.isBlank := by
    rw [Bool.eq_iff_iff, ← @contents_eq_nil_iff pattern, same, contents_eq_nil_iff]
  have found : hasLine pattern source.toList = hasLine pattern other.toList := by
    rw [Bool.eq_iff_iff, hasLine_iff_mem_contents, same, hasLine_iff_mem_contents]
  rw [load, load, blank, found, payloads_congr same]

private theorem contents_beside {lines stretches : List (List Char)}
    (beside : List.Forall₂ Text.Beside lines stretches) (plain : ∀ line ∈ lines, '\n' ∉ line) :
    (lines.filter fun line => !line.all Text.isBlank).map pattern.content? =
      (stretches.filter fun stretch => !stretch.all Text.isBlank).map pattern.content? := by
  induction beside with
  | nil => rfl
  | @cons line stretch lines stretches near more ih =>
    have later := ih fun other member => plain other (List.mem_cons_of_mem line member)
    have blank : stretch.all Text.isBlank = line.all Text.isBlank := by
      have back : Text.isBlank '\r' = true := by decide
      rcases near with rfl | rfl
      · rfl
      · simp [back]
    have said : pattern.content? stretch = pattern.content? line := by
      rw [Pattern.content?, parse?_beside (plain line List.mem_cons_self) near, Pattern.content?]
    rw [List.filter_cons, List.filter_cons, blank]
    split
    · rw [List.map_cons, List.map_cons, said, later]
    · exact later

/-- The stretches between line feeds say what the lines say. -/
theorem contents_eq_stretches :
    contents pattern text =
      ((text.splitOn '\n').filter fun stretch => !stretch.all Text.isBlank).map pattern.content? :=
  contents_beside (Text.lines_beside_stretches text) fun _ member =>
    Text.break_not_mem_of_mem_lines member

theorem contents_append_break (before after : List Char) :
    contents pattern (before ++ '\n' :: after) = contents pattern before ++
      contents pattern after := by
  have cut : (before ++ '\n' :: after).splitOn '\n' = before.splitOn '\n' ++ after.splitOn '\n' :=
    List.splitOnP_append_cons before after (beq_self_eq_true '\n')
  simp only [contents_eq_stretches, cut, List.filter_append, List.map_append]

theorem contents_of_blanks (blanks : Text.Blanks text) : contents pattern text = [] :=
  contents_eq_nil_iff.mpr (List.all_eq_true.mpr blanks)

theorem contents_nil : contents pattern [] = [] :=
  contents_of_blanks (List.forall_mem_nil _)

theorem contents_of_plain (plain : '\n' ∉ line) (solid : line.all Text.isBlank = false) :
    contents pattern line = [pattern.content? line] := by
  rw [contents_eq_stretches, List.splitOn_eq_singleton plain, List.filter_singleton]
  simp [solid]

/-- Filler at the end of a line says nothing. -/
theorem contents_append_filler {filler : List Char} (plain : '\n' ∉ line)
    (filled : ∀ char ∈ filler, isFiller char = true) :
    contents pattern (line ++ filler) = contents pattern line := by
  have blanks : Text.Blanks filler := fun char member => isBlank_of_isFiller (filled char member)
  have longer := break_not_mem_append_filler plain filled
  cases blank : line.all Text.isBlank with
  | true =>
    have whole : (line ++ filler).all Text.isBlank = true := by
      rw [List.all_append, blank, List.all_eq_true.mpr blanks, Bool.and_self]
    rw [contents_eq_nil_iff.mpr blank, contents_eq_nil_iff.mpr whole]
  | false =>
    have whole : (line ++ filler).all Text.isBlank = false := by
      rw [List.all_append, blank, Bool.false_and]
    rw [contents_of_plain plain blank, contents_of_plain longer whole, Pattern.content?,
      Line.parse?_append_filler plain filled, Pattern.content?]

end LineScript.Segment
