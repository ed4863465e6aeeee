import LineScript.Proofs.Segment.Grammar
import LineScript.Segment.Load

/-!
What loading a segment comes to, told by its inked lines alone. The search over the whole text and
the reading line by line agree on which lines are in the grammar.
-/

namespace LineScript.Segment

variable {kind : Kind} {pattern : Pattern} {text : List Char}

theorem mem_inked_iff {line : List Char} :
    line ∈ inked text ↔ line ∈ Text.lines text ∧ line.all Text.isBlank = false := by
  simp [inked]

theorem break_not_mem_of_mem_inked {line : List Char} (member : line ∈ inked text) : '\n' ∉ line :=
  Text.break_not_mem_of_mem_lines (mem_inked_iff.mp member).1

theorem inked_eq_nil_iff : inked text = [] ↔ text.all Text.isBlank = true := by
  rw [← Text.all_isBlank_lines]
  simp [inked, List.filter_eq_nil_iff]

theorem inked_append_break {line : List Char} (plain : '\n' ∉ line)
    (closed : line.getLast? ≠ some '\r') (solid : line.all Text.isBlank = false) :
    inked (line ++ '\n' :: text) = line :: inked text := by
  rw [inked, Text.lines_append_break plain closed, List.filter_cons_of_pos (by simp [solid]), inked]

theorem inked_break (text : List Char) : inked ('\n' :: text) = inked text := by
  rw [← List.nil_append ('\n' :: text), inked, Text.lines_append_break (by simp) (by simp),
    List.filter_cons_of_neg (by simp), inked]

/-- A text in the grammar holds a digit, so it is not blank. -/
theorem Pattern.Writes.inked {line : Line} (written : pattern.Writes text line) :
    text.all Text.isBlank = false := by
  cases written with
  | @line index gap payload filler indexed digits =>
    obtain ⟨first, rest, rfl⟩ := List.exists_cons_of_ne_nil indexed
    simp [Text.isBlank_of_isDigit (digits first List.mem_cons_self)]

/-- Whether a text is a line of the grammar. -/
def Pattern.InGrammar (pattern : Pattern) (text : List Char) : Prop :=
  ∃ line, pattern.Writes text line

theorem parse?_isSome_iff (plain : '\n' ∉ text) :
    (Line.parse? pattern text).isSome = true ↔ pattern.InGrammar text := by
  simp only [Option.isSome_iff_exists, Pattern.InGrammar, Line.parse?_eq_some_iff plain]

/-- A carriage return at the end of a stretch does not count. -/
theorem parse?_beside {line stretch : List Char} (plain : '\n' ∉ line)
    (beside : Text.Beside line stretch) :
    Line.parse? pattern stretch = Line.parse? pattern line := by
  rcases beside with rfl | rfl
  · rfl
  · exact Line.parse?_append_filler plain (by simp [isFiller])

private theorem any_parse?_beside {lines stretches : List (List Char)}
    (beside : List.Forall₂ Text.Beside lines stretches) (plain : ∀ line ∈ lines, '\n' ∉ line) :
    (stretches.any fun stretch => (Line.parse? pattern stretch).isSome) =
      lines.any fun line => (Line.parse? pattern line).isSome := by
  induction beside with
  | nil => rfl
  | cons near more ih =>
    rw [List.any_cons, List.any_cons, parse?_beside (plain _ List.mem_cons_self) near,
      ih fun line member => plain line (List.mem_cons_of_mem _ member)]

/-- The search between line feeds succeeds exactly if one of the inked lines is in the grammar. -/
theorem hasLine_iff :
    hasLine pattern text = true ↔ ∃ line ∈ inked text, pattern.InGrammar line := by
  rw [hasLine, any_parse?_beside (Text.lines_beside_stretches text)
    fun line member => Text.break_not_mem_of_mem_lines member, List.any_eq_true]
  constructor
  · rintro ⟨line, member, read⟩
    have written := (parse?_isSome_iff (Text.break_not_mem_of_mem_lines member)).mp read
    exact ⟨line, mem_inked_iff.mpr ⟨member, written.choose_spec.inked⟩, written⟩
  · rintro ⟨line, member, written⟩
    have present := (mem_inked_iff.mp member).1
    exact ⟨line, present, (parse?_isSome_iff (Text.break_not_mem_of_mem_lines present)).mpr written⟩

/-- A line fits a place if it is in the grammar with an index that is not too long and names the
place. -/
def Pattern.Fits (pattern : Pattern) (place : Nat) (text : List Char) (payload : String) : Prop :=
  ∃ line, pattern.Writes text line ∧ line.index.length ≤ maxIndexDigits ∧
    Text.numeral line.index = place ∧ String.ofList line.payload = payload

/-- What is wrong with the line at a place, by the first test that it fails. -/
inductive Pattern.Fails (pattern : Pattern) (kind : Kind) (place : Nat) (text : List Char) :
    LoadFailure → Prop where
  | unwritten (absent : ¬ pattern.InGrammar text) :
      Fails pattern kind place text (.rejected (.ofCondition kind .malformedAssignment))
  | oversized {line : Line} (written : pattern.Writes text line)
      (long : maxIndexDigits < line.index.length) :
      Fails pattern kind place text (.oversizedIndex line.index.length)
  | displaced {line : Line} (written : pattern.Writes text line)
      (short : line.index.length ≤ maxIndexDigits) (other : Text.numeral line.index ≠ place) :
      Fails pattern kind place text (.rejected (.ofCondition kind .notChronological))

theorem Pattern.fits_or_fails (pattern : Pattern) (kind : Kind) (place : Nat) (text : List Char) :
    (∃ payload, pattern.Fits place text payload) ∨
      ∃ failure, pattern.Fails kind place text failure := by
  by_cases written : pattern.InGrammar text
  · obtain ⟨line, written⟩ := written
    by_cases short : line.index.length ≤ maxIndexDigits
    · by_cases same : Text.numeral line.index = place
      · exact .inl ⟨_, line, written, short, same, rfl⟩
      · exact .inr ⟨_, .displaced written short same⟩
    · exact .inr ⟨_, .oversized written (Nat.lt_of_not_le short)⟩
  · exact .inr ⟨_, .unwritten written⟩

variable {place start : Nat} {texts : List (List Char)} {payload : String} {failure : LoadFailure}

private theorem payloads_cons_of_fits (fits : pattern.Fits start text payload) :
    payloads kind pattern start (text :: texts) =
      (payloads kind pattern (start + 1) texts).map (payload :: ·) := by
  obtain ⟨line, written, short, same, rfl⟩ := fits
  have long : ¬ maxIndexDigits < line.index.length := Nat.not_lt.mpr short
  simp only [payloads, Line.parse?_complete written, Line.accept, bind, Except.bind, pure,
    Except.pure, long, same, ↓reduceIte]
  cases payloads kind pattern (start + 1) texts <;> rfl

private theorem payloads_cons_of_fails (plain : '\n' ∉ text)
    (fails : pattern.Fails kind start text failure) :
    payloads kind pattern start (text :: texts) = .error failure := by
  cases fails with
  | unwritten absent =>
    have unread : Line.parse? pattern text = none := by
      rw [← Option.not_isSome_iff_eq_none, parse?_isSome_iff plain]
      exact absent
    simp only [payloads, unread, bind, Except.bind, throw, throwThe, MonadExceptOf.throw]
  | oversized written long =>
    simp only [payloads, Line.parse?_complete written, Line.accept, bind, Except.bind, pure,
      Except.pure, long, ↓reduceIte]
  | displaced written short other =>
    have long := Nat.not_lt.mpr short
    simp only [payloads, Line.parse?_complete written, Line.accept, bind, Except.bind, pure,
      Except.pure, long, other, ↓reduceIte]

/-- Every line fits its place and has its payload there; places count from a start. -/
def Pattern.Lists (pattern : Pattern) (start : Nat) (texts : List (List Char))
    (found : List String) : Prop :=
  found.length = texts.length ∧ ∀ place text, texts[place]? = some text →
    ∃ payload, found[place]? = some payload ∧ pattern.Fits (start + place) text payload

/-- The first line that does not fit its place fails in a certain way. -/
def Pattern.Stops (pattern : Pattern) (kind : Kind) (start : Nat) (texts : List (List Char))
    (failure : LoadFailure) : Prop :=
  ∃ place text, texts[place]? = some text ∧ pattern.Fails kind (start + place) text failure ∧
    ∀ earlier < place, ∀ other, texts[earlier]? = some other →
      ∃ payload, pattern.Fits (start + earlier) other payload

private theorem place_succ (start place : Nat) : start + (place + 1) = start + 1 + place := by
  omega

theorem Pattern.lists_cons_iff {found : List String} :
    pattern.Lists start (text :: texts) (payload :: found) ↔
      pattern.Fits start text payload ∧ pattern.Lists (start + 1) texts found := by
  constructor
  · rintro ⟨size, each⟩
    refine ⟨?_, by simpa using size, fun place other present => ?_⟩
    · obtain ⟨first, here, fits⟩ := each 0 text rfl
      obtain rfl := Option.some.inj here
      exact fits
    · rw [← place_succ]
      exact each (place + 1) other present
  · rintro ⟨fits, size, each⟩
    refine ⟨by simp [size], fun place other present => ?_⟩
    cases place with
    | zero => exact ⟨payload, rfl, Option.some.inj present ▸ fits⟩
    | succ place =>
      rw [place_succ start place]
      exact each place other present

theorem Pattern.stops_cons_iff :
    pattern.Stops kind start (text :: texts) failure ↔
      pattern.Fails kind start text failure ∨
        (∃ payload, pattern.Fits start text payload) ∧
          pattern.Stops kind (start + 1) texts failure := by
  constructor
  · rintro ⟨place, line, here, fails, before⟩
    cases place with
    | zero => exact .inl (Option.some.inj here ▸ fails)
    | succ place =>
      refine .inr ⟨before 0 (Nat.succ_pos place) text rfl, place, line, here, ?_, ?_⟩
      · rwa [← place_succ]
      · intro earlier less other present
        rw [← place_succ]
        exact before (earlier + 1) (Nat.succ_lt_succ less) other present
  · rintro (fails | ⟨fits, place, line, here, fails, before⟩)
    · exact ⟨0, text, rfl, fails, by simp⟩
    · refine ⟨place + 1, line, here, by rwa [place_succ], fun earlier less other present => ?_⟩
      cases earlier with
      | zero => exact Option.some.inj present ▸ fits
      | succ earlier =>
        rw [place_succ start earlier]
        exact before earlier (Nat.lt_of_succ_lt_succ less) other present

theorem Pattern.lists_or_stops (pattern : Pattern) (kind : Kind) (start : Nat)
    (texts : List (List Char)) :
    (∃ found, pattern.Lists start texts found) ∨
      ∃ failure, pattern.Stops kind start texts failure := by
  induction texts generalizing start with
  | nil => exact .inl ⟨[], rfl, by simp⟩
  | cons text texts ih =>
    rcases pattern.fits_or_fails kind start text with ⟨payload, fits⟩ | ⟨failure, fails⟩
    · rcases ih (start + 1) with ⟨found, lists⟩ | ⟨failure, stops⟩
      · exact .inl ⟨_, lists_cons_iff.mpr ⟨fits, lists⟩⟩
      · exact .inr ⟨_, stops_cons_iff.mpr (.inr ⟨⟨payload, fits⟩, stops⟩)⟩
    · exact .inr ⟨_, stops_cons_iff.mpr (.inl fails)⟩

private theorem payloads_of_lists {found : List String}
    (lists : pattern.Lists start texts found) : payloads kind pattern start texts = .ok found := by
  induction texts generalizing start found with
  | nil =>
    obtain rfl := List.eq_nil_of_length_eq_zero lists.1
    rfl
  | cons text texts ih =>
    cases found with
    | nil => simpa using lists.1
    | cons payload found =>
      obtain ⟨fits, rest⟩ := Pattern.lists_cons_iff.mp lists
      rw [payloads_cons_of_fits fits, ih rest]
      rfl

private theorem payloads_of_stops (plain : ∀ text ∈ texts, '\n' ∉ text)
    (stops : pattern.Stops kind start texts failure) :
    payloads kind pattern start texts = .error failure := by
  induction texts generalizing start with
  | nil =>
    obtain ⟨place, text, here, _⟩ := stops
    simp at here
  | cons text texts ih =>
    have first := plain text List.mem_cons_self
    rcases Pattern.stops_cons_iff.mp stops with fails | ⟨⟨payload, fits⟩, rest⟩
    · exact payloads_cons_of_fails first fails
    · rw [payloads_cons_of_fits fits,
        ih (fun other member => plain other (List.mem_cons_of_mem text member)) rest]
      rfl

/-- Why a segment with certain inked lines is refused: none of them is in the grammar, or some are
and the first one that does not fit its place fails. -/
inductive Pattern.Refuses (pattern : Pattern) (kind : Kind) (texts : List (List Char)) :
    LoadFailure → Prop where
  | segment (inked : texts ≠ []) (absent : ∀ text ∈ texts, ¬ pattern.InGrammar text) :
      Refuses pattern kind texts (.rejected (.ofCondition kind .malformedSegment))
  | line {failure : LoadFailure} (present : ∃ text ∈ texts, pattern.InGrammar text)
      (stops : pattern.Stops kind 0 texts failure) : Refuses pattern kind texts failure

private theorem load_of_lists {source : String} {found : List String}
    (lists : pattern.Lists 0 (inked source.toList) found) :
    load kind pattern source = .ok found := by
  by_cases blank : inked source.toList = []
  · have empty : found = [] := List.eq_nil_of_length_eq_zero (by simp [lists.1, blank])
    simp [load, inked_eq_nil_iff.mp blank, empty]
  · obtain ⟨line, rest, same⟩ := List.exists_cons_of_ne_nil blank
    have written : pattern.InGrammar line := by
      obtain ⟨payload, -, line, written, -⟩ := lists.2 0 line (by rw [same]; rfl)
      exact ⟨line, written⟩
    have some := hasLine_iff.mpr ⟨line, by rw [same]; exact List.mem_cons_self, written⟩
    rw [load, if_neg (mt inked_eq_nil_iff.mpr blank), if_pos some]
    exact payloads_of_lists lists

private theorem load_of_refuses {source : String}
    (refuses : pattern.Refuses kind (inked source.toList) failure) :
    load kind pattern source = .error failure := by
  cases refuses with
  | segment some absent =>
    have none : ¬ hasLine pattern source.toList = true := by
      rw [hasLine_iff]
      rintro ⟨line, member, written⟩
      exact absent line member written
    rw [load, if_neg (mt inked_eq_nil_iff.mpr some), if_neg none]
  | line present stops =>
    obtain ⟨line, member, -⟩ := id present
    have some : inked source.toList ≠ [] := List.ne_nil_of_mem member
    rw [load, if_neg (mt inked_eq_nil_iff.mpr some), if_pos (hasLine_iff.mpr present)]
    exact payloads_of_stops (fun _ member => break_not_mem_of_mem_inked member) stops

private theorem lists_or_refuses (pattern : Pattern) (kind : Kind) (texts : List (List Char)) :
    (∃ found, pattern.Lists 0 texts found) ∨ ∃ failure, pattern.Refuses kind texts failure := by
  by_cases present : ∃ text ∈ texts, pattern.InGrammar text
  · rcases pattern.lists_or_stops kind 0 texts with lists | ⟨failure, stops⟩
    · exact .inl lists
    · exact .inr ⟨failure, .line present stops⟩
  · by_cases empty : texts = []
    · exact .inl ⟨[], by simp [empty], by simp [empty]⟩
    · exact .inr ⟨_, .segment empty fun text member written => present ⟨text, member, written⟩⟩

/-- A segment loads exactly if every inked line fits its place, and with the payloads of those
lines. -/
theorem load_eq_ok_iff {source : String} {found : List String} :
    load kind pattern source = .ok found ↔ pattern.Lists 0 (inked source.toList) found := by
  refine ⟨fun loaded => ?_, load_of_lists⟩
  rcases lists_or_refuses pattern kind (inked source.toList) with ⟨other, lists⟩ |
      ⟨failure, refuses⟩
  · obtain rfl := Except.ok.inj ((load_of_lists lists).symm.trans loaded)
    exact lists
  · cases (load_of_refuses refuses).symm.trans loaded

theorem load_eq_error_iff {source : String} :
    load kind pattern source = .error failure ↔
      pattern.Refuses kind (inked source.toList) failure := by
  refine ⟨fun failed => ?_, load_of_refuses⟩
  rcases lists_or_refuses pattern kind (inked source.toList) with ⟨found, lists⟩ | ⟨other, refuses⟩
  · have loaded : load kind pattern source = .ok found := load_of_lists lists
    cases loaded.symm.trans failed
  · obtain rfl := Except.error.inj ((load_of_refuses refuses).symm.trans failed)
    exact refuses

/-- What a segment loads to. Without inked lines the result is empty; if none of them is in the
grammar the segment is malformed; otherwise the first line that does not fit its place decides, and
if all fit the result is their payloads in order. -/
theorem load_outcome (kind : Kind) (pattern : Pattern) (source : String) :
    (∀ found, load kind pattern source = .ok found ↔
      pattern.Lists 0 (inked source.toList) found) ∧
    ∀ failure, load kind pattern source = .error failure ↔
      pattern.Refuses kind (inked source.toList) failure :=
  ⟨fun _ => load_eq_ok_iff, fun _ => load_eq_error_iff⟩

example : load .register .value "\n0 a\t\r\n1  \"b c\"\n" = .ok ["a", "\"b c\""] := by
  decide +kernel

end LineScript.Segment
