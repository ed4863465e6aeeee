import LineScript.Listing
import LineScript.Proofs.Results
import LineScript.Proofs.Segment.Outcome
import LineScript.Proofs.Text.Numerals
import LineScript.Proofs.Text.Search

/-!
Writing a listing and reading it back. A payload that holds no mark cannot help to form one, because
marks hold neither spaces nor line feeds; so the written text has its frames where they were put.
-/

namespace LineScript.Segment

/-- The marks of all frames. -/
def marks : List (List Char) :=
  Kind.all.flatMap fun kind => [kind.frame.opening.toList, kind.frame.closing.toList]

/-- A mark of a frame occurs in a text. -/
def HoldsMark (text : List Char) : Prop :=
  ∃ mark ∈ marks, mark <:+: text

theorem break_not_mem_of_mem_marks {mark : List Char} (member : mark ∈ marks) : '\n' ∉ mark := by
  revert mark
  decide

theorem space_not_mem_of_mem_marks {mark : List Char} (member : mark ∈ marks) : ' ' ∉ mark := by
  revert mark
  decide

theorem exists_not_digit_of_mem_marks {mark : List Char} (member : mark ∈ marks) :
    ∃ char ∈ mark, Text.isDigit char = false := by
  have solid : ∀ mark ∈ marks, (mark.any fun char => !Text.isDigit char) = true := by decide
  simpa using solid mark member

/-- No mark occurs in another one. -/
theorem eq_of_isInfix_of_mem_marks :
    ∀ mark ∈ marks, ∀ other ∈ marks, mark <:+: other → mark = other := by
  decide +kernel

end LineScript.Segment

namespace LineScript.Listing

open Segment

variable {kind : Kind} {mark text : List Char} {payloads : List String} {start : Nat}

/-- The line of a payload at a place. -/
def lineAt (place : Nat) (payload : String) : List Char :=
  Text.decimalChars place ++ ' ' :: payload.toList

theorem numbered_cons (start : Nat) (payload : String) (payloads : List String) :
    numbered start (payload :: payloads) =
      lineAt start payload ++ '\n' :: numbered (start + 1) payloads := by
  simp [numbered, lineAt]

theorem holdsMark_lineAt {place : Nat} {payload : String}
    (held : HoldsMark (lineAt place payload)) :
    HoldsMark payload.toList := by
  obtain ⟨mark, member, occurs⟩ := held
  rcases (Text.isInfix_append_cons_iff (space_not_mem_of_mem_marks member)).mp occurs with index |
      inside
  · obtain ⟨char, present, solid⟩ := exists_not_digit_of_mem_marks member
    rw [Text.isDigit_of_mem_decimalChars (index.subset present)] at solid
    contradiction
  · exact ⟨mark, member, inside⟩

/-- The search for a mark passes over numbered payloads that hold none. -/
theorem splitAtFirst?_numbered (member : mark ∈ marks)
    (unmarked : ∀ payload ∈ payloads, ¬ HoldsMark payload.toList) :
    Text.splitAtFirst? mark (numbered start payloads ++ text) =
      (Text.splitAtFirst? mark text).map fun (before, after) =>
        (numbered start payloads ++ before, after) := by
  induction payloads generalizing start with
  | nil => simp [numbered]
  | cons payload payloads ih =>
    have clean : ¬ mark <:+: lineAt start payload := fun inside =>
      unmarked payload List.mem_cons_self (holdsMark_lineAt ⟨mark, member, inside⟩)
    rw [numbered_cons, List.append_assoc, List.cons_append,
      Text.splitAtFirst?_append_break (break_not_mem_of_mem_marks member) clean,
      ih fun other present => unmarked other (List.mem_cons_of_mem payload present), Option.map_map]
    simp [Function.comp_def]

theorem opening_mem_marks (kind : Kind) : kind.frame.opening.toList ∈ marks := by
  cases kind <;> decide

theorem closing_mem_marks (kind : Kind) : kind.frame.closing.toList ∈ marks := by
  cases kind <;> decide

theorem framed_append (kind : Kind) (payloads : List String) (text : List Char) :
    framed kind payloads ++ text = kind.frame.opening.toList ++ '\n' ::
      (numbered 0 payloads ++ (kind.frame.closing.toList ++ '\n' :: text)) := by
  simp [framed]

/-- The search for another mark passes over a framed segment. -/
theorem splitAtFirst?_framed (member : mark ∈ marks) (opening : mark ≠ kind.frame.opening.toList)
    (closing : mark ≠ kind.frame.closing.toList)
    (unmarked : ∀ payload ∈ payloads, ¬ HoldsMark payload.toList) :
    Text.splitAtFirst? mark (framed kind payloads ++ text) =
      (Text.splitAtFirst? mark text).map fun (before, after) =>
        (framed kind payloads ++ before, after) := by
  have plain := break_not_mem_of_mem_marks member
  have begins := mt (eq_of_isInfix_of_mem_marks mark member _ (opening_mem_marks kind)) opening
  have ends := mt (eq_of_isInfix_of_mem_marks mark member _ (closing_mem_marks kind)) closing
  rw [framed_append, Text.splitAtFirst?_append_break plain begins,
    splitAtFirst?_numbered member unmarked,
    Text.splitAtFirst?_append_break plain ends]
  simp only [Option.map_map, Function.comp_def, framed_append]

/-- After its opening mark, a framed segment goes as far as its closing mark. -/
theorem splitAtFirst?_closing (unmarked : ∀ payload ∈ payloads, ¬ HoldsMark payload.toList) :
    Text.splitAtFirst? kind.frame.closing.toList
        ('\n' :: (numbered 0 payloads ++ (kind.frame.closing.toList ++ text))) =
      some ('\n' :: numbered 0 payloads, text) := by
  have member := closing_mem_marks kind
  have clean : ¬ kind.frame.closing.toList <:+: [] := by
    cases kind <;> decide
  rw [← List.nil_append ('\n' :: _),
    Text.splitAtFirst?_append_break (break_not_mem_of_mem_marks member) clean,
    splitAtFirst?_numbered member unmarked, Text.splitAtFirst?_mark]
  simp

theorem extract_of_splitAtFirst? {source : String} {before inside body after : List Char}
    (begins : Text.splitAtFirst? kind.frame.opening.toList source.toList = some (before, inside))
    (ends : Text.splitAtFirst? kind.frame.closing.toList inside = some (body, after)) :
    Segment.extract kind source = .ok (String.ofList body) := by
  have found : kind.frame.extract kind.name source = .ok (String.ofList body) := by
    simp [Frame.extract, begins, ends]
  rw [Segment.extract, found]
  rfl

variable {listing : Listing}

theorem extract_register_toSource
    (unmarked : ∀ payload ∈ listing.registers, ¬ HoldsMark payload.toList) :
    Segment.extract .register listing.toSource =
      .ok (String.ofList ('\n' :: numbered 0 listing.registers)) := by
  have begins : Text.splitAtFirst? Kind.register.frame.opening.toList listing.toSource.toList =
      some ([], '\n' :: (numbered 0 listing.registers ++ (Kind.register.frame.closing.toList ++
        '\n' :: framed .code listing.statements))) := by
    rw [toSource, String.toList_ofList, framed_append, Text.splitAtFirst?_mark]
  exact extract_of_splitAtFirst? begins (splitAtFirst?_closing unmarked)

theorem extract_code_toSource
    (unmarked : ∀ payload ∈ listing.registers ++ listing.statements, ¬ HoldsMark payload.toList) :
    Segment.extract .code listing.toSource =
      .ok (String.ofList ('\n' :: numbered 0 listing.statements)) := by
  have registers : ∀ payload ∈ listing.registers, ¬ HoldsMark payload.toList :=
    fun payload member => unmarked payload (List.mem_append_left _ member)
  have statements : ∀ payload ∈ listing.statements, ¬ HoldsMark payload.toList :=
    fun payload member => unmarked payload (List.mem_append_right _ member)
  have begins : Text.splitAtFirst? Kind.code.frame.opening.toList listing.toSource.toList =
      some (framed .register listing.registers,
        '\n' :: (numbered 0 listing.statements ++ (Kind.code.frame.closing.toList ++ ['\n']))) := by
    rw [toSource, String.toList_ofList, splitAtFirst?_framed (opening_mem_marks .code) (by decide)
      (by decide) registers, ← List.append_nil (framed .code listing.statements), framed_append,
      Text.splitAtFirst?_mark]
    simp
  exact extract_of_splitAtFirst? begins (splitAtFirst?_closing statements)

variable {pattern : Pattern} {payload : String} {place : Nat}

theorem writes_lineAt (allowed : pattern.Allows payload.toList) :
    pattern.Writes (lineAt place payload) ⟨Text.decimalChars place, payload.toList⟩ := by
  have written : pattern.Writes (Text.decimalChars place ++ [' '] ++ payload.toList ++ [])
      ⟨Text.decimalChars place, payload.toList⟩ :=
    .line (Text.decimalChars_ne_nil place) (fun _ member => Text.isDigit_of_mem_decimalChars member)
      (by simp) (by simp [isGap]) allowed (by simp)
  simpa [lineAt] using written

theorem fits_lineAt (allowed : pattern.Allows payload.toList)
    (bound : place < 10 ^ maxIndexDigits) :
    pattern.Fits place (lineAt place payload) payload := by
  refine ⟨_, writes_lineAt allowed, ?_, Text.numeral_decimalChars place, String.ofList_toList⟩
  exact (Text.length_decimalChars_le_iff (by decide)).mpr bound

theorem inked_numbered_cons (allowed : pattern.Allows payload.toList) :
    inked (numbered start (payload :: payloads)) =
      lineAt start payload :: inked (numbered (start + 1) payloads) := by
  rw [numbered_cons]
  refine inked_append_break ?_ ?_ (writes_lineAt allowed).inked
  · intro member
    rcases List.mem_append.mp member with index | rest
    · exact absurd (Text.isDigit_of_mem_decimalChars index) (by decide)
    · rcases List.mem_cons.mp rest with space | inside
      · exact absurd space (by decide)
      · exact allowed.plain inside
  · obtain ⟨last, closing, solid⟩ := allowed.ends
    intro same
    rw [lineAt, List.getLast?_append, List.getLast?_cons, closing] at same
    obtain rfl : last = '\r' := by simpa using same
    exact absurd solid (by decide)

theorem lists_numbered (allowed : ∀ payload ∈ payloads, pattern.Allows payload.toList)
    (bound : start + payloads.length ≤ 10 ^ maxIndexDigits) :
    pattern.Lists start (inked (numbered start payloads)) payloads := by
  induction payloads generalizing start with
  | nil => exact ⟨rfl, by simp [numbered, inked, Text.lines]⟩
  | cons payload payloads ih =>
    rw [List.length_cons] at bound
    have first := allowed payload List.mem_cons_self
    rw [inked_numbered_cons first, Pattern.lists_cons_iff]
    refine ⟨fits_lineAt first (by omega), ih (fun other member => ?_) (by omega)⟩
    exact allowed other (List.mem_cons_of_mem payload member)

theorem load_numbered (kind : Kind) (allowed : ∀ payload ∈ payloads, pattern.Allows payload.toList)
    (bound : payloads.length ≤ 10 ^ maxIndexDigits) :
    load kind pattern (String.ofList ('\n' :: numbered 0 payloads)) = .ok payloads := by
  rw [load_eq_ok_iff, String.toList_ofList, inked_break]
  exact lists_numbered allowed (by rwa [Nat.zero_add])

/-- Listings that can be written and read back. -/
structure Writable (listing : Listing) : Prop where
  registers : ∀ value ∈ listing.registers, Pattern.Allows .value value.toList
  statements : ∀ statement ∈ listing.statements, Pattern.Allows .statement statement.toList
  registers_length : listing.registers.length ≤ 10 ^ maxIndexDigits
  statements_length : listing.statements.length ≤ 10 ^ maxIndexDigits
  unmarked : ∀ payload ∈ listing.registers ++ listing.statements, ¬ HoldsMark payload.toList

theorem Writable.ofSource_toSource {listing : Listing} (writable : listing.Writable) :
    ofSource listing.toSource = .ok listing := by
  have registers := extract_register_toSource
    fun payload member => writable.unmarked payload (List.mem_append_left _ member)
  have statements := extract_code_toSource writable.unmarked
  simp only [ofSource, registers, statements, loadRegisters, loadCode,
    load_numbered .register writable.registers writable.registers_length,
    load_numbered .code writable.statements writable.statements_length, bind, Except.bind, pure,
    Except.pure]

/-- Every payload is that of a line which fits its place. -/
theorem exists_fits {texts : List (List Char)} (lists : pattern.Lists 0 texts payloads)
    (here : payloads[place]? = some payload) : ∃ text ∈ texts, pattern.Fits place text payload := by
  obtain ⟨size, each⟩ := lists
  obtain ⟨inside, -⟩ := List.getElem?_eq_some_iff.mp here
  obtain ⟨other, there, fits⟩ := each place _ (List.getElem?_eq_getElem (size ▸ inside))
  obtain rfl := Option.some.inj (here.symm.trans there)
  exact ⟨_, List.getElem_mem _, by rwa [Nat.zero_add] at fits⟩

/-- What a segment loads to is in the grammar. -/
theorem allows_of_load {kind : Kind} {source : String}
    (loaded : load kind pattern source = .ok payloads) :
    ∀ payload ∈ payloads, pattern.Allows payload.toList := by
  intro payload member
  obtain ⟨place, here⟩ := List.mem_iff_getElem?.mp member
  obtain ⟨text, -, line, written, -, -, rfl⟩ := exists_fits (load_eq_ok_iff.mp loaded) here
  rw [String.toList_ofList]
  exact written.allows

/-- A segment has no more lines than its indices can number. -/
theorem length_le_of_load {kind : Kind} {source : String}
    (loaded : load kind pattern source = .ok payloads) : payloads.length ≤ 10 ^ maxIndexDigits := by
  rcases List.eq_nil_or_concat payloads with rfl | ⟨before, last, rfl⟩
  · exact Nat.zero_le _
  · have here : (before ++ [last])[before.length]? = some last := by simp
    rw [List.concat_eq_append] at loaded ⊢
    obtain ⟨text, -, line, -, short, same, -⟩ := exists_fits (load_eq_ok_iff.mp loaded) here
    have bound := Text.numeral_lt line.index
    have width := Nat.pow_le_pow_right (show 0 < 10 by decide) short
    rw [List.length_append, List.length_singleton]
    omega

/-- A source is read by reading the two segments inside its frames. -/
theorem loads_of_ofSource {source : String} {listing : Listing}
    (loaded : ofSource source = .ok listing) :
    (∃ text, extract .register source = .ok text ∧
        load .register .value text = .ok listing.registers) ∧
      ∃ text, extract .code source = .ok text ∧
        load .code .statement text = .ok listing.statements := by
  obtain ⟨registerText, opened, loaded⟩ := bind_eq_ok loaded
  obtain ⟨codeText, entered, loaded⟩ := bind_eq_ok loaded
  obtain ⟨registers, first, loaded⟩ := bind_eq_ok loaded
  obtain ⟨statements, second, loaded⟩ := bind_eq_ok loaded
  obtain rfl := Except.ok.inj loaded
  exact ⟨⟨registerText, opened, first⟩, codeText, entered, second⟩

/-- What a source is read to can be written, unless a payload holds a mark. -/
theorem writable_of_ofSource {source : String} {listing : Listing}
    (loaded : ofSource source = .ok listing)
    (unmarked : ∀ payload ∈ listing.registers ++ listing.statements, ¬ HoldsMark payload.toList) :
    listing.Writable := by
  obtain ⟨⟨registerText, -, registers⟩, codeText, -, statements⟩ := loads_of_ofSource loaded
  exact ⟨allows_of_load registers, allows_of_load statements, length_le_of_load registers,
    length_le_of_load statements, unmarked⟩

end LineScript.Listing
