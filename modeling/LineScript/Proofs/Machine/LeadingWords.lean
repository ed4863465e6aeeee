import LineScript.Proofs.Machine.Work
import LineScript.Proofs.Statement.Forms

/-!
Leading words. The first phase looks at the longest word that an instruction begins with, and at
nothing else. The words that it knows are whole words of which none is another, so the order in
which they are tried does not matter; and the word that a statement begins with names the phase that
knows the statement's form.
-/

namespace LineScript

open Text Text.Expression Statement

/-- The longest beginning of a text that consists of word characters. -/
structure Text.LongestWord (text word : List Char) : Prop where
  begins : word <+: text
  solid : ∀ char ∈ word, isWord char = true
  longest :
    ∀ other, other <+: text → (∀ char ∈ other, isWord char = true) → other.length ≤ word.length

theorem Text.longestWord_iff {text word : List Char} :
    LongestWord text word ↔ leadingWord text = word := by
  constructor
  · rintro ⟨⟨rest, rfl⟩, solid, longest⟩
    apply takeWhile_run solid
    intro char first
    obtain ⟨more, rfl⟩ := List.head?_eq_some_iff.mp first
    apply Bool.eq_false_iff.mpr
    intro inside
    -- Otherwise the word could be one character longer.
    have longer := longest (word ++ [char]) (by simp)
        (by simpa [or_imp, forall_and] using ⟨solid, inside⟩)
    rw [List.length_append, List.length_singleton] at longer
    omega
  · rintro rfl
    refine ⟨List.takeWhile_prefix _, fun char member => List.mem_takeWhile_imp member, ?_⟩
    rintro other ⟨rest, rfl⟩ inside
    rw [leadingWord, List.takeWhile_append_of_pos inside, List.length_append]
    omega

namespace Phase

/-- A word names a phase. -/
inductive Named : String → Phase → Prop where
  | assign : Named "let" .assign
  | branch : Named "if" .branch
  | goto : Named "goto" .goto
  | finish : Named "quit" .finish
  | output : Named "output" .output

theorem mem_keywords_iff {word : String} {phase : Phase} :
    (word, phase) ∈ keywords ↔ Named word phase := by
  constructor
  · intro member
    simp only [keywords, List.mem_cons, Prod.mk.injEq, List.not_mem_nil, or_false] at member
    rcases member with ⟨rfl, rfl⟩ | ⟨rfl, rfl⟩ | ⟨rfl, rfl⟩ | ⟨rfl, rfl⟩ | ⟨rfl, rfl⟩
    · exact .assign
    · exact .branch
    · exact .goto
    · exact .finish
    · exact .output
  · intro named
    cases named <;> decide

/-- A word names one phase at most. -/
theorem Named.unique {word : String} {phase other : Phase} (named : Named word phase)
    (also : Named word other) : phase = other := by
  have distinct : ∀ pair ∈ keywords, ∀ other ∈ keywords, pair.1 = other.1 → pair = other := by
    decide
  exact congrArg Prod.snd
    (distinct _ (mem_keywords_iff.mpr named) _ (mem_keywords_iff.mpr also) rfl)

theorem Named.run {word : String} {phase : Phase} (named : Named word phase) :
    Run isWord word.toList := by
  have inside : ∀ pair ∈ keywords, pair.1.toList ≠ [] ∧ pair.1.toList.all isWord = true := by decide
  obtain ⟨nonempty, solid⟩ := inside _ (mem_keywords_iff.mpr named)
  exact ⟨nonempty, List.all_eq_true.mp solid⟩

theorem named?_eq_some_iff {text : String} {phase : Phase} :
    named? text = some phase ↔
      ∃ word, Named word phase ∧ LongestWord (trimChars text.toList) word.toList := by
  constructor
  · intro named
    refine ⟨_, mem_keywords_iff.mp (mem_keywords_of_named? named), ?_⟩
    rw [longestWord_iff, String.toList_ofList]
  · rintro ⟨word, named, longest⟩
    have listed : ∀ pair ∈ keywords, keywords.lookup pair.1 = some pair.2 := by decide
    rw [named?, longestWord_iff.mp longest, String.ofList_toList]
    exact listed _ (mem_keywords_iff.mpr named)

/-- A keyword where a text begins, up to the border of the word. -/
def keyword (word : String) : Expression :=
  .next (.spelled word) .border

theorem keyword_match?_iff {word : String} {text : List Char} (run : Run isWord word.toList) :
    ((keyword word).match? text).isSome = true ↔ LongestWord text word.toList := by
  -- Behind a word character the border is where the word stops.
  have border (rest : List Char) : atBorder ([] ++ word.toList) rest = true ↔
      Stops isWord rest := by
    have ends := List.getLast?_eq_some_getLast run.nonempty
    have inside : isWord (word.toList.getLast run.nonempty) = true :=
      run.inside _ (List.getLast_mem run.nonempty)
    rw [List.nil_append, atBorder, ends, Option.any_some, inside]
    cases rest <;> simp [Stops]
  rw [match?_isSome_iff, longestWord_iff]
  constructor
  · rintro ⟨_, rest, _, rfl, _, _, _, _, rfl, rfl, ⟨rfl, rfl⟩, rfl, rfl, edge⟩
    rw [List.append_nil]
    exact takeWhile_run run.inside ((border rest).mp edge)
  · intro leads
    refine ⟨word.toList, text.dropWhile isWord, [], ?_, word.toList, [], [], [], ?_, rfl,
      ⟨rfl, rfl⟩, rfl, rfl, (border _).mpr fun char first => ?_⟩
    · rw [← leads, leadingWord, List.takeWhile_append_dropWhile]
    · rw [List.append_nil]
    · simpa [first] using List.head?_dropWhile_not isWord text

/-- The phase of the first keyword in a table that matches a text. -/
def select? (table : List (String × Phase)) (text : List Char) : Option Phase :=
  (table.find? fun entry => ((keyword entry.1).match? text).isSome).map Prod.snd

theorem select?_eq_some_iff {table : List (String × Phase)} {text : List Char} {phase : Phase}
    (rearranged : table.Perm keywords) :
    select? table text = some phase ↔ ∃ word, Named word phase ∧ LongestWord text word.toList := by
  have listed {word : String} {phase : Phase} : (word, phase) ∈ table ↔ Named word phase :=
    rearranged.mem_iff.trans mem_keywords_iff
  have sound {phase : Phase} (selected : select? table text = some phase) :
      ∃ word, Named word phase ∧ LongestWord text word.toList := by
    obtain ⟨⟨word, _⟩, found, rfl⟩ := Option.map_eq_some_iff.mp selected
    have named := listed.mp (List.mem_of_find?_eq_some found)
    have matched : ((keyword word).match? text).isSome = true := by
      simpa using List.find?_some found
    exact ⟨word, named, (keyword_match?_iff named.run).mp matched⟩
  refine ⟨sound, ?_⟩
  rintro ⟨word, named, longest⟩
  have matched := (keyword_match?_iff named.run).mpr longest
  cases selected : select? table text with
  | none =>
    have refused := List.find?_eq_none.mp (Option.map_eq_none_iff.mp selected)
    exact absurd matched (refused (word, phase) (listed.mpr named))
  | some found =>
    obtain ⟨other, also, again⟩ := sound selected
    obtain rfl : word = other :=
      String.toList_inj.mp ((longestWord_iff.mp longest).symm.trans (longestWord_iff.mp again))
    rw [named.unique also]

/-- What a table of keywords makes of an instruction. -/
def chosenBy (table : List (String × Phase)) (text : String) : Except Trouble (Option Phase) :=
  match select? table (trimChars text.toList) with
  | some phase => .ok (some phase)
  | none => Trouble.raise (.unknownInstruction text)

/-- The first phase decides by the leading word, whatever the order of the keywords. -/
theorem execute_work_on {machine : Machine} {text : String} {table : List (String × Phase)}
    (found : machine.program.current = .ok (some text)) (rearranged : table.Perm keywords) :
    Phase.execute.work.on machine = (chosenBy table text, machine) := by
  have same : select? table (trimChars text.toList) = named? text := by
    apply Option.ext
    intro phase
    rw [select?_eq_some_iff rearranged, named?_eq_some_iff]
  rw [work_on, plan, found, chosenBy, same]
  cases named : named? text <;> simp only [named] <;> rfl

theorem chosenBy_eq_ok_iff {text : String} {phase : Phase} :
    chosenBy keywords text = .ok (some phase) ↔
      ∃ word, Named word phase ∧ LongestWord (trimChars text.toList) word.toList := by
  rw [← select?_eq_some_iff (List.Perm.refl keywords), chosenBy]
  cases select? keywords (trimChars text.toList) <;> simp [Trouble.raise]

theorem chosenBy_eq_error_iff {text : String} :
    chosenBy keywords text = .error (.ofCause (.unknownInstruction text)) ↔
      ∀ word phase, Named word phase → ¬ LongestWord (trimChars text.toList) word.toList := by
  have unselected : (∀ word phase, Named word phase →
      ¬ LongestWord (trimChars text.toList) word.toList) ↔
      select? keywords (trimChars text.toList) = none := by
    rw [Option.eq_none_iff_forall_ne_some]
    simp only [ne_eq, select?_eq_some_iff (List.Perm.refl keywords), not_exists, not_and]
    exact forall_comm
  rw [unselected, chosenBy]
  cases select? keywords (trimChars text.toList) <;> simp [Trouble.raise]

end Phase

namespace Statement

/-- The phase that the keyword of a form names. -/
def Form.opening : Form → Phase
  | .assign _ => .assign
  | .jump => .goto
  | .branch => .branch
  | .output => .output

/-- The phase that carries a form out. -/
def Form.carrier : Form → Phase
  | .assign .arithmetic => .arithmetic
  | form => form.opening

theorem opening_form (statement : Statement) : statement.form.opening = statement.opening := by
  cases statement <;> rfl

theorem carrier_form (statement : Statement) : statement.form.carrier = statement.carrier := by
  cases statement with
  | assign target origin => cases origin <;> rfl
  | _ => rfl

/-- A phase with work of its own refuses the statements that it neither opens nor carries out. -/
theorem work_of_other {machine : Machine} {text : String} {statement : Statement} {phase : Phase}
    (found : machine.program.current = .ok (some text))
    (read : parse? (trim text).toList = some statement)
    (inside : phase ≠ .execute ∧ phase ≠ .finish)
    (notOpening : phase ≠ statement.opening) (notCarrier : phase ≠ statement.carrier) :
    phase.work.on machine = (.error (.ofCause (phase.invalid (trim text))), machine) := by
  rw [Phase.work_on, Phase.plan_of_current inside found, Phase.planFor, read]
  simp only [notOpening.symm, notCarrier.symm, if_false]
  rfl

end Statement

namespace Machine

/-- Dispatching depends on the longest leading word alone, and a text of a form goes to the phase
that knows the form. -/
theorem execute_dispatches (machine : Machine) (text : String)
    (found : machine.program.current = .ok (some text)) :
    (∀ phase, Phase.execute.work.on machine = (.ok (some phase), machine) ↔
      ∃ word, Phase.Named word phase ∧ LongestWord (trimChars text.toList) word.toList) ∧
    (Phase.execute.work.on machine = (.error (.ofCause (.unknownInstruction text)), machine) ↔
      ∀ word phase, Phase.Named word phase → ¬ LongestWord (trimChars text.toList) word.toList) ∧
    (Trouble.ofCause (.unknownInstruction text)).toFault.message =
      "Unknown instruction: `" ++ text ++ "`" ∧
    (∀ table : List (String × Phase), table.Perm Phase.keywords →
      Phase.execute.work.on machine = (Phase.chosenBy table text, machine)) ∧
    ∀ (form : Form) (kept : List (List Char)),
      form.expression.match? (trimChars text.toList) = some kept →
      ∃ statement : Statement, statement.form = form ∧ statement.captures = kept ∧
        Phase.execute.work.on machine = (.ok (some form.opening), machine) ∧
        (form.carrier ≠ form.opening →
          form.opening.work.on machine = (.ok (some form.carrier), machine)) ∧
        form.carrier.work.on machine = machine.follow (statement.plan machine.program) ∧
        ∀ phase : Phase, phase ≠ .execute ∧ phase ≠ .finish → phase ≠ form.opening →
          phase ≠ form.carrier →
          phase.work.on machine = (.error (.ofCause (phase.invalid (trim text))), machine) := by
  have chosen {table : List (String × Phase)} (rearranged : table.Perm Phase.keywords) :
      Phase.execute.work.on machine = (Phase.chosenBy table text, machine) :=
    Phase.execute_work_on found rearranged
  have decides : Phase.execute.work.on machine = (Phase.chosenBy Phase.keywords text, machine) :=
    chosen (List.Perm.refl Phase.keywords)
  refine ⟨?_, ?_, rfl, fun _ => chosen, ?_⟩
  · intro phase
    rw [decides, Prod.mk.injEq, and_iff_left rfl, Phase.chosenBy_eq_ok_iff]
  · rw [decides, Prod.mk.injEq, and_iff_left rfl, Phase.chosenBy_eq_error_iff]
  · intro form kept matched
    have solid : ∀ char, (trimChars text.toList).getLast? = some char → isBlank char = false :=
      fun char last => getLast?_trimEnd last
    obtain ⟨statement, rfl, rfl, written⟩ := (match?_eq_some_iff form solid (.same _)).mp matched
    have read : Statement.parse? (trim text).toList = some statement := by
      rw [trim, String.toList_ofList]
      exact Statement.parse?_eq_some_iff.mpr written
    rw [statement.opening_form, statement.carrier_form]
    refine ⟨statement, rfl, rfl, ?_, ?_, ?_, ?_⟩
    · rw [Phase.work_on, Phase.plan_execute_of_named? found (Phase.named?_of_parse? read)]
      rfl
    · intro apart
      rw [Phase.work_on, Phase.plan_opening found read apart]
      rfl
    · rw [Phase.work_on, Phase.plan_carrier found read]
    · intro phase inside notOpening notCarrier
      exact Statement.work_of_other found read inside notOpening notCarrier

/-- A keyword with a combining mark behind it, which is in no word. -/
def accentedJump : Machine where
  program := .ofListing { registers := [], statements := [" goto\u0301 0"] }
  console := { inputs := [] }

/-- The word ends before the mark, so the text goes to the phase of the keyword, though it is no
jump. -/
theorem accentedJump_dispatched :
    accentedJump.program.current = .ok (some " goto\u0301 0") ∧
      Phase.execute.work.on accentedJump = (.ok (some .goto), accentedJump) := by
  have found : accentedJump.program.current = .ok (some " goto\u0301 0") := rfl
  have longest : LongestWord (trimChars " goto\u0301 0".toList) "goto".toList :=
    longestWord_iff.mpr (by decide +kernel)
  exact ⟨found, ((execute_dispatches accentedJump _ found).1 .goto).mpr ⟨"goto", .goto, longest⟩⟩

end Machine

end LineScript
