import LineScript.Proofs.Text.Spans
import LineScript.Text.Word

/-!
Regular expressions, as far as the shapes of statements need them. A matcher that goes back on its
choices tries the candidates of an expression one after another and keeps the first. Which
candidates there are does not depend on the order in which they are tried, so an expression whose
candidates all capture the same finds the same, however eager its repetitions are and however its
alternatives are ordered.
-/

namespace LineScript.Text

/-- An eager repetition tries its longest run first, any other its shortest. The border is the edge
of a word, and the finish the end of the text or the line feed that ends it. -/
inductive Expression where
  | spelled (word : String)
  | one (inClass : Char → Bool)
  | many (eager : Bool) (inClass : Char → Bool)
  | next (first second : Expression)
  | either (first second : Expression)
  | group (inner : Expression)
  | border
  | finish

/-- A part of a text that an expression matches, what follows it, and the parts that the groups
capture. -/
structure Candidate where
  part : List Char
  rest : List Char
  kept : List (List Char)

namespace Expression

/-- At least one character of a class, as many as there are. -/
def run (inClass : Char → Bool) : Expression :=
  .next (.one inClass) (.many true inClass)

/-- Any number of characters of a class, as many as there are. -/
def any (inClass : Char → Bool) : Expression :=
  .many true inClass

def row : List Expression → Expression
  | [] => .spelled ""
  | first :: more => .next first (row more)

/-- One of several fixed texts, the earlier ones tried first. -/
def oneOf (first : String) : List String → Expression
  | [] => .spelled first
  | second :: more => .either (.spelled first) (oneOf second more)

/-- How far a repetition goes, in the order in which that is tried. -/
def repeats (eager : Bool) (inClass : Char → Bool) : List Char → List Candidate
  | [] => [⟨[], [], []⟩]
  | char :: text =>
    if inClass char then
      let longer := (repeats eager inClass text).map fun found =>
        ⟨char :: found.part, found.rest, []⟩
      if eager then longer ++ [⟨[], char :: text, []⟩] else ⟨[], char :: text, []⟩ :: longer
    else [⟨[], char :: text, []⟩]

/-- One side of a position is in a word and the other is not. -/
def atBorder (before text : List Char) : Bool :=
  before.getLast?.any isWord != text.head?.any isWord

/-- What an expression matches at the beginning of a text, in the order in which that is tried. -/
def candidates : Expression → (before text : List Char) → List Candidate
  | .spelled word, _, text =>
    if word.toList.isPrefixOf text then [⟨word.toList, text.drop word.toList.length, []⟩] else []
  | .one inClass, _, text =>
    match text with
    | [] => []
    | char :: rest => if inClass char then [⟨[char], rest, []⟩] else []
  | .many eager inClass, _, text => repeats eager inClass text
  | .next first second, before, text =>
    (first.candidates before text).flatMap fun head =>
      (second.candidates (before ++ head.part) head.rest).map fun tail =>
        ⟨head.part ++ tail.part, tail.rest, head.kept ++ tail.kept⟩
  | .either first second, before,
    text => first.candidates before text ++ second.candidates before text
  | .group inner, before, text =>
    (inner.candidates before text).map fun found =>
      ⟨found.part, found.rest, found.part :: found.kept⟩
  | .border, before, text => if atBorder before text then [⟨[], text, []⟩] else []
  | .finish, _, text => if text = [] ∨ text = ['\n'] then [⟨[], text, []⟩] else []

/-- What the groups capture where an expression matches the beginning of a text. -/
def match? (expression : Expression) (text : List Char) : Option (List (List Char)) :=
  (expression.candidates [] text).head?.map Candidate.kept

/-- An expression matches a part of a text between what is before it and the rest. -/
def Matches : Expression → (before part rest : List Char) → (kept : List (List Char)) → Prop
  | .spelled word, _, part, _, kept => part = word.toList ∧ kept = []
  | .one inClass, _, part, _, kept => (∃ char, part = [char] ∧ inClass char = true) ∧ kept = []
  | .many _ inClass, _, part, _, kept => (∀ char ∈ part, inClass char = true) ∧ kept = []
  | .next first second, before, part, rest, kept =>
    ∃ head tail more others, part = head ++ tail ∧ kept = more ++ others ∧
      first.Matches before head (tail ++ rest) more ∧
        second.Matches (before ++ head) tail rest others
  | .either first second, before, part, rest, kept =>
    first.Matches before part rest kept ∨ second.Matches before part rest kept
  | .group inner, before, part, rest, kept =>
    ∃ more, kept = part :: more ∧ inner.Matches before part rest more
  | .border, before, part, rest, kept => part = [] ∧ kept = [] ∧ atBorder before rest = true
  | .finish, _, part, rest, kept => part = [] ∧ kept = [] ∧ (rest = [] ∨ rest = ['\n'])

variable {expression other : Expression} {inClass : Char → Bool} {text before part rest : List Char}
  {kept : List (List Char)} {found : Candidate}

theorem mem_repeats_iff (eager : Bool) :
    found ∈ repeats eager inClass text ↔
      text = found.part ++ found.rest ∧ (∀ char ∈ found.part, inClass char = true) ∧
        found.kept = [] := by
  induction text generalizing found with
  | nil =>
    obtain ⟨part, rest, kept⟩ := found
    simp only [repeats, List.mem_singleton, Candidate.mk.injEq, List.nil_eq, List.append_eq_nil_iff]
    constructor
    · rintro ⟨rfl, rfl, rfl⟩
      exact ⟨⟨rfl, rfl⟩, List.forall_mem_nil _, rfl⟩
    · rintro ⟨⟨rfl, rfl⟩, -, rfl⟩
      exact ⟨rfl, rfl, rfl⟩
  | cons char text ih =>
    have stays : found = ⟨[], char :: text, []⟩ ↔
        found.part = [] ∧ found.rest = char :: text ∧ found.kept = [] := by
      cases found
      simp only [Candidate.mk.injEq]
    have either : found ∈ repeats eager inClass (char :: text) ↔
        found = ⟨[], char :: text, []⟩ ∨ inClass char = true ∧
          ∃ shorter ∈ repeats eager inClass text,
            ⟨char :: shorter.part, shorter.rest, []⟩ = found := by
      rw [repeats]
      cases inClass char <;> cases eager <;> simp [or_comm]
    rw [either, stays]
    constructor
    · rintro (⟨empty, left, none⟩ | ⟨inside, shorter, member, rfl⟩)
      · simp [empty, left, none]
      · obtain ⟨parts, others, -⟩ := ih.mp member
        exact ⟨congrArg (char :: ·) parts, List.forall_mem_cons.mpr ⟨inside, others⟩, rfl⟩
    · obtain ⟨part, rest, kept⟩ := found
      rintro ⟨parts, inside, rfl⟩
      cases part with
      | nil => exact .inl ⟨rfl, parts.symm, rfl⟩
      | cons first more =>
        obtain ⟨rfl, rfl⟩ := List.cons.inj parts
        obtain ⟨one, others⟩ := List.forall_mem_cons.mp inside
        exact .inr ⟨one, ⟨more, rest, []⟩, ih.mpr ⟨rfl, others, rfl⟩, rfl⟩

theorem mem_candidates_spelled {word : String} :
    found ∈ (spelled word).candidates before text ↔
      text = found.part ++ found.rest ∧ found.part = word.toList ∧ found.kept = [] := by
  obtain ⟨part, rest, kept⟩ := found
  rw [candidates, List.mem_ite_nil_right, List.mem_singleton, List.isPrefixOf_iff_prefix]
  constructor
  · rintro ⟨⟨tail, rfl⟩, same⟩
    obtain ⟨rfl, left, rfl⟩ := Candidate.mk.inj same
    rw [List.drop_left] at left
    exact ⟨left ▸ rfl, rfl, rfl⟩
  · rintro ⟨rfl, rfl, rfl⟩
    refine ⟨List.prefix_append _ _, ?_⟩
    rw [List.drop_left]

theorem mem_candidates_one :
    found ∈ (one inClass).candidates before text ↔
      text = found.part ++ found.rest ∧ (∃ char, found.part = [char] ∧ inClass char = true) ∧
        found.kept = [] := by
  obtain ⟨part, rest, kept⟩ := found
  cases text with
  | nil =>
    constructor
    · intro member
      cases member
    · rintro ⟨parts, ⟨char, rfl, -⟩, -⟩
      cases parts
  | cons char text =>
    rw [candidates, List.mem_ite_nil_right, List.mem_singleton]
    constructor
    · rintro ⟨inside, same⟩
      obtain ⟨rfl, rfl, rfl⟩ := Candidate.mk.inj same
      exact ⟨rfl, ⟨char, rfl, inside⟩, rfl⟩
    · rintro ⟨parts, ⟨first, rfl, inside⟩, rfl⟩
      obtain ⟨rfl, rfl⟩ := List.cons.inj parts
      exact ⟨inside, rfl⟩

/-- The candidates of an expression that only looks at where it stands. -/
theorem mem_candidates_standing (looks : List Char → Prop) [DecidablePred looks] :
    found ∈ (if looks text then [(⟨[], text, []⟩ : Candidate)] else []) ↔
      text = found.part ++ found.rest ∧ found.part = [] ∧ found.kept = [] ∧ looks found.rest := by
  obtain ⟨part, rest, kept⟩ := found
  rw [List.mem_ite_nil_right, List.mem_singleton, Candidate.mk.injEq]
  constructor
  · rintro ⟨fits, rfl, rfl, rfl⟩
    exact ⟨rfl, rfl, rfl, fits⟩
  · rintro ⟨rfl, rfl, rfl, fits⟩
    exact ⟨fits, rfl, rfl, rfl⟩

/-- The candidates of an expression are the parts that it matches. -/
theorem mem_candidates_iff :
    found ∈ expression.candidates before text ↔
      text = found.part ++ found.rest ∧
        expression.Matches before found.part found.rest found.kept := by
  induction expression generalizing before text found with
  | spelled word => exact mem_candidates_spelled
  | one inClass => exact mem_candidates_one
  | many eager inClass => exact mem_repeats_iff eager
  | next first second ihFirst ihSecond =>
    simp only [candidates, List.mem_flatMap, List.mem_map]
    constructor
    · rintro ⟨head, begins, tail, goesOn, rfl⟩
      obtain ⟨parts, matched⟩ := ihFirst.mp begins
      obtain ⟨ends, last⟩ := ihSecond.mp goesOn
      refine ⟨?_, head.part, tail.part, head.kept, tail.kept, rfl, rfl, ends ▸ matched, last⟩
      rw [parts, ends, List.append_assoc]
    · obtain ⟨part, rest, kept⟩ := found
      rintro ⟨parts, head, tail, more, others, rfl, rfl, begins, ends⟩
      rw [List.append_assoc] at parts
      exact ⟨⟨head, tail ++ rest, more⟩, ihFirst.mpr ⟨parts, begins⟩, ⟨tail, rest, others⟩,
        ihSecond.mpr ⟨rfl, ends⟩, rfl⟩
  | either first second ihFirst ihSecond =>
    rw [candidates, List.mem_append, ihFirst, ihSecond, Matches, ← and_or_left]
  | group inner ih =>
    obtain ⟨part, rest, kept⟩ := found
    rw [candidates, List.mem_map]
    constructor
    · rintro ⟨within, member, same⟩
      obtain ⟨rfl, rfl, rfl⟩ := Candidate.mk.inj same
      obtain ⟨parts, matched⟩ := ih.mp member
      exact ⟨parts, within.kept, rfl, matched⟩
    · rintro ⟨parts, more, same, matched⟩
      exact ⟨⟨part, rest, more⟩, ih.mpr ⟨parts, matched⟩,
        congrArg (Candidate.mk part rest) same.symm⟩
  | border => exact mem_candidates_standing (atBorder before · = true)
  | finish => exact mem_candidates_standing fun text => text = [] ∨ text = ['\n']

theorem match?_isSome_iff :
    (expression.match? text).isSome = true ↔
      ∃ part rest kept, text = part ++ rest ∧ expression.Matches [] part rest kept := by
  rw [match?, Option.isSome_map, List.isSome_head?]
  constructor
  · intro nonempty
    obtain ⟨found, member⟩ := List.exists_mem_of_ne_nil _ nonempty
    exact ⟨found.part, found.rest, found.kept, mem_candidates_iff.mp member⟩
  · rintro ⟨part, rest, kept, matched⟩
    have member : ⟨part, rest, kept⟩ ∈ expression.candidates [] text :=
      mem_candidates_iff.mpr matched
    exact List.ne_nil_of_mem member

/-- Where all candidates capture the same, it does not matter which of them is tried first. -/
theorem match?_eq_some_iff
    (same : ∀ part rest kept part' rest' kept', text = part ++ rest → text = part' ++ rest' →
      expression.Matches [] part rest kept → expression.Matches [] part' rest' kept' →
        kept = kept') :
    expression.match? text = some kept ↔
      ∃ part rest, text = part ++ rest ∧ expression.Matches [] part rest kept := by
  rw [match?, Option.map_eq_some_iff]
  constructor
  · rintro ⟨found, first, rfl⟩
    exact ⟨found.part, found.rest, mem_candidates_iff.mp (List.mem_of_head? first)⟩
  · rintro ⟨part, rest, parts, matched⟩
    have member : ⟨part, rest, kept⟩ ∈ expression.candidates [] text :=
      mem_candidates_iff.mpr ⟨parts, matched⟩
    cases tried : expression.candidates [] text with
    | nil =>
      rw [tried] at member
      cases member
    | cons found more =>
      have first : found ∈ expression.candidates [] text := tried ▸ List.mem_cons_self
      obtain ⟨others, also⟩ := mem_candidates_iff.mp first
      exact ⟨found, rfl, same _ _ _ _ _ _ others parts also matched⟩

/-- Two expressions differ in the eagerness of repetitions and the order of alternatives only. -/
inductive Variant : Expression → Expression → Prop where
  | same (expression : Expression) : Variant expression expression
  | trans {first second third : Expression} (here : Variant first second)
    (there : Variant second third) :
      Variant first third
  | eagerness (eager other : Bool) (inClass : Char → Bool) :
    Variant (.many eager inClass) (.many other inClass)
  | next {first second first' second' : Expression} (begins : Variant first first')
      (ends : Variant second second') : Variant (.next first second) (.next first' second')
  | either {first second first' second' : Expression} (here : Variant first first')
      (there : Variant second second') : Variant (.either first second) (.either first' second')
  | group {inner other : Expression} (within : Variant inner other) :
    Variant (.group inner) (.group other)
  | swap (first second : Expression) : Variant (.either first second) (.either second first)
  | regroup (first second third : Expression) :
      Variant (.either first (.either second third)) (.either (.either first second) third)

theorem Variant.matches_iff (variant : expression.Variant other) :
    expression.Matches before part rest kept ↔ other.Matches before part rest kept := by
  induction variant generalizing before part rest kept with
  | same => rfl
  | trans _ _ ihHere ihThere => exact ihHere.trans ihThere
  | eagerness => rfl
  | next _ _ ihBegins ihEnds => simp only [Matches, ihBegins, ihEnds]
  | either _ _ ihHere ihThere => simp only [Matches, ihHere, ihThere]
  | group _ ih => simp only [Matches, ih]
  | swap first second => exact Or.comm
  | regroup first second third => exact or_assoc.symm

section Rows

variable {more : List Expression}

theorem matches_either :
    (either expression other).Matches before part rest kept ↔
      expression.Matches before part rest kept ∨ other.Matches before part rest kept :=
  Iff.rfl

theorem matches_row_nil : (row []).Matches before part rest kept ↔ part = [] ∧ kept = [] :=
  Iff.rfl

theorem matches_row_spelled {word : String} :
    (row (.spelled word :: more)).Matches before part rest kept ↔
      ∃ tail, part = word.toList ++ tail ∧
        (row more).Matches (before ++ word.toList) tail rest kept := by
  constructor
  · rintro ⟨_, tail, _, others, rfl, rfl, ⟨rfl, rfl⟩, ends⟩
    exact ⟨tail, rfl, ends⟩
  · rintro ⟨tail, rfl, ends⟩
    exact ⟨word.toList, tail, [], kept, rfl, rfl, ⟨rfl, rfl⟩, ends⟩

theorem matches_run :
    (run inClass).Matches before part rest kept ↔ Run inClass part ∧ kept = [] := by
  constructor
  · rintro ⟨_, tail, _, _, rfl, rfl, ⟨⟨char, rfl, inside⟩, rfl⟩, others, rfl⟩
    exact ⟨⟨List.cons_ne_nil char tail, List.forall_mem_cons.mpr ⟨inside, others⟩⟩, rfl⟩
  · rintro ⟨⟨nonempty, inside⟩, rfl⟩
    obtain ⟨char, tail, rfl⟩ := List.exists_cons_of_ne_nil nonempty
    obtain ⟨one, others⟩ := List.forall_mem_cons.mp inside
    exact ⟨[char], tail, [], [], rfl, rfl, ⟨⟨char, rfl, one⟩, rfl⟩, others, rfl⟩

theorem matches_row_run :
    (row (run inClass :: more)).Matches before part rest kept ↔
      ∃ head tail, part = head ++ tail ∧ Run inClass head ∧
        (row more).Matches (before ++ head) tail rest kept := by
  constructor
  · rintro ⟨head, tail, _, others, rfl, rfl, begins, ends⟩
    obtain ⟨inside, rfl⟩ := matches_run.mp begins
    exact ⟨head, tail, rfl, inside, ends⟩
  · rintro ⟨head, tail, rfl, inside, ends⟩
    exact ⟨head, tail, [], kept, rfl, rfl, matches_run.mpr ⟨inside, rfl⟩, ends⟩

theorem matches_row_any :
    (row (any inClass :: more)).Matches before part rest kept ↔
      ∃ head tail, part = head ++ tail ∧ (∀ char ∈ head, inClass char = true) ∧
        (row more).Matches (before ++ head) tail rest kept := by
  constructor
  · rintro ⟨head, tail, _, others, rfl, rfl, ⟨inside, rfl⟩, ends⟩
    exact ⟨head, tail, rfl, inside, ends⟩
  · rintro ⟨head, tail, rfl, inside, ends⟩
    exact ⟨head, tail, [], kept, rfl, rfl, ⟨inside, rfl⟩, ends⟩

theorem matches_row_group :
    (row (.group expression :: more)).Matches before part rest kept ↔
      ∃ head tail inside others, part = head ++ tail ∧ kept = head :: (inside ++ others) ∧
        expression.Matches before head (tail ++ rest) inside ∧
        (row more).Matches (before ++ head) tail rest others := by
  constructor
  · rintro ⟨head, tail, _, others, rfl, rfl, ⟨inside, rfl, begins⟩, ends⟩
    exact ⟨head, tail, inside, others, rfl, rfl, begins, ends⟩
  · rintro ⟨head, tail, inside, others, rfl, rfl, begins, ends⟩
    exact ⟨head, tail, head :: inside, others, rfl, rfl, ⟨inside, rfl, begins⟩, ends⟩

/-- A run that a group captures. -/
theorem matches_row_group_run :
    (row (.group (run inClass) :: more)).Matches before part rest kept ↔
      ∃ head tail others, part = head ++ tail ∧ kept = head :: others ∧ Run inClass head ∧
        (row more).Matches (before ++ head) tail rest others := by
  rw [matches_row_group]
  constructor
  · rintro ⟨head, tail, _, others, rfl, rfl, begins, ends⟩
    obtain ⟨inside, rfl⟩ := matches_run.mp begins
    exact ⟨head, tail, others, rfl, rfl, inside, ends⟩
  · rintro ⟨head, tail, others, rfl, rfl, inside, ends⟩
    exact ⟨head, tail, [], others, rfl, rfl, matches_run.mpr ⟨inside, rfl⟩, ends⟩

/-- A character that a group captures. -/
theorem matches_row_group_one :
    (row (.group (.one inClass) :: more)).Matches before part rest kept ↔
      ∃ char tail others, part = char :: tail ∧ kept = [char] :: others ∧ inClass char = true ∧
        (row more).Matches (before ++ [char]) tail rest others := by
  rw [matches_row_group]
  constructor
  · rintro ⟨_, tail, _, others, rfl, rfl, ⟨⟨char, rfl, inside⟩, rfl⟩, ends⟩
    exact ⟨char, tail, others, rfl, rfl, inside, ends⟩
  · rintro ⟨char, tail, others, rfl, rfl, inside, ends⟩
    exact ⟨[char], tail, [], others, rfl, rfl, ⟨⟨char, rfl, inside⟩, rfl⟩, ends⟩

theorem matches_oneOf {first : String} {words : List String} :
    (oneOf first words).Matches before part rest kept ↔
      (∃ word ∈ first :: words, part = word.toList) ∧ kept = [] := by
  induction words generalizing first with
  | nil => simp only [oneOf, Matches, List.mem_singleton, exists_eq_left]
  | cons second words ih =>
    simp only [oneOf, Matches, ih, List.mem_cons, or_and_right, exists_or, exists_eq_left]

/-- A fixed text that a group captures. -/
theorem matches_row_group_oneOf {first : String} {words : List String} :
    (row (.group (oneOf first words) :: more)).Matches before part rest kept ↔
      ∃ word tail others, part = word.toList ++ tail ∧ kept = word.toList :: others ∧
        word ∈ first :: words ∧ (row more).Matches (before ++ word.toList) tail rest others := by
  rw [matches_row_group]
  constructor
  · rintro ⟨_, tail, _, others, rfl, rfl, begins, ends⟩
    obtain ⟨⟨word, member, rfl⟩, rfl⟩ := matches_oneOf.mp begins
    exact ⟨word, tail, others, rfl, rfl, member, ends⟩
  · rintro ⟨word, tail, others, rfl, rfl, member, ends⟩
    exact ⟨word.toList, tail, [], others, rfl, rfl, matches_oneOf.mpr ⟨⟨word, member, rfl⟩, rfl⟩,
      ends⟩

end Rows

end Expression

end LineScript.Text
