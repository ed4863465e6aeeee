import LineScript.Proofs.Machine.Plan
import LineScript.Proofs.Text.Classes
import LineScript.Proofs.Text.Spans

/-!
Reading statements. The leading word of a text that writes a statement is the keyword of that
statement, so the phase that it names is the one that begins the statement; a literal is read as the
value that it writes, and its characters stand in the statement.
-/

namespace LineScript.Statement

open Text

variable {text rest : List Char} {statement : Statement}

theorem after?_eq_some_iff {word : String} :
    after? word text = some rest ↔ text = word.toList ++ rest := by
  rw [after?]
  constructor
  · intro read
    split at read
    · rename_i begins
      obtain ⟨tail, rfl⟩ := List.isPrefixOf_iff_prefix.mp begins
      obtain rfl := Option.some.inj read
      rw [List.drop_left]
    · contradiction
  · rintro rfl
    rw [if_pos (List.isPrefixOf_iff_prefix.mpr (List.prefix_append _ _)), List.drop_left]

theorem leadingWord_of_afterKeyword? {keyword : String}
    (solid : ∀ char ∈ keyword.toList, isWord char = true)
    (read : afterKeyword? keyword text = some rest) : leadingWord text = keyword.toList := by
  obtain ⟨after, begins, blanks⟩ := Option.bind_eq_some_iff.mp read
  obtain rfl := after?_eq_some_iff.mp begins
  refine takeWhile_run solid fun char head => ?_
  cases after with
  | nil => cases head
  | cons first more =>
    obtain rfl := Option.some.inj head
    rw [afterBlanks?, Option.ite_none_right_eq_some] at blanks
    exact isWord_of_isBlank blanks.1

/-- The keyword of a statement. -/
def keyword : Statement → String
  | .assign .. => "let"
  | .jump _ => "goto"
  | .branch .. => "if"
  | .output _ => "output"

theorem isWord_of_mem_keyword (statement : Statement) :
    ∀ char ∈ statement.keyword.toList, isWord char = true := by
  refine List.all_eq_true.mp ?_
  cases statement <;> simp only [keyword] <;> decide

theorem lookup_keyword (statement : Statement) :
    Phase.keywords.lookup statement.keyword = some statement.opening := by
  cases statement <;> rfl

theorem parse?_cases (read : parse? text = some statement) :
    assignment? text = some statement ∨ branch? text = some statement ∨
      (jump? text).map .jump = some statement ∨ output? text = some statement := by
  simp only [parse?, Option.orElse_eq_orElse, Option.orElse_eq_or, Option.or_eq_some_iff] at read
  rcases read with assign | ⟨-, branch | ⟨-, jump | ⟨-, output⟩⟩⟩
  · exact .inl assign
  · exact .inr (.inl branch)
  · exact .inr (.inr (.inl jump))
  · exact .inr (.inr (.inr output))

theorem exists_afterKeyword?_of_parse? (read : parse? text = some statement) :
    ∃ rest, afterKeyword? statement.keyword text = some rest := by
  rcases parse?_cases read with assign | branch | jump | output
  · obtain ⟨rest, begins, read⟩ := Option.bind_eq_some_iff.mp assign
    obtain ⟨⟨target, rest⟩, -, read⟩ := Option.bind_eq_some_iff.mp read
    obtain ⟨value, -, read⟩ := Option.bind_eq_some_iff.mp read
    obtain ⟨origin, -, read⟩ := Option.bind_eq_some_iff.mp read
    obtain rfl := Option.some.inj read
    exact ⟨_, begins⟩
  · obtain ⟨rest, begins, read⟩ := Option.bind_eq_some_iff.mp branch
    obtain ⟨⟨left, rest⟩, -, read⟩ := Option.bind_eq_some_iff.mp read
    obtain ⟨⟨comparison, rest⟩, -, read⟩ := Option.bind_eq_some_iff.mp read
    obtain ⟨⟨right, rest⟩, -, read⟩ := Option.bind_eq_some_iff.mp read
    obtain ⟨blanks, -, read⟩ := Option.bind_eq_some_iff.mp read
    obtain ⟨line, -, read⟩ := Option.bind_eq_some_iff.mp read
    obtain rfl := Option.some.inj read
    exact ⟨_, begins⟩
  · obtain ⟨line, digits, rfl⟩ := Option.map_eq_some_iff.mp jump
    obtain ⟨rest, begins, -⟩ := Option.bind_eq_some_iff.mp digits
    exact ⟨rest, begins⟩
  · obtain ⟨rest, begins, read⟩ := Option.bind_eq_some_iff.mp output
    obtain ⟨name, -, read⟩ := Option.bind_eq_some_iff.mp read
    obtain rfl := Option.some.inj read
    exact ⟨_, begins⟩

theorem leadingWord_of_parse? (read : parse? text = some statement) :
    leadingWord text = statement.keyword.toList := by
  obtain ⟨rest, begins⟩ := exists_afterKeyword?_of_parse? read
  exact leadingWord_of_afterKeyword? statement.isWord_of_mem_keyword begins

theorem takeVariable?_of_word {name : List Char} (nonempty : name ≠ [])
    (inside : ∀ char ∈ name, isWord char = true)
    (stop : ∀ char, rest.head? = some char → isWord char = false) :
    takeVariable? ('$' :: (name ++ rest)) = some (String.ofList name, rest) := by
  rw [takeVariable?, takeWhile_run inside stop, dropWhile_run inside stop]
  simp [nonempty]

/-- The text of an assignment with one space wherever white space may stand. -/
def assignmentText (name value : List Char) : List Char :=
  "let".toList ++ ' ' :: '$' :: (name ++ ' ' :: ("=".toList ++ ' ' :: value))

/-- An assignment reads as its target and its origin. -/
theorem parse?_assignmentText {name value : List Char} {origin : Origin} (nonempty : name ≠ [])
    (inside : ∀ char ∈ name, isWord char = true)
    (solid : ∀ char, value.head? = some char → isBlank char = false)
    (read : Origin.parse? value = some origin) :
    parse? (assignmentText name value) = some (.assign (String.ofList name) origin) := by
  have keyword : afterKeyword? "let" (assignmentText name value) =
      some ('$' :: (name ++ ' ' :: ("=".toList ++ ' ' :: value))) := by
    have spelled : after? "let" (assignmentText name value) =
        some (' ' :: '$' :: (name ++ ' ' :: ("=".toList ++ ' ' :: value))) :=
      after?_eq_some_iff.mpr rfl
    rw [afterKeyword?, spelled]
    simp [afterBlanks?, show isBlank ' ' = true by decide, show isBlank '$' = false by decide]
  have target : takeVariable? ('$' :: (name ++ ' ' :: ("=".toList ++ ' ' :: value))) =
      some (String.ofList name, ' ' :: ("=".toList ++ ' ' :: value)) := by
    refine takeVariable?_of_word nonempty inside fun char head => ?_
    obtain rfl := Option.some.inj head
    decide
  have sign : afterSign? "=" (' ' :: ("=".toList ++ ' ' :: value)) = some value := by
    have blanks : (' ' :: ("=".toList ++ ' ' :: value)).dropWhile isBlank =
        "=".toList ++ ' ' :: value := by
      simp [show isBlank ' ' = true by decide, show isBlank '=' = false by decide]
    have opening : (' ' :: value).dropWhile isBlank = value := by
      rw [List.dropWhile_cons_of_pos (by decide)]
      exact dropWhile_run (List.forall_mem_nil _) solid
    rw [afterSign?, blanks, after?_eq_some_iff.mpr rfl]
    exact congrArg some opening
  have assign : assignment? (assignmentText name value) =
      some (.assign (String.ofList name) origin) := by
    rw [assignment?, keyword]
    simp only [Option.bind_eq_bind, Option.bind_some, target, sign, read]
    rfl
  rw [parse?, assign]
  rfl

theorem literal_of_digits (nonempty : text ≠ []) (digits : ∀ char ∈ text, isDigit char = true) :
    Literal.parse? text = some (.digits (String.ofList text)) := by
  have plain : ∀ rest, text ≠ '"' :: rest := by
    rintro rest rfl
    exact absurd (digits '"' List.mem_cons_self) (by decide)
  have all : text.all isDigit = true := List.all_eq_true.mpr digits
  rw [Literal.parse?, digits?]
  · simp [nonempty, all]
  · exact plain

theorem literal_of_quoted (inside : '"' ∉ text) :
    Literal.parse? ('"' :: (text ++ ['"'])) = some (.quoted (String.ofList text)) := by
  have letters : ∀ char ∈ text, (char != '"') = true :=
    fun char member => bne_iff_ne.mpr fun same => inside (same ▸ member)
  have closing : ∀ char, ['"'].head? = some char → (char != '"') = false := by
    simp
  rw [Literal.parse?, takeWhile_run letters closing, dropWhile_run letters closing, if_pos rfl]

/-- A text that begins like a literal is no variable and no keyword of an origin. -/
theorem origin_of_literal {literal : Literal} {first : Char} (begins : text.head? = some first)
    (apart : isDigit first = true ∨ first = '"') (read : Literal.parse? text = some literal) :
    Origin.parse? text = some (.literal literal) := by
  have other (char : Char) (neither : isDigit char = false ∧ char ≠ '"') : first ≠ char := by
    rintro rfl
    simp [neither] at apart
  have name : text.head? ≠ some '$' := by
    rw [begins]
    exact fun same => other '$' (by decide) (Option.some.inj same)
  have stack : text ≠ "pop".toList := by
    rintro rfl
    exact other 'p' (by decide) (Option.some.inj begins).symm
  have input : text ≠ "input".toList := by
    rintro rfl
    exact other 'i' (by decide) (Option.some.inj begins).symm
  rw [Origin.parse?, if_neg name, if_neg stack, if_neg input, read, Option.map_some]

/-- What a reader leaves is a part of what it was given. -/
theorem after?_suffix {word : String} (read : after? word text = some rest) : rest <:+ text := by
  rw [after?_eq_some_iff.mp read]
  exact List.suffix_append _ _

theorem afterBlanks?_suffix (read : afterBlanks? text = some rest) : rest <:+ text := by
  cases text with
  | nil => cases read
  | cons char tail =>
    rw [afterBlanks?, Option.ite_none_right_eq_some] at read
    obtain rfl := Option.some.inj read.2
    exact (List.dropWhile_suffix _).trans (List.suffix_cons char tail)

theorem afterKeyword?_suffix {keyword : String} (read : afterKeyword? keyword text = some rest) :
    rest <:+ text := by
  obtain ⟨after, begins, blanks⟩ := Option.bind_eq_some_iff.mp read
  exact (afterBlanks?_suffix blanks).trans (after?_suffix begins)

theorem afterSign?_suffix {sign : String} (read : afterSign? sign text = some rest) :
    rest <:+ text := by
  obtain ⟨after, begins, same⟩ := Option.bind_eq_some_iff.mp read
  obtain rfl := Option.some.inj same
  exact (List.dropWhile_suffix _).trans ((after?_suffix begins).trans (List.dropWhile_suffix _))

theorem takeVariable?_suffix {name : String} (read : takeVariable? text = some (name, rest)) :
    rest <:+ text := by
  rw [takeVariable?.eq_def] at read
  split at read
  · rename_i tail
    rw [Option.ite_none_left_eq_some] at read
    obtain ⟨-, rfl⟩ := Prod.mk.inj (Option.some.inj read.2)
    exact (List.dropWhile_suffix _).trans (List.suffix_cons '$' tail)
  · cases read

theorem mem_of_mem_literal {literal : Literal} (read : Literal.parse? text = some literal) :
    ∀ char ∈ literal.value.toList, char ∈ text := by
  rw [Literal.parse?.eq_def] at read
  split at read
  · rename_i tail
    rw [Option.ite_none_right_eq_some] at read
    obtain rfl := Option.some.inj read.2
    intro char member
    rw [Literal.value, String.toList_ofList] at member
    exact List.mem_cons_of_mem '"' ((List.takeWhile_prefix _).subset member)
  · obtain ⟨digits, digit, rfl⟩ := Option.map_eq_some_iff.mp read
    rw [digits?, Option.ite_none_right_eq_some] at digit
    obtain rfl := Option.some.inj digit.2
    intro char member
    rwa [Literal.value, String.toList_ofList] at member

theorem literal_of_origin {literal : Literal}
    (read : Origin.parse? text = some (.literal literal)) :
    Literal.parse? text = some literal := by
  rw [Origin.parse?] at read
  split at read
  · obtain ⟨⟨left, rest⟩, -, read⟩ := Option.bind_eq_some_iff.mp read
    dsimp only at read
    split at read
    · cases read
    · obtain ⟨⟨operator, rest⟩, -, read⟩ := Option.bind_eq_some_iff.mp read
      obtain ⟨right, -, read⟩ := Option.bind_eq_some_iff.mp read
      cases read
  · split at read
    · cases read
    · split at read
      · cases read
      · obtain ⟨found, literal, same⟩ := Option.map_eq_some_iff.mp read
        cases same
        exact literal

/-- An assignment is read from a keyword, a variable, a sign and an origin. -/
theorem origin_of_parse? {target : String} {origin : Origin}
    (read : parse? text = some (.assign target origin)) :
    ∃ rest, rest <:+ text ∧ Origin.parse? rest = some origin := by
  rcases parse?_cases read with assign | branch | jump | output
  · obtain ⟨afterLet, begins, read⟩ := Option.bind_eq_some_iff.mp assign
    obtain ⟨⟨name, afterName⟩, named, read⟩ := Option.bind_eq_some_iff.mp read
    obtain ⟨rest, sign, read⟩ := Option.bind_eq_some_iff.mp read
    obtain ⟨found, origin, same⟩ := Option.bind_eq_some_iff.mp read
    cases same
    have inside := (takeVariable?_suffix named).trans (afterKeyword?_suffix begins)
    exact ⟨rest, (afterSign?_suffix sign).trans inside, origin⟩
  · obtain ⟨afterIf, -, read⟩ := Option.bind_eq_some_iff.mp branch
    obtain ⟨⟨left, rest⟩, -, read⟩ := Option.bind_eq_some_iff.mp read
    obtain ⟨⟨comparison, rest⟩, -, read⟩ := Option.bind_eq_some_iff.mp read
    obtain ⟨⟨right, rest⟩, -, read⟩ := Option.bind_eq_some_iff.mp read
    obtain ⟨blanks, -, read⟩ := Option.bind_eq_some_iff.mp read
    obtain ⟨line, -, read⟩ := Option.bind_eq_some_iff.mp read
    cases read
  · obtain ⟨line, -, same⟩ := Option.map_eq_some_iff.mp jump
    cases same
  · obtain ⟨rest, -, read⟩ := Option.bind_eq_some_iff.mp output
    obtain ⟨name, -, read⟩ := Option.bind_eq_some_iff.mp read
    cases read

/-- A literal is part of the statement that assigns it. -/
theorem mem_of_mem_assigned {target : String} {literal : Literal}
    (read : parse? text = some (.assign target (.literal literal))) :
    ∀ char ∈ literal.value.toList, char ∈ text := by
  obtain ⟨rest, inside, origin⟩ := origin_of_parse? read
  exact fun char member =>
    inside.subset (mem_of_mem_literal (literal_of_origin origin) char member)

end LineScript.Statement

namespace LineScript.Phase

variable {program : Program} {text : String} {statement : Statement}

/-- The keyword of a statement names the phase that begins it. -/
theorem named?_of_parse? (read : Statement.parse? (Text.trim text).toList = some statement) :
    named? text = some statement.opening := by
  rw [Text.trim, String.toList_ofList] at read
  rw [named?, Statement.leadingWord_of_parse? read, String.ofList_toList, Statement.lookup_keyword]

/-- A named phase is listed with the leading word of the instruction. -/
theorem mem_keywords_of_named? {next : Phase} (named : named? text = some next) :
    (String.ofList (Statement.leadingWord (Text.trimChars text.toList)), next) ∈ keywords := by
  obtain ⟨before, after, parts, -⟩ := List.lookup_eq_some_iff.mp named
  rw [parts]
  exact List.mem_append_right before List.mem_cons_self

/-- No keyword names the phase that looks for keywords. -/
theorem ne_execute_of_named? {next : Phase} (named : named? text = some next) :
    next ≠ .execute := by
  have listed : ∀ pair ∈ keywords, pair.2 ≠ .execute := by decide
  exact listed _ (mem_keywords_of_named? named)

theorem plan_execute_of_named? {next : Phase} (found : program.current = .ok (some text))
    (named : named? text = some next) :
    Phase.execute.plan program = .ok (.proceed program (some next)) := by
  simp [plan, found, named]

/-- A phase other than the first and the last looks at the current instruction. -/
theorem plan_of_current {phase : Phase} (inside : phase ≠ .execute ∧ phase ≠ .finish)
    (found : program.current = .ok (some text)) :
    phase.plan program = phase.planFor program (Text.trim text) := by
  have trimmed : program.trimmedInstruction = .ok (Text.trim text) := by
    rw [Program.trimmedInstruction, found]
  cases phase with
  | execute => exact absurd rfl inside.1
  | finish => exact absurd rfl inside.2
  | _ => simp only [plan, trimmed, bind, Except.bind]

theorem carrier_inside (statement : Statement) :
    statement.carrier ≠ .execute ∧ statement.carrier ≠ .finish := by
  cases statement with
  | assign target origin => cases origin <;> simp [Statement.carrier, Statement.opening]
  | _ => simp [Statement.carrier, Statement.opening]

theorem opening_inside (statement : Statement) :
    statement.opening ≠ .execute ∧ statement.opening ≠ .finish := by
  cases statement <;> simp [Statement.opening]

/-- The phase that carries a statement out wants what the statement wants. -/
theorem plan_carrier (found : program.current = .ok (some text))
    (read : Statement.parse? (Text.trim text).toList = some statement) :
    statement.carrier.plan program = statement.plan program := by
  rw [plan_of_current (carrier_inside statement) found, planFor, read]
  simp

/-- The phase that only the keyword names hands the statement on. -/
theorem plan_opening (found : program.current = .ok (some text))
    (read : Statement.parse? (Text.trim text).toList = some statement)
    (apart : statement.carrier ≠ statement.opening) :
    statement.opening.plan program = .ok (.proceed program (some statement.carrier)) := by
  rw [plan_of_current (opening_inside statement) found, planFor, read]
  simp [apart]

end LineScript.Phase
