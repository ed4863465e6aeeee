import LineScript.Proofs.Statement.Reading

/-!
The grammar of statements. A text writes a statement with white space of any choice at its
separators: some after a keyword and around the `goto` of a branch, and as much as one likes, or
none, around every other sign. The reader accepts exactly the texts that write a statement, so no
text writes two of them.
-/

namespace LineScript

open Text

/-- A word that stops goes on stopping behind white space. -/
theorem Text.Blanks.stops {gap rest : List Char} (blanks : Blanks gap) (stops : Stops isWord rest) :
    Stops isWord (gap ++ rest) := by
  cases gap with
  | nil => exact stops
  | cons first more => exact stops_cons (isWord_of_isBlank (blanks first List.mem_cons_self))

/-- The sign of an operator. -/
def Operator.symbol : Operator → Char
  | .add => '+'
  | .subtract => '-'
  | .multiply => '*'
  | .divide => '/'

/-- The sign of a comparison. -/
def Comparison.symbol : Comparison → String
  | .less => "<"
  | .atMost => "<="
  | .greater => ">"
  | .atLeast => ">="
  | .equal => "="
  | .unequal => "!="

/-- A text writes a literal: digits, or anything but quotes between two of them. -/
inductive Literal.Written : Literal → List Char → Prop where
  | digits {text : List Char} (digits : Run isDigit text) :
    Written (.digits (String.ofList text)) text
  | quoted {inner : List Char} (inside : '"' ∉ inner) :
      Written (.quoted (String.ofList inner)) ('"' :: inner ++ ['"'])

/-- A text writes where an assigned value comes from. -/
inductive Origin.Written : Origin → List Char → Prop where
  | literal {literal : Literal} {text : List Char} (written : literal.Written text) :
      Written (.literal literal) text
  | stack : Written .stack "pop".toList
  | input : Written .input "input".toList
  | copy {source : List Char} (named : Run isWord source) :
      Written (.copy (String.ofList source)) ('$' :: source)
  | arithmetic {left before after right : List Char} (operator : Operator)
    (leftNamed : Run isWord left)
      (blanks : Blanks before) (more : Blanks after) (rightNamed : Run isWord right) :
      Written (.arithmetic (String.ofList left) operator (String.ofList right))
        ('$' :: left ++ before ++ operator.symbol :: after ++ '$' :: right)

/-- A text writes a statement. -/
inductive Statement.Written : Statement → List Char → Prop where
  | assign {gap target before after value : List Char} {origin : Origin} (parted : Run isBlank gap)
      (named : Run isWord target) (blanks : Blanks before) (more : Blanks after)
      (written : origin.Written value) :
      Written (.assign (String.ofList target) origin)
        ("let".toList ++ gap ++ '$' :: target ++ before ++ '=' :: after ++ value)
  | jump {gap line : List Char} (parted : Run isBlank gap) (digits : Run isDigit line) :
      Written (.jump (String.ofList line)) ("goto".toList ++ gap ++ line)
  | branch {gap left before after right middle last line : List Char} (comparison : Comparison)
      (parted : Run isBlank gap) (leftNamed : Run isWord left) (blanks : Blanks before)
      (more : Blanks after) (rightNamed : Run isWord right) (partedGoto : Run isBlank middle)
      (partedLine : Run isBlank last) (digits : Run isDigit line) :
      Written (.branch (String.ofList left) comparison (String.ofList right) (String.ofList line))
        ("if".toList ++ gap ++ '$' :: left ++ before ++ comparison.symbol.toList ++ after ++
          '$' :: right ++ middle ++ "goto".toList ++ last ++ line)
  | output {gap name : List Char} (parted : Run isBlank gap) (named : Run isWord name) :
      Written (.output (String.ofList name)) ("output".toList ++ gap ++ '$' :: name)

namespace Statement

variable {text rest : List Char} {name line : String} {statement other : Statement}

theorem afterBlanks?_eq_some_iff :
    afterBlanks? text = some rest ↔
      ∃ gap, text = gap ++ rest ∧ Run isBlank gap ∧ Stops isBlank rest := by
  cases text with
  | nil =>
    constructor
    · intro read
      cases read
    · rintro ⟨gap, parts, ⟨nonempty, -⟩, -⟩
      exact absurd (List.append_eq_nil_iff.mp parts.symm).1 nonempty
  | cons first more =>
    rw [afterBlanks?, Option.ite_none_right_eq_some, Option.some.injEq, dropWhile_eq_iff]
    constructor
    · rintro ⟨blank, run, rfl, inside, stops⟩
      exact ⟨first :: run, rfl,
        ⟨List.cons_ne_nil first run, List.forall_mem_cons.mpr ⟨blank, inside⟩⟩, stops⟩
    · rintro ⟨gap, parts, ⟨nonempty, inside⟩, stops⟩
      cases gap with
      | nil => exact absurd rfl nonempty
      | cons char run =>
        obtain ⟨rfl, rfl⟩ := List.cons.inj parts
        obtain ⟨blank, blanks⟩ := List.forall_mem_cons.mp inside
        exact ⟨blank, run, rfl, blanks, stops⟩

theorem afterKeyword?_eq_some_iff {word : String} :
    afterKeyword? word text = some rest ↔
      ∃ gap, text = word.toList ++ (gap ++ rest) ∧ Run isBlank gap ∧ Stops isBlank rest := by
  rw [afterKeyword?, Option.bind_eq_bind, Option.bind_eq_some_iff]
  simp only [after?_eq_some_iff, afterBlanks?_eq_some_iff]
  constructor
  · rintro ⟨after, rfl, gap, rfl, parted, stops⟩
    exact ⟨gap, rfl, parted, stops⟩
  · rintro ⟨gap, rfl, parted, stops⟩
    exact ⟨gap ++ rest, rfl, gap, rfl, parted, stops⟩

theorem afterKeyword?_of_run {gap : List Char} (word : String) (parted : Run isBlank gap)
    (stops : Stops isBlank rest) : afterKeyword? word (word.toList ++ (gap ++ rest)) = some rest :=
  afterKeyword?_eq_some_iff.mpr ⟨gap, rfl, parted, stops⟩

theorem afterEquals?_eq_some_iff :
    afterSign? "=" text = some rest ↔
      ∃ before after, text = before ++ '=' :: (after ++ rest) ∧ Blanks before ∧ Blanks after ∧
        Stops isBlank rest := by
  rw [afterSign?, Option.bind_eq_bind, Option.bind_eq_some_iff]
  simp only [after?_eq_some_iff, Option.pure_def, Option.some.injEq, dropWhile_eq_iff]
  constructor
  · rintro ⟨after, ⟨before, rfl, blanks, -⟩, run, rfl, more, stops⟩
    exact ⟨before, run, rfl, blanks, more, stops⟩
  · rintro ⟨before, after, rfl, blanks, more, stops⟩
    exact ⟨after ++ rest, ⟨before, rfl, blanks, stops_cons (by decide)⟩, after, rfl, more, stops⟩

theorem takeVariable?_eq_some_iff :
    takeVariable? text = some (name, rest) ↔
      ∃ chars, name = String.ofList chars ∧ text = '$' :: (chars ++ rest) ∧ Run isWord chars ∧
        Stops isWord rest := by
  constructor
  · intro read
    rw [takeVariable?.eq_def] at read
    split at read
    · rename_i tail
      rw [Option.ite_none_left_eq_some] at read
      obtain ⟨nonempty, same⟩ := read
      obtain ⟨rfl, dropped⟩ := Prod.mk.inj (Option.some.inj same)
      obtain ⟨run, rfl, inside, stops⟩ := dropWhile_eq_iff.mp dropped
      rw [takeWhile_run inside stops] at nonempty ⊢
      have filled : run ≠ [] := fun empty => nonempty (List.isEmpty_iff.mpr empty)
      exact ⟨run, rfl, rfl, ⟨filled, inside⟩, stops⟩
    · cases read
  · rintro ⟨chars, rfl, rfl, ⟨nonempty, inside⟩, stops⟩
    exact takeVariable?_of_word nonempty inside stops

theorem lastVariable?_eq_some_iff :
    lastVariable? text = some name ↔
      ∃ chars, name = String.ofList chars ∧ text = '$' :: chars ∧ Run isWord chars := by
  have taken : lastVariable? text = some name ↔ takeVariable? text = some (name, []) := by
    rw [lastVariable?]
    constructor
    · intro read
      split at read
      · rename_i found
        rw [found, Option.some.inj read]
      · cases read
    · intro read
      rw [read]
  rw [taken, takeVariable?_eq_some_iff]
  simp only [List.append_nil, stops_nil, and_true]

theorem digits?_eq_some_iff :
    digits? text = some line ↔ line = String.ofList text ∧ Run isDigit text := by
  rw [digits?, Option.ite_none_right_eq_some, Option.some.injEq, Bool.and_eq_true,
    Bool.not_eq_true', List.isEmpty_eq_false_iff, List.all_eq_true]
  constructor
  · rintro ⟨⟨nonempty, inside⟩, rfl⟩
    exact ⟨rfl, nonempty, inside⟩
  · rintro ⟨rfl, nonempty, inside⟩
    exact ⟨⟨nonempty, inside⟩, rfl⟩

end Statement

open Statement

variable {text rest : List Char}

theorem Operator.parse?_eq_some_iff {operator : Operator} :
    Operator.parse? text = some (operator, rest) ↔ text = operator.symbol :: rest := by
  constructor
  · intro read
    rw [parse?.eq_def] at read
    split at read <;> cases read <;> rfl
  · rintro rfl
    cases operator <;> rfl

theorem Comparison.append_of_parse? {comparison : Comparison}
    (read : Comparison.parse? text = some (comparison, rest)) :
    text = comparison.symbol.toList ++ rest := by
  rw [parse?.eq_def] at read
  split at read <;> cases read <;> rfl

/-- A comparison is read whole: what follows it does not make it a longer one. -/
theorem Comparison.parse?_append (comparison : Comparison) (stop : rest.head? ≠ some '=') :
    Comparison.parse? (comparison.symbol.toList ++ rest) = some (comparison, rest) := by
  have apart : ∀ more, rest ≠ '=' :: more := by
    rintro more rfl
    exact stop rfl
  cases comparison with
  | less => exact parse?.eq_4 rest apart
  | greater => exact parse?.eq_5 rest apart
  | _ => rfl

theorem Literal.parse?_eq_some_iff {literal : Literal} :
    Literal.parse? text = some literal ↔ literal.Written text := by
  constructor
  · intro read
    rw [parse?.eq_def] at read
    split at read
    · rename_i tail
      rw [Option.ite_none_right_eq_some] at read
      obtain ⟨closing, same⟩ := read
      obtain rfl := Option.some.inj same
      obtain ⟨inner, rfl, inside, stops⟩ := dropWhile_eq_iff.mp closing
      rw [takeWhile_run inside stops]
      refine .quoted fun quote => ?_
      exact absurd (inside '"' quote) (by decide)
    · obtain ⟨line, digits, rfl⟩ := Option.map_eq_some_iff.mp read
      obtain ⟨rfl, run⟩ := digits?_eq_some_iff.mp digits
      exact .digits run
  · intro written
    cases written with
    | digits run => exact literal_of_digits run.nonempty run.inside
    | quoted inside => exact literal_of_quoted inside

/-- What begins a literal: a digit or a quote. -/
theorem Literal.Written.begins {literal : Literal} (written : literal.Written text) :
    ∃ first, text.head? = some first ∧ (isDigit first = true ∨ first = '"') := by
  cases written with
  | digits run =>
    obtain ⟨first, more, rfl⟩ := List.exists_cons_of_ne_nil run.nonempty
    exact ⟨first, rfl, .inl (run.inside first List.mem_cons_self)⟩
  | quoted inside => exact ⟨'"', rfl, .inr rfl⟩

namespace Origin

variable {origin : Origin}

theorem written_of_ofVariables? (read : ofVariables? text = some origin) : origin.Written text := by
  obtain ⟨⟨left, rest⟩, taken, goesOn⟩ := Option.bind_eq_some_iff.mp read
  clear read
  obtain ⟨chars, rfl, rfl, named, -⟩ := takeVariable?_eq_some_iff.mp taken
  dsimp only at goesOn
  split at goesOn
  · rename_i alone
    obtain rfl := List.isEmpty_iff.mp alone
    obtain rfl := Option.some.inj goesOn
    rw [List.append_nil]
    exact .copy named
  · obtain ⟨⟨operator, after⟩, signed, ends⟩ := Option.bind_eq_some_iff.mp goesOn
    obtain ⟨right, last, same⟩ := Option.bind_eq_some_iff.mp ends
    obtain ⟨before, rfl, blanks, -⟩ := dropWhile_eq_iff.mp (Operator.parse?_eq_some_iff.mp signed)
    obtain ⟨name, rfl, found, rightNamed⟩ := lastVariable?_eq_some_iff.mp last
    obtain ⟨more, rfl, fill, -⟩ := dropWhile_eq_iff.mp found
    obtain rfl := Option.some.inj same
    have written := Written.arithmetic operator named blanks fill rightNamed
    simpa only [List.append_assoc, List.cons_append] using written

theorem ofVariables?_copy {source : List Char} (named : Run isWord source) :
    ofVariables? ('$' :: source) = some (.copy (String.ofList source)) := by
  have taken : takeVariable? ('$' :: source) = some (String.ofList source, []) :=
    takeVariable?_eq_some_iff.mpr ⟨source, rfl, by rw [List.append_nil], named, stops_nil⟩
  rw [ofVariables?, taken]
  rfl

theorem isBlank_symbol (operator : Operator) : isBlank operator.symbol = false := by
  cases operator <;> decide

theorem isWord_symbol (operator : Operator) : isWord operator.symbol = false := by
  cases operator <;> decide +kernel

theorem ofVariables?_arithmetic {left before after right : List Char} (operator : Operator)
    (leftNamed : Run isWord left) (blanks : Blanks before) (more : Blanks after)
    (rightNamed : Run isWord right) :
    ofVariables? ('$' :: left ++ before ++ operator.symbol :: after ++ '$' :: right) =
      some (.arithmetic (String.ofList left) operator (String.ofList right)) := by
  have parts : '$' :: left ++ before ++ operator.symbol :: after ++ '$' :: right =
      '$' :: (left ++ (before ++ operator.symbol :: (after ++ '$' :: right))) := by
    simp only [List.append_assoc, List.cons_append]
  have border : Stops isWord (before ++ operator.symbol :: (after ++ '$' :: right)) :=
    blanks.stops (stops_cons (isWord_symbol operator))
  have taken := takeVariable?_eq_some_iff.mpr ⟨left, rfl, parts, leftNamed, border⟩
  have signed : (before ++ operator.symbol :: (after ++ '$' :: right)).dropWhile isBlank =
      operator.symbol :: (after ++ '$' :: right) :=
    dropWhile_run blanks (stops_cons (isBlank_symbol operator))
  have second : (after ++ '$' :: right).dropWhile isBlank = '$' :: right :=
    dropWhile_run more (stops_cons (by decide))
  have last := lastVariable?_eq_some_iff.mpr ⟨right, rfl, rfl, rightNamed⟩
  have goesOn : (before ++ operator.symbol :: (after ++ '$' :: right)).isEmpty = false := by
    simp
  rw [ofVariables?, taken]
  simp only [Option.bind_eq_bind, Option.bind_some, goesOn, signed,
    Operator.parse?_eq_some_iff.mpr rfl, second, last]
  rfl

theorem parse?_eq_some_iff : Origin.parse? text = some origin ↔ origin.Written text := by
  constructor
  · intro read
    rw [parse?] at read
    split at read
    · exact written_of_ofVariables? read
    · split at read
      · rename_i same
        obtain rfl := Option.some.inj read
        exact same ▸ .stack
      · split at read
        · rename_i same
          obtain rfl := Option.some.inj read
          exact same ▸ .input
        · obtain ⟨literal, found, rfl⟩ := Option.map_eq_some_iff.mp read
          exact .literal (Literal.parse?_eq_some_iff.mp found)
  · intro written
    cases written with
    | literal written =>
      obtain ⟨first, begins, apart⟩ := written.begins
      exact origin_of_literal begins apart (Literal.parse?_eq_some_iff.mpr written)
    | stack => rfl
    | input => rfl
    | copy named => exact ofVariables?_copy named
    | arithmetic operator leftNamed blanks more rightNamed =>
      exact ofVariables?_arithmetic operator leftNamed blanks more rightNamed

/-- What an assigned value is written in does not begin with white space. -/
theorem Written.stops (written : origin.Written text) : Stops isBlank text := by
  cases written with
  | literal written =>
    obtain ⟨first, begins, apart⟩ := written.begins
    intro char head
    rw [begins] at head
    obtain rfl := Option.some.inj head
    rcases apart with digit | rfl
    · exact isBlank_of_isDigit digit
    · decide
  | stack => exact stops_cons (by decide)
  | input => exact stops_cons (by decide)
  | copy => exact stops_cons (by decide)
  | arithmetic => exact stops_cons (by decide)

theorem Written.nonempty (written : origin.Written text) : text ≠ [] := by
  cases written with
  | literal written =>
    obtain ⟨first, begins, -⟩ := written.begins
    rintro rfl
    cases begins
  | arithmetic => simp
  | _ => exact List.cons_ne_nil _ _

/-- What an assigned value is written in does not end in white space, though a quoted literal may
hold some. -/
theorem Written.ends (written : origin.Written text) :
    ∀ char, text.getLast? = some char → isBlank char = false := by
  cases written with
  | literal written =>
    cases written with
    | digits digits => exact digits.ends (fun _ => isBlank_of_isDigit) []
    | quoted =>
      intro char last
      rw [List.getLast?_concat] at last
      obtain rfl := Option.some.inj last
      decide
  | stack =>
    intro char last
    obtain rfl := Option.some.inj last
    decide
  | input =>
    intro char last
    obtain rfl := Option.some.inj last
    decide
  | copy named => exact named.ends (fun _ => isBlank_of_isWord) ['$']
  | arithmetic _ _ _ _ rightNamed =>
    rw [List.append_cons _ '$']
    exact rightNamed.ends (fun _ => isBlank_of_isWord) _

end Origin

namespace Statement

variable {statement other : Statement} {line : String} {gap before after : List Char}

theorem assignment?_of_written {target value : List Char} {origin : Origin}
    (parted : Run isBlank gap)
    (named : Run isWord target) (blanks : Blanks before) (more : Blanks after)
    (written : origin.Written value) :
    assignment? ("let".toList ++ (gap ++ '$' :: (target ++ (before ++ '=' :: (after ++ value))))) =
      some (.assign (String.ofList target) origin) := by
  have border : Stops isWord (before ++ '=' :: (after ++ value)) :=
    blanks.stops (stops_cons (by decide +kernel))
  have taken := takeVariable?_eq_some_iff.mpr ⟨target, rfl, rfl, named, border⟩
  have sign := afterEquals?_eq_some_iff.mpr ⟨before, after, rfl, blanks, more, written.stops⟩
  rw [assignment?, afterKeyword?_of_run "let" parted stops_variable]
  simp only [Option.bind_eq_bind, Option.bind_some, taken, sign,
    Origin.parse?_eq_some_iff.mpr written]
  rfl

theorem assignment?_eq_some_iff :
    assignment? text = some statement ↔
      ∃ target origin, statement = .assign target origin ∧ statement.Written text := by
  constructor
  · intro read
    obtain ⟨afterLet, begins, afterTarget⟩ := Option.bind_eq_some_iff.mp read
    obtain ⟨⟨target, rest⟩, taken, afterSign⟩ := Option.bind_eq_some_iff.mp afterTarget
    obtain ⟨value, sign, ends⟩ := Option.bind_eq_some_iff.mp afterSign
    obtain ⟨origin, found, same⟩ := Option.bind_eq_some_iff.mp ends
    obtain ⟨gap, rfl, parted, -⟩ := afterKeyword?_eq_some_iff.mp begins
    obtain ⟨chars, rfl, rfl, named, -⟩ := takeVariable?_eq_some_iff.mp taken
    obtain ⟨before, after, rfl, blanks, more, -⟩ := afterEquals?_eq_some_iff.mp sign
    obtain rfl := Option.some.inj same
    have written := Written.assign parted named blanks more (Origin.parse?_eq_some_iff.mp found)
    exact ⟨_, _, rfl, by simpa only [List.append_assoc, List.cons_append] using written⟩
  · rintro ⟨target, origin, rfl, written⟩
    cases written with
    | assign parted named blanks more written =>
      simpa only [List.append_assoc, List.cons_append] using
        assignment?_of_written parted named blanks more written

theorem jump?_eq_some_iff : jump? text = some line ↔ (Statement.jump line).Written text := by
  constructor
  · intro read
    obtain ⟨rest, begins, digits⟩ := Option.bind_eq_some_iff.mp read
    obtain ⟨gap, rfl, parted, -⟩ := afterKeyword?_eq_some_iff.mp begins
    obtain ⟨rfl, run⟩ := digits?_eq_some_iff.mp digits
    rw [← List.append_assoc]
    exact .jump parted run
  · intro written
    cases written with
    | @jump gap digits parted run =>
      have border : Stops isBlank digits := by
        rw [← List.append_nil digits]
        exact run.stops (fun _ => isBlank_of_isDigit) []
      rw [List.append_assoc, jump?, afterKeyword?_of_run "goto" parted border]
      exact digits?_eq_some_iff.mpr ⟨rfl, run⟩

theorem solid_of_jump? (read : jump? text = some line) : Stops isBlank text := by
  obtain ⟨rest, begins, -⟩ := Option.bind_eq_some_iff.mp read
  obtain ⟨gap, rfl, -⟩ := afterKeyword?_eq_some_iff.mp begins
  exact stops_cons (show isBlank 'g' = false by decide)

theorem output?_eq_some_iff :
    output? text = some statement ↔ ∃ name, statement = .output name ∧ statement.Written text := by
  constructor
  · intro read
    obtain ⟨rest, begins, ends⟩ := Option.bind_eq_some_iff.mp read
    obtain ⟨name, last, same⟩ := Option.bind_eq_some_iff.mp ends
    obtain ⟨gap, rfl, parted, -⟩ := afterKeyword?_eq_some_iff.mp begins
    obtain ⟨chars, rfl, rfl, named⟩ := lastVariable?_eq_some_iff.mp last
    obtain rfl := Option.some.inj same
    rw [← List.append_assoc]
    exact ⟨_, rfl, .output parted named⟩
  · rintro ⟨name, rfl, written⟩
    cases written with
    | @output gap name parted named =>
      have last := lastVariable?_eq_some_iff.mpr ⟨name, rfl, rfl, named⟩
      rw [List.append_assoc, output?, afterKeyword?_of_run "output" parted stops_variable]
      simp only [Option.bind_eq_bind, Option.bind_some, last]
      rfl

theorem stops_symbol (comparison : Comparison) (inClass : Char → Bool)
    (other : ['<', '>', '=', '!'].all (!inClass ·) = true) :
    Stops inClass (comparison.symbol.toList ++ rest) := by
  simp only [List.all_cons, List.all_nil, Bool.and_true, Bool.and_eq_true,
    Bool.not_eq_true'] at other
  obtain ⟨less, greater, equals, mark⟩ := other
  cases comparison <;> exact stops_cons (by assumption)

theorem branch?_of_written {left right middle jump : List Char} (comparison : Comparison)
    (parted : Run isBlank gap) (leftNamed : Run isWord left) (blanks : Blanks before)
    (more : Blanks after) (rightNamed : Run isWord right) (partedGoto : Run isBlank middle)
    (jumps : jump? jump = some line) :
    branch? ("if".toList ++ (gap ++ '$' :: (left ++ (before ++ (comparison.symbol.toList ++
        (after ++ '$' :: (right ++ (middle ++ jump)))))))) =
      some (.branch (String.ofList left) comparison (String.ofList right) line) := by
  have border : Stops isWord (before ++ (comparison.symbol.toList ++
      (after ++ '$' :: (right ++ (middle ++ jump))))) :=
    blanks.stops (stops_symbol comparison isWord (by decide))
  have taken := takeVariable?_eq_some_iff.mpr ⟨left, rfl, rfl, leftNamed, border⟩
  have sign : (before ++ (comparison.symbol.toList ++
      (after ++ '$' :: (right ++ (middle ++ jump))))).dropWhile isBlank =
        comparison.symbol.toList ++ (after ++ '$' :: (right ++ (middle ++ jump))) :=
    dropWhile_run blanks (stops_symbol comparison isBlank (by decide))
  -- The sign is not continued by what follows it.
  have whole : (after ++ '$' :: (right ++ (middle ++ jump))).head? ≠ some '=' := by
    cases after with
    | nil => simp
    | cons first rest =>
      intro same
      obtain rfl := Option.some.inj same
      exact absurd (more '=' List.mem_cons_self) (by decide)
  have second : (after ++ '$' :: (right ++ (middle ++ jump))).dropWhile isBlank =
      '$' :: (right ++ (middle ++ jump)) :=
    dropWhile_run more (stops_cons (by decide))
  have borderRight : Stops isWord (middle ++ jump) :=
    partedGoto.stops (fun _ => isWord_of_isBlank) jump
  have takenRight := takeVariable?_eq_some_iff.mpr ⟨right, rfl, rfl, rightNamed, borderRight⟩
  have parting := afterBlanks?_eq_some_iff.mpr ⟨middle, rfl, partedGoto, solid_of_jump? jumps⟩
  rw [branch?, afterKeyword?_of_run "if" parted stops_variable]
  simp only [Option.bind_eq_bind, Option.bind_some, taken, sign,
    Comparison.parse?_append comparison whole, second, takenRight, parting, jumps]
  rfl

theorem branch?_eq_some_iff :
    branch? text = some statement ↔
      ∃ left comparison right line, statement = .branch left comparison right line ∧
        statement.Written text := by
  constructor
  · intro read
    obtain ⟨afterIf, begins, afterLeft⟩ := Option.bind_eq_some_iff.mp read
    obtain ⟨⟨left, rest⟩, taken, afterSign⟩ := Option.bind_eq_some_iff.mp afterLeft
    obtain ⟨⟨comparison, rest⟩, compared, afterRight⟩ := Option.bind_eq_some_iff.mp afterSign
    obtain ⟨⟨right, rest⟩, takenRight, afterGap⟩ := Option.bind_eq_some_iff.mp afterRight
    obtain ⟨goto, parting, ends⟩ := Option.bind_eq_some_iff.mp afterGap
    obtain ⟨line, jump, same⟩ := Option.bind_eq_some_iff.mp ends
    obtain ⟨gap, rfl, parted, -⟩ := afterKeyword?_eq_some_iff.mp begins
    obtain ⟨leftChars, rfl, rfl, leftNamed, -⟩ := takeVariable?_eq_some_iff.mp taken
    obtain ⟨before, rfl, blanks, -⟩ := dropWhile_eq_iff.mp (Comparison.append_of_parse? compared)
    obtain ⟨rightChars, rfl, found, rightNamed, -⟩ := takeVariable?_eq_some_iff.mp takenRight
    obtain ⟨after, rfl, more, -⟩ := dropWhile_eq_iff.mp found
    obtain ⟨middle, rfl, partedGoto, -⟩ := afterBlanks?_eq_some_iff.mp parting
    obtain rfl := Option.some.inj same
    cases jump?_eq_some_iff.mp jump with
    | jump partedLine digits =>
      have written :=
        Written.branch comparison parted leftNamed blanks more rightNamed partedGoto partedLine
          digits
      exact ⟨_, _, _, _, rfl, by simpa only [List.append_assoc, List.cons_append] using written⟩
  · rintro ⟨left, comparison, right, line, rfl, written⟩
    cases written with
    | branch comparison parted leftNamed blanks more rightNamed partedGoto partedLine digits =>
      have jumps := jump?_eq_some_iff.mpr (.jump partedLine digits)
      simpa only [List.append_assoc, List.cons_append] using
        branch?_of_written comparison parted leftNamed blanks more rightNamed partedGoto jumps

/-- A text that writes a statement begins with the keyword of the statement. -/
theorem Written.leadingWord (written : statement.Written text) :
    Statement.leadingWord text = statement.keyword.toList := by
  have spelled : ∃ gap rest, text = statement.keyword.toList ++ (gap ++ rest) ∧
      Run isBlank gap := by
    cases written <;> simp only [List.append_assoc] <;> exact ⟨_, _, rfl, by assumption⟩
  obtain ⟨gap, rest, rfl, parted⟩ := spelled
  exact takeWhile_run statement.isWord_of_mem_keyword
    (parted.stops (fun _ => isWord_of_isBlank) rest)

theorem afterKeyword?_eq_none {word : String} (solid : ∀ char ∈ word.toList, isWord char = true)
    (apart : leadingWord text ≠ word.toList) : afterKeyword? word text = none := by
  cases begins : afterKeyword? word text with
  | none => rfl
  | some rest => exact absurd (leadingWord_of_afterKeyword? solid begins) apart

/-- The reader accepts exactly the texts that write a statement. -/
theorem parse?_eq_some_iff : parse? text = some statement ↔ statement.Written text := by
  constructor
  · intro read
    rcases parse?_cases read with assign | branch | jump | output
    · obtain ⟨-, -, -, written⟩ := assignment?_eq_some_iff.mp assign
      exact written
    · obtain ⟨-, -, -, -, -, written⟩ := branch?_eq_some_iff.mp branch
      exact written
    · obtain ⟨line, digits, rfl⟩ := Option.map_eq_some_iff.mp jump
      exact jump?_eq_some_iff.mp digits
    · obtain ⟨-, -, written⟩ := output?_eq_some_iff.mp output
      exact written
  · intro written
    -- The readers of the other keywords fail at the first word.
    have passes (word : String) (solid : ∀ char ∈ word.toList, isWord char = true)
        (apart : statement.keyword.toList ≠ word.toList) : afterKeyword? word text = none := by
      apply afterKeyword?_eq_none solid
      rwa [written.leadingWord]
    cases statement with
    | assign target origin =>
      have read := assignment?_eq_some_iff.mpr ⟨target, origin, rfl, written⟩
      rw [parse?, read]
      rfl
    | branch left comparison right line =>
      have read := branch?_eq_some_iff.mpr ⟨left, comparison, right, line, rfl, written⟩
      have noAssignment := passes "let" (List.all_eq_true.mp (by decide)) (by simp [keyword])
      rw [parse?, assignment?, noAssignment, read]
      rfl
    | jump line =>
      have read := jump?_eq_some_iff.mpr written
      have noAssignment := passes "let" (List.all_eq_true.mp (by decide)) (by simp [keyword])
      have noBranch := passes "if" (List.all_eq_true.mp (by decide)) (by simp [keyword])
      rw [parse?, assignment?, noAssignment, branch?, noBranch, read]
      rfl
    | output name =>
      have read := output?_eq_some_iff.mpr ⟨name, rfl, written⟩
      have noAssignment := passes "let" (List.all_eq_true.mp (by decide)) (by simp [keyword])
      have noBranch := passes "if" (List.all_eq_true.mp (by decide)) (by simp [keyword])
      have noJump := passes "goto" (List.all_eq_true.mp (by decide)) (by simp [keyword])
      rw [parse?, assignment?, noAssignment, branch?, noBranch, jump?, noJump, read]
      rfl

theorem Written.stops (written : statement.Written text) : Stops isBlank text := by
  cases written with
  | assign => exact stops_cons (show isBlank 'l' = false by decide)
  | jump => exact stops_cons (show isBlank 'g' = false by decide)
  | branch => exact stops_cons (show isBlank 'i' = false by decide)
  | output => exact stops_cons (show isBlank 'o' = false by decide)

theorem Written.ends (written : statement.Written text) :
    ∀ char, text.getLast? = some char → isBlank char = false := by
  cases written with
  | assign _ _ _ _ written =>
    rw [List.getLast?_append_of_ne_nil _ written.nonempty]
    exact written.ends
  | jump _ digits => exact digits.ends (fun _ => isBlank_of_isDigit) _
  | branch _ _ _ _ _ _ _ _ digits => exact digits.ends (fun _ => isBlank_of_isDigit) _
  | output _ named =>
    rw [List.append_cons]
    exact named.ends (fun _ => isBlank_of_isWord) _

theorem Written.nonempty (written : statement.Written text) : text ≠ [] := by
  cases written <;> exact List.cons_ne_nil _ _

/-- Trimming takes the white space around a statement and nothing of the statement. -/
theorem Written.trimChars (written : statement.Written text) (blanks : Blanks (before ++ after)) :
    Text.trimChars (before ++ text ++ after) = text :=
  trim_between written.nonempty blanks written.stops written.ends

/-- No text writes two statements. -/
theorem Written.unique (written : statement.Written text) (also : other.Written text) :
    statement = other := by
  have read := parse?_eq_some_iff.mpr written
  rw [parse?_eq_some_iff.mpr also] at read
  exact (Option.some.inj read).symm

end Statement

end LineScript
