import LineScript.Proofs.Statement.Grammar
import LineScript.Proofs.Text.Expressions

/-!
The forms of statements as regular expressions: five for assignments, by where the value comes from,
and one each for jumps, branches and outputs. Each expression matches the texts that write a
statement of its form and captures the fields of that statement, whichever of its candidates is
tried first.
-/

namespace LineScript

open Text Text.Expression

/-- Where an assigned value comes from, without its fields. -/
inductive Origin.Form where
  | literal
  | stack
  | arithmetic
  | input
  | copy
  deriving DecidableEq, Repr

/-- The kind of a statement, without its fields. -/
inductive Statement.Form where
  | assign (origin : Origin.Form)
  | jump
  | branch
  | output
  deriving DecidableEq, Repr

namespace Origin

/-- The forms of origins, in the order in which an assignment tries them. -/
def Form.all : List Form :=
  [.literal, .stack, .arithmetic, .input, .copy]

def form : Origin → Form
  | .literal _ => .literal
  | .stack => .stack
  | .input => .input
  | .copy _ => .copy
  | .arithmetic .. => .arithmetic

/-- What the groups of an origin's expression capture; a quoted literal is captured with its
quotes. -/
def captures : Origin → List (List Char)
  | .literal (.digits text) => [text.toList]
  | .literal (.quoted inner) => ['"' :: inner.toList ++ ['"']]
  | .stack => []
  | .input => []
  | .copy source => [source.toList]
  | .arithmetic left operator right => [left.toList, [operator.symbol], right.toList]

/-- The expression of an assigned value. -/
def Form.value : Form → List Expression
  | .literal =>
    [.group (.either (run isDigit) (row [.spelled "\"", any (· != '"'), .spelled "\""]))]
  | .stack => [.spelled "pop"]
  | .arithmetic =>
    [.spelled "$", .group (run isWord), any isBlank, .group (.one (['-', '+', '*', '/'].contains ·)),
      any isBlank, .spelled "$", .group (run isWord)]
  | .input => [.spelled "input"]
  | .copy => [.spelled "$", .group (run isWord)]

end Origin

namespace Statement

def form : Statement → Form
  | .assign _ origin => .assign origin.form
  | .jump _ => .jump
  | .branch .. => .branch
  | .output _ => .output

/-- What the groups of a statement's expression capture. -/
def captures : Statement → List (List Char)
  | .assign target origin => target.toList :: origin.captures
  | .jump line => [line.toList]
  | .branch left comparison right line =>
    [left.toList, comparison.symbol.toList, right.toList, line.toList]
  | .output name => [name.toList]

/-- The expression of a form, up to the end of the text. -/
def Form.body : Form → Expression
  | .assign origin =>
    row ([.spelled "let", run isBlank, .spelled "$", .group (run isWord), any isBlank, .spelled "=",
      any isBlank] ++ origin.value)
  | .jump => row [.spelled "goto", run isBlank, .group (run isDigit)]
  | .branch =>
    row [.spelled "if", run isBlank, .spelled "$", .group (run isWord), any isBlank,
      .group (oneOf "<=" [">=", "!=", "<", ">", "="]), any isBlank, .spelled "$", .group (run isWord),
      run isBlank, .spelled "goto", run isBlank, .group (run isDigit)]
  | .output => row [.spelled "output", run isBlank, .spelled "$", .group (run isWord)]

/-- The expression of a form matches whole texts. -/
def Form.expression (form : Form) : Expression :=
  .next form.body .finish

end Statement

variable {before part rest text : List Char} {kept : List (List Char)}

theorem Operator.exists_symbol_iff {char : Char} :
    ['-', '+', '*', '/'].contains char = true ↔ ∃ operator : Operator, operator.symbol = char := by
  constructor
  · intro member
    simp only [List.contains_cons, List.contains_nil, Bool.or_eq_true, beq_iff_eq,
      Bool.or_false] at member
    rcases member with rfl | rfl | rfl | rfl
    · exact ⟨.subtract, rfl⟩
    · exact ⟨.add, rfl⟩
    · exact ⟨.multiply, rfl⟩
    · exact ⟨.divide, rfl⟩
  · rintro ⟨operator, rfl⟩
    cases operator <;> rfl

theorem Comparison.exists_symbol_iff {word : String} :
    word ∈ ["<=", ">=", "!=", "<", ">", "="] ↔
      ∃ comparison : Comparison, comparison.symbol = word := by
  constructor
  · intro member
    simp only [List.mem_cons, List.not_mem_nil, or_false] at member
    rcases member with rfl | rfl | rfl | rfl | rfl | rfl
    · exact ⟨.atMost, rfl⟩
    · exact ⟨.atLeast, rfl⟩
    · exact ⟨.unequal, rfl⟩
    · exact ⟨.less, rfl⟩
    · exact ⟨.greater, rfl⟩
    · exact ⟨.equal, rfl⟩
  · rintro ⟨comparison, rfl⟩
    cases comparison <;> decide

namespace Origin

/-- What the expression of a value matches is a written origin. -/
theorem value_sound (form : Form) (matched : (row form.value).Matches before part rest kept) :
    ∃ origin : Origin, origin.form = form ∧ origin.captures = kept ∧ origin.Written part := by
  cases form with
  | literal =>
    simp only [Form.value, matches_row_group, matches_either, matches_run, matches_row_spelled,
      matches_row_any, matches_row_nil] at matched
    obtain ⟨head, _, _, _, rfl, rfl,
      ⟨digits, rfl⟩ | ⟨_, rfl, inner, _, rfl, inside, _, rfl, rfl, rfl⟩, rfl, rfl⟩ := matched
    · refine ⟨.literal (.digits (String.ofList head)), rfl, ?_, ?_⟩
      · simp [captures]
      · rw [List.append_nil]
        exact .literal (.digits digits)
    · have plain : '"' ∉ inner := fun quote => absurd (inside '"' quote) (by decide)
      refine ⟨.literal (.quoted (String.ofList inner)), rfl, ?_, ?_⟩
      · simp [captures]
      · simpa using Written.literal (.quoted plain)
  | stack =>
    simp only [Form.value, matches_row_spelled, matches_row_nil] at matched
    obtain ⟨_, rfl, rfl, rfl⟩ := matched
    exact ⟨.stack, rfl, rfl, .stack⟩
  | arithmetic =>
    simp only [Form.value, matches_row_spelled, matches_row_group_run, matches_row_any,
      matches_row_group_one, matches_row_nil] at matched
    obtain ⟨_, rfl, left, _, _, rfl, rfl, leftNamed, before, _, rfl, blanks, char, _, _, rfl, rfl,
      sign, after, _, rfl, more, _, rfl, right, _, _, rfl, rfl, rightNamed, rfl, rfl⟩ := matched
    obtain ⟨operator, rfl⟩ := Operator.exists_symbol_iff.mp sign
    refine ⟨.arithmetic (String.ofList left) operator (String.ofList right), rfl, ?_, ?_⟩
    · simp [captures]
    · simpa using Written.arithmetic operator leftNamed blanks more rightNamed
  | input =>
    simp only [Form.value, matches_row_spelled, matches_row_nil] at matched
    obtain ⟨_, rfl, rfl, rfl⟩ := matched
    exact ⟨.input, rfl, rfl, .input⟩
  | copy =>
    simp only [Form.value, matches_row_spelled, matches_row_group_run, matches_row_nil] at matched
    obtain ⟨_, rfl, source, _, _, rfl, rfl, named, rfl, rfl⟩ := matched
    rw [List.append_nil]
    exact ⟨.copy (String.ofList source), rfl, by simp [captures], .copy named⟩

/-- A written origin is matched by the expression of its form. -/
theorem Written.value_complete {origin : Origin} (written : origin.Written part) :
    (row origin.form.value).Matches before part rest origin.captures := by
  cases written with
  | literal written =>
    simp only [form, Form.value, matches_row_group, matches_either, matches_run,
      matches_row_spelled, matches_row_any, matches_row_nil]
    cases written with
    | digits digits =>
      exact ⟨part, [], [], [], by simp, by simp [captures], .inl ⟨digits, rfl⟩, rfl, rfl⟩
    | @quoted inner plain =>
      have inside : ∀ char ∈ inner, (char != '"') = true :=
        fun char member => bne_iff_ne.mpr fun same => plain (same ▸ member)
      exact ⟨'"' :: inner ++ ['"'], [], [], [], by simp, by simp [captures],
        .inr ⟨_, rfl, inner, _, rfl, inside, [], rfl, rfl, rfl⟩, rfl, rfl⟩
  | stack => exact matches_row_spelled.mpr ⟨[], rfl, rfl, rfl⟩
  | input => exact matches_row_spelled.mpr ⟨[], rfl, rfl, rfl⟩
  | @copy source named =>
    simp only [form, Form.value, matches_row_spelled, matches_row_group_run, matches_row_nil]
    exact ⟨source, rfl, source, [], [], by simp, by simp [captures], named, rfl, rfl⟩
  | @arithmetic left before after right operator leftNamed blanks more rightNamed =>
    simp only [form, Form.value, List.cons_append, List.append_assoc, captures,
      String.toList_ofList,
      matches_row_spelled, matches_row_group_run, matches_row_any, matches_row_group_one,
        matches_row_nil]
    have sign := Operator.exists_symbol_iff.mpr ⟨operator, rfl⟩
    exact ⟨_, rfl, left, _, _, rfl, rfl, leftNamed, before, _, rfl, blanks, operator.symbol, _, _,
      rfl, rfl,
      sign, after, _, rfl, more, _, rfl, right, [], [], by simp, rfl, rightNamed, rfl, rfl⟩

theorem value_matches_iff (form : Form) :
    (row form.value).Matches before part rest kept ↔
      ∃ origin : Origin, origin.form = form ∧ origin.captures = kept ∧ origin.Written part := by
  constructor
  · exact value_sound form
  · rintro ⟨origin, rfl, rfl, written⟩
    exact written.value_complete

end Origin

namespace Statement

/-- What the expression of a form matches is a written statement. -/
theorem body_sound (form : Form) (matched : form.body.Matches before part rest kept) :
    ∃ statement : Statement, statement.form = form ∧ statement.captures = kept ∧
      statement.Written part := by
  cases form with
  | assign origin =>
    simp only [Form.body, List.cons_append, List.nil_append, matches_row_spelled, matches_row_run,
      matches_row_any, matches_row_group_run, Origin.value_matches_iff] at matched
    obtain ⟨_, rfl, gap, _, rfl, parted, _, rfl, target, _, _, rfl, rfl, named, before, _, rfl,
      blanks, _, rfl, after, value, rfl, more, origin, rfl, rfl, written⟩ := matched
    refine ⟨.assign (String.ofList target) origin, rfl, ?_, ?_⟩
    · simp [captures]
    · simpa using Written.assign parted named blanks more written
  | jump =>
    simp only [Form.body, matches_row_spelled, matches_row_run, matches_row_group_run,
      matches_row_nil] at matched
    obtain ⟨_, rfl, gap, _, rfl, parted, line, _, _, rfl, rfl, digits, rfl, rfl⟩ := matched
    refine ⟨.jump (String.ofList line), rfl, ?_, ?_⟩
    · simp [captures]
    · simpa using Written.jump parted digits
  | branch =>
    simp only [Form.body, matches_row_spelled, matches_row_run, matches_row_any,
      matches_row_group_run, matches_row_group_oneOf, matches_row_nil] at matched
    obtain ⟨_, rfl, gap, _, rfl, parted, _, rfl, left, _, _, rfl, rfl, leftNamed, before, _, rfl,
      blanks, word, _, _, rfl, rfl, sign, after, _, rfl, more, _, rfl, right, _, _, rfl, rfl,
      rightNamed, middle, _, rfl, partedGoto, _, rfl, last, _, rfl, partedLine, line, _, _, rfl,
      rfl, digits, rfl, rfl⟩ := matched
    obtain ⟨comparison, rfl⟩ := Comparison.exists_symbol_iff.mp sign
    refine ⟨.branch (String.ofList left) comparison (String.ofList right) (String.ofList line), rfl,
      ?_, ?_⟩
    · simp [captures]
    · simpa using
        Written.branch comparison parted leftNamed blanks more rightNamed partedGoto partedLine
          digits
  | output =>
    simp only [Form.body, matches_row_spelled, matches_row_run, matches_row_group_run,
      matches_row_nil] at matched
    obtain ⟨_, rfl, gap, _, rfl, parted, _, rfl, name, _, _, rfl, rfl, named, rfl, rfl⟩ := matched
    refine ⟨.output (String.ofList name), rfl, ?_, ?_⟩
    · simp [captures]
    · simpa using Written.output parted named

/-- A written statement is matched by the expression of its form. -/
theorem Written.body_complete {statement : Statement} (written : statement.Written part) :
    statement.form.body.Matches before part rest statement.captures := by
  cases written with
  | @assign gap target before after value origin parted named blanks more written =>
    simp only [form, Form.body, List.cons_append, List.nil_append, List.append_assoc, captures,
      String.toList_ofList, matches_row_spelled, matches_row_run, matches_row_any,
        matches_row_group_run,
      Origin.value_matches_iff]
    exact ⟨_, rfl, gap, _, rfl, parted, _, rfl, target, _, _, rfl, rfl, named, before, _, rfl,
      blanks, _, rfl, after, value, rfl, more, origin, rfl, rfl, written⟩
  | @jump gap line parted digits =>
    simp only [form, Form.body, List.append_assoc, captures, String.toList_ofList,
      matches_row_spelled, matches_row_run, matches_row_group_run, matches_row_nil]
    exact ⟨_, rfl, gap, _, rfl, parted, line, [], [], by simp, rfl, digits, rfl, rfl⟩
  | @branch gap left before after right middle last line comparison parted leftNamed blanks more
      rightNamed partedGoto partedLine digits =>
    simp only [form, Form.body, List.cons_append, List.append_assoc, captures, String.toList_ofList,
      matches_row_spelled, matches_row_run, matches_row_any, matches_row_group_run,
      matches_row_group_oneOf, matches_row_nil]
    have sign := Comparison.exists_symbol_iff.mpr ⟨comparison, rfl⟩
    exact ⟨_, rfl, gap, _, rfl, parted, _, rfl, left, _, _, rfl, rfl, leftNamed, before, _, rfl,
      blanks,
      comparison.symbol, _, _, rfl, rfl, sign, after, _, rfl, more, _, rfl, right, _, _, rfl, rfl,
      rightNamed, middle, _, rfl, partedGoto, _, rfl, last, _, rfl, partedLine, line, [],
        [], by simp,
      rfl, digits, rfl, rfl⟩
  | @output gap name parted named =>
    simp only [form, Form.body, List.append_assoc, captures, String.toList_ofList,
      matches_row_spelled, matches_row_run, matches_row_group_run, matches_row_nil]
    exact ⟨_, rfl, gap, _, rfl, parted, _, rfl, name, [], [], by simp, rfl, named, rfl, rfl⟩

theorem body_matches_iff (form : Form) :
    form.body.Matches before part rest kept ↔
      ∃ statement : Statement, statement.form = form ∧ statement.captures = kept ∧
        statement.Written part := by
  constructor
  · exact body_sound form
  · rintro ⟨statement, rfl, rfl, written⟩
    exact written.body_complete

/-- Where the text does not end in white space, an expression matches all of it or nothing. -/
theorem expression_matches_iff (form : Form) (kept : List (List Char))
    (solid : ∀ char, text.getLast? = some char → isBlank char = false) :
    (∃ part rest, text = part ++ rest ∧ form.expression.Matches [] part rest kept) ↔
      ∃ statement : Statement, statement.form = form ∧ statement.captures = kept ∧
        statement.Written text := by
  constructor
  · rintro ⟨_, _, rfl, part, _, kept, _, rfl, rfl, matched, rfl, rfl, rfl | rfl⟩
    · simpa using (body_matches_iff form).mp matched
    · have last := solid '\n' (List.getLast?_concat ..)
      exact absurd last (by decide)
  · intro written
    refine ⟨text, [], (List.append_nil text).symm, text, [], kept, [], ?_, ?_, ?_, rfl, rfl,
      .inl rfl⟩
    · simp
    · simp
    · exact (body_matches_iff form).mpr written

/-- An expression of a form, whatever is tried first in it, finds the fields of the statement that a
text writes. -/
theorem match?_eq_some_iff (form : Form) {pattern : Expression}
    (solid : ∀ char, text.getLast? = some char → isBlank char = false)
    (variant : form.expression.Variant pattern) :
    pattern.match? text = some kept ↔
      ∃ statement : Statement, statement.form = form ∧ statement.captures = kept ∧
        statement.Written text := by
  have writes (kept : List (List Char)) := expression_matches_iff form kept solid
  rw [Expression.match?_eq_some_iff]
  · simp only [← variant.matches_iff, writes]
  · intro part rest kept part' rest' kept' parts parts' matched matched'
    obtain ⟨statement, -, rfl, written⟩ :=
      (writes _).mp ⟨part, rest, parts, variant.matches_iff.mpr matched⟩
    obtain ⟨other, -, rfl, also⟩ :=
      (writes _).mp ⟨part', rest', parts', variant.matches_iff.mpr matched'⟩
    rw [written.unique also]

end Statement

/-- The first form of a list whose expression matches an assignment, and what the groups capture. -/
def Origin.Form.first? (order : List Origin.Form) (text : List Char) :
    Option (Origin.Form × List (List Char)) :=
  order.findSome? fun form => ((Statement.Form.assign form).expression.match? text).map (form, ·)

/-- In a list of all forms the first that matches is the only one. -/
theorem Origin.Form.first?_eq_some_iff {order : List Origin.Form} {form : Origin.Form}
    (complete : ∀ form, form ∈ order)
    (solid : ∀ char, text.getLast? = some char → isBlank char = false) :
    first? order text = some (form, kept) ↔
      ∃ statement : Statement, statement.form = .assign form ∧ statement.captures = kept ∧
        statement.Written text := by
  have sound {form : Origin.Form} {kept : List (List Char)}
      (found : first? order text = some (form, kept)) :
      ∃ statement : Statement, statement.form = .assign form ∧ statement.captures = kept ∧
        statement.Written text := by
    obtain ⟨tried, -, matched⟩ := List.exists_of_findSome?_eq_some found
    obtain ⟨captured, first, same⟩ := Option.map_eq_some_iff.mp matched
    obtain ⟨rfl, rfl⟩ := Prod.mk.inj same
    exact (Statement.match?_eq_some_iff _ solid (.same _)).mp first
  refine ⟨sound, ?_⟩
  rintro ⟨statement, kind, rfl, written⟩
  have matched := (Statement.match?_eq_some_iff _ solid (.same _)).mpr
      ⟨statement, kind, rfl, written⟩
  cases tried : first? order text with
  | none =>
    have refused := List.findSome?_eq_none_iff.mp tried form (complete form)
    rw [matched] at refused
    cases refused
  | some found =>
    obtain ⟨other, otherKind, captured, also⟩ := sound tried
    obtain rfl := written.unique also
    obtain rfl := Statement.Form.assign.inj (kind.symm.trans otherKind)
    rw [captured]

namespace Statement

/-- The expressions of the forms accept exactly the texts that write a statement of the form, a text
is accepted by one of them at most and with one reading of its fields, and the reader of statements
reads just that statement. -/
theorem forms_exact (text : List Char) :
    (∀ (form : Form) (pattern : Expression) (kept : List (List Char)),
      form.expression.Variant pattern →
      (pattern.match? (trimChars text) = some kept ↔
        ∃ statement : Statement, statement.form = form ∧ statement.captures = kept ∧
          statement.Written (trimChars text))) ∧
    (∀ (form other : Form) (kept others : List (List Char)),
      form.expression.match? (trimChars text) = some kept →
      other.expression.match? (trimChars text) = some others → form = other ∧ kept = others) ∧
    (∀ statement other : Statement, statement.Written (trimChars text) →
      other.Written (trimChars text) → statement = other) ∧
    (∀ order : List Origin.Form, order.Perm Origin.Form.all →
      Origin.Form.first? order (trimChars text) =
        Origin.Form.first? Origin.Form.all (trimChars text)) ∧
    (∀ statement : Statement,
      Statement.parse? (trimChars text) = some statement ↔ statement.Written (trimChars text)) ∧
    ∀ (statement : Statement) (before written after : List Char),
      text = before ++ written ++ after →
      Blanks (before ++ after) → statement.Written written →
      Statement.parse? (trimChars text) = some statement := by
  have solid : ∀ char, (trimChars text).getLast? = some char → isBlank char = false :=
    fun char last => getLast?_trimEnd last
  have accepts (form : Form) (kept : List (List Char)) :
      form.expression.match? (trimChars text) = some kept ↔
        ∃ statement : Statement, statement.form = form ∧ statement.captures = kept ∧
          statement.Written (trimChars text) :=
    match?_eq_some_iff form solid (.same form.expression)
  refine ⟨fun form pattern kept variant => match?_eq_some_iff form solid variant, ?_, ?_, ?_, ?_,
    ?_⟩
  · intro form other kept others matched also
    obtain ⟨statement, rfl, rfl, written⟩ := (accepts form kept).mp matched
    obtain ⟨_, rfl, rfl, again⟩ := (accepts other others).mp also
    obtain rfl := written.unique again
    exact ⟨rfl, rfl⟩
  · intro statement other written also
    exact written.unique also
  · intro order rearranged
    have listed : ∀ form, form ∈ Origin.Form.all := by
      intro form
      cases form <;> decide
    apply Option.ext
    rintro ⟨form, kept⟩
    rw [Origin.Form.first?_eq_some_iff (fun form => rearranged.mem_iff.mpr (listed form)) solid,
      Origin.Form.first?_eq_some_iff listed solid]
  · intro statement
    exact parse?_eq_some_iff
  · rintro statement before written after rfl blanks writes
    rw [writes.trimChars blanks]
    exact parse?_eq_some_iff.mpr writes

/-- The sign of two characters is not read as the one that it begins with. -/
example : Form.branch.expression.match? "if $a<=$b goto 7".toList =
    some ["a".toList, "<=".toList, "b".toList, "7".toList] := by
  decide +kernel

end Statement

end LineScript
