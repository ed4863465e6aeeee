import LineScript.Proofs.Json.Numbers
import LineScript.Proofs.Json.Texts

/-!
The grammar of JSON, as far as values without truth values go: every text that a value may be
written as, with space of any choice between its tokens. No two members of an object have one name.
A text is one value at most.
-/

namespace LineScript.Json

open Text

/-- What holds of a value if it holds of its items, or of the values of its fields, holds of all
values. -/
@[elab_as_elim]
theorem members_induction {motive : Json → Prop} (null : motive .null)
    (number : ∀ value, motive (.number value)) (text : ∀ value, motive (.text value))
    (list : ∀ items, (∀ item ∈ items, motive item) → motive (.list items))
    (object : ∀ fields, (∀ field ∈ fields, motive field.2) → motive (.object fields))
    (value : Json) : motive value := by
  refine @Json.rec motive (fun items => ∀ item ∈ items, motive item)
    (fun fields => ∀ field ∈ fields, motive field.2) (fun field => motive field.2)
    null number text list object ?_ ?_ ?_ ?_ ?_ value
  · exact List.forall_mem_nil _
  · intro item rest here later
    exact List.forall_mem_cons.mpr ⟨here, later⟩
  · exact List.forall_mem_nil _
  · intro field rest here later
    exact List.forall_mem_cons.mpr ⟨here, later⟩
  · intro name value held
    exact held

/-- The space that may stand between tokens. -/
def isSpace (char : Char) : Bool :=
  char == ' ' || char == '\t' || char == '\n' || char == '\r'

/-- What a value does not begin with: space, and the signs that part values or end them. -/
def isDelimiter (char : Char) : Bool :=
  isSpace char || char == ',' || char == ':' || char == ']' || char == '\x7d'

/-- A text begins with some space, or with none, and the rest follows. -/
def Gap (text rest : List Char) : Prop :=
  ∃ blank, text = blank ++ rest ∧ ∀ char ∈ blank, isSpace char = true

/-- A text begins with items between commas, with space around each, up to a bracket that closes
them. -/
inductive Listed {α : Type} (Item : List Char → α → List Char → Prop) (close : Char) :
    List Char → List α → List Char → Prop where
  | last {text start behind rest : List Char} {value : α} (before : Gap text start)
      (item : Item start value behind) (after : Gap behind (close :: rest)) :
      Listed Item close text [value] rest
  | more {text start behind next rest : List Char} {value : α} {values : List α}
    (before : Gap text start)
      (item : Item start value behind) (after : Gap behind (',' :: next))
      (others : Listed Item close next values rest) : Listed Item close text (value :: values) rest

/-- A text begins with a name, a colon and a value. -/
inductive Field (Value : List Char → Json → List Char → Prop) :
    List Char → String × Json → List Char → Prop where
  | mk {text behind next start rest : List Char} {name : String} {value : Json}
      (chars : Chars text name.toList behind) (before : Gap behind (':' :: next))
        (after : Gap next start)
      (held : Value start value rest) : Field Value ('"' :: text) (name, value) rest

/-- A text begins with a value, and the rest follows. -/
inductive Reads : List Char → Json → List Char → Prop where
  | null {rest : List Char} : Reads ('n' :: 'u' :: 'l' :: 'l' :: rest) .null rest
  | number {text rest : List Char} {value : Int} (number : Number text value rest) :
      Reads text (.number value) rest
  | text {text rest : List Char} {value : String} (chars : Chars text value.toList rest) :
      Reads ('"' :: text) (.text value) rest
  | emptyList {text rest : List Char} (gap : Gap text (']' :: rest)) :
    Reads ('[' :: text) (.list []) rest
  | list {text rest : List Char} {items : List Json} (listed : Listed Reads ']' text items rest) :
      Reads ('[' :: text) (.list items) rest
  | emptyObject {text rest : List Char} (gap : Gap text ('\x7d' :: rest)) :
      Reads ('\x7b' :: text) (.object []) rest
  | object {text rest : List Char} {fields : List (String × Json)}
      (listed : Listed (Field Reads) '\x7d' text fields rest)
        (names : (fields.map Prod.fst).Nodup) :
      Reads ('\x7b' :: text) (.object fields) rest

/-- A text is a value, with space around it. -/
def Denotes (text : String) (value : Json) : Prop :=
  ∃ start behind, Gap text.toList start ∧ Reads start value behind ∧ Gap behind []

variable {text start rest tail : List Char} {value other : Json}

theorem Gap.refl (text : List Char) : Gap text text :=
  ⟨[], rfl, List.forall_mem_nil _⟩

theorem Gap.unique (first : Gap text rest) (second : Gap text tail) (stops : Stops isSpace rest)
    (also : Stops isSpace tail) : rest = tail := by
  obtain ⟨blank, rfl, spaces⟩ := first
  obtain ⟨others, parts, more⟩ := second
  rw [← dropWhile_run spaces stops, parts, dropWhile_run more also]

theorem stops_space (stops : Stops isDelimiter text) : Stops isSpace text := by
  intro char head
  have apart := stops char head
  simp only [isDelimiter, Bool.or_eq_false_iff] at apart
  exact apart.1.1.1.1

/-- Neither a minus sign nor a digit is a delimiter. -/
theorem not_delimiter {char : Char} (begins : char = '-' ∨ char.isDigit = true) :
    isDelimiter char = false := by
  refine Bool.eq_false_iff.mpr fun delimiter => ?_
  simp only [isDelimiter, isSpace, Bool.or_eq_true, beq_iff_eq, or_assoc] at delimiter
  rcases delimiter with rfl | rfl | rfl | rfl | rfl | rfl | rfl | rfl <;> revert begins <;> decide

section Sequences

variable {α : Type} {Item : List Char → α → List Char → Prop} {close : Char}
  {values others : List α}

/-- What is read as an item begins with no delimiter. -/
def Starts (Item : List Char → α → List Char → Prop) : Prop :=
  ∀ ⦃text value rest⦄, Item text value rest → Stops isDelimiter text

/-- What is read as an item is not read as anything else, and ends in one place. -/
def Settled (Item : List Char → α → List Char → Prop) (value : α) : Prop :=
  ∀ ⦃text rest other tail⦄, Item text value rest → Item text other tail → value = other ∧
    rest = tail

/-- Where an item begins is settled by the space before it. -/
theorem Gap.unique_start {known : List Char} {value other : α} (starts : Starts Item)
    (first : Gap text start)
    (second : Gap text known) (item : Item start value rest) (also : Item known other tail) :
    start = known :=
  first.unique second (stops_space (starts item)) (stops_space (starts also))

theorem Listed.unique (solid : isSpace close = false) (apart : close ≠ ',') (starts : Starts Item)
    (settled : ∀ value ∈ values, Settled Item value) (first : Listed Item close text values rest)
    (second : Listed Item close text others tail) : values = others ∧ rest = tail := by
  have ends (rest : List Char) : Stops isSpace (close :: rest) := stops_cons solid
  have comma (rest : List Char) : Stops isSpace (',' :: rest) := stops_cons (by decide)
  induction first generalizing others with
  | last before item after =>
    obtain ⟨here, -⟩ := List.forall_mem_cons.mp settled
    cases second with
    | last also same behind =>
      obtain rfl := Gap.unique_start starts before also item same
      obtain ⟨rfl, rfl⟩ := here item same
      cases after.unique behind (ends _) (ends _)
      exact ⟨rfl, rfl⟩
    | more also same behind =>
      obtain rfl := Gap.unique_start starts before also item same
      obtain ⟨rfl, rfl⟩ := here item same
      exact absurd (List.cons.inj (after.unique behind (ends _) (comma _))).1 apart
  | more before item after _ ih =>
    obtain ⟨here, later⟩ := List.forall_mem_cons.mp settled
    cases second with
    | last also same behind =>
      obtain rfl := Gap.unique_start starts before also item same
      obtain ⟨rfl, rfl⟩ := here item same
      exact absurd (List.cons.inj (behind.unique after (ends _) (comma _))).1 apart
    | more also same behind following =>
      obtain rfl := Gap.unique_start starts before also item same
      obtain ⟨rfl, rfl⟩ := here item same
      cases after.unique behind (comma _) (comma _)
      obtain ⟨rfl, rfl⟩ := ih later following
      exact ⟨rfl, rfl⟩

/-- Items are not mistaken for the bracket that closes an empty sequence. -/
theorem Listed.not_gap (closes : isDelimiter close = true) (solid : isSpace close = false)
    (starts : Starts Item)
    (listed : Listed Item close text values rest) : ¬ Gap text (close :: tail) := by
  have refuted {start behind : List Char} {value : α} (before : Gap text start)
      (item : Item start value behind) :
      ¬ Gap text (close :: tail) := by
    intro gap
    obtain rfl := before.unique gap (stops_space (starts item)) (stops_cons solid)
    rw [starts item close rfl] at closes
    cases closes
  cases listed with
  | last before item => exact refuted before item
  | more before item => exact refuted before item

end Sequences

/-- A value begins with no delimiter. -/
theorem starts_reads : Starts Reads := by
  intro text value rest reads
  cases reads with
  | number number =>
    cases text with
    | nil => exact absurd number not_number_nil
    | cons char more => exact stops_cons (not_delimiter number.begins)
  | _ => exact stops_cons (by decide)

theorem starts_field : Starts (Field Reads) := by
  intro text field rest reads
  cases reads
  exact stops_cons (by decide)

/-- The value of a field settles the field: its name is read in one way only. -/
theorem settled_field {field : String × Json} (settled : Settled Reads field.2) :
    Settled (Field Reads) field := by
  intro text rest other tail first second
  have colon (rest : List Char) : Stops isSpace (':' :: rest) := stops_cons (by decide)
  cases first with
  | mk chars before after held =>
    cases second with
    | mk others also behind same =>
      obtain ⟨name, rfl⟩ := chars.unique others
      cases before.unique also (colon _) (colon _)
      obtain rfl := Gap.unique_start starts_reads after behind held same
      obtain ⟨rfl, rfl⟩ := settled held same
      rw [String.toList_injective name]
      exact ⟨rfl, rfl⟩

/-- A text begins with one value at most, and that value ends in one place. -/
theorem settled_reads (value : Json) : Settled Reads value := by
  induction value using members_induction with
  | null =>
    intro text rest other tail first second
    cases first
    cases second with
    | null => exact ⟨rfl, rfl⟩
    | number number => exact absurd number.begins (by decide)
  | number value =>
    intro text rest other tail first second
    cases first with
    | number number =>
      cases second with
      | number also =>
        obtain ⟨same, rfl⟩ := number.unique also
        rw [Int.cast_injective same]
        exact ⟨rfl, rfl⟩
      | _ => exact absurd number.begins (by decide)
  | text value =>
    intro text rest other tail first second
    cases first with
    | text chars =>
      cases second with
      | number number => exact absurd number.begins (by decide)
      | text also =>
        obtain ⟨same, rfl⟩ := chars.unique also
        rw [String.toList_injective same]
        exact ⟨rfl, rfl⟩
  | list items ih =>
    intro text rest other tail first second
    have solid (rest : List Char) : Stops isSpace (']' :: rest) := stops_cons (by decide)
    cases first with
    | emptyList gap =>
      cases second with
      | number number => exact absurd number.begins (by decide)
      | emptyList also =>
        cases gap.unique also (solid _) (solid _)
        exact ⟨rfl, rfl⟩
      | list listed => exact absurd gap (listed.not_gap rfl rfl starts_reads)
    | list listed =>
      cases second with
      | number number => exact absurd number.begins (by decide)
      | emptyList gap => exact absurd gap (listed.not_gap rfl rfl starts_reads)
      | list also =>
        obtain ⟨rfl, rfl⟩ := listed.unique rfl (by decide) starts_reads ih also
        exact ⟨rfl, rfl⟩
  | object fields ih =>
    intro text rest other tail first second
    have solid (rest : List Char) : Stops isSpace ('\x7d' :: rest) := stops_cons (by decide)
    cases first with
    | emptyObject gap =>
      cases second with
      | number number => exact absurd number.begins (by decide)
      | emptyObject also =>
        cases gap.unique also (solid _) (solid _)
        exact ⟨rfl, rfl⟩
      | object listed => exact absurd gap (listed.not_gap rfl rfl starts_field)
    | object listed =>
      cases second with
      | number number => exact absurd number.begins (by decide)
      | emptyObject gap => exact absurd gap (listed.not_gap rfl rfl starts_field)
      | object also =>
        have settled : ∀ field ∈ fields, Settled (Field Reads) field := fun field member =>
          settled_field (ih field member)
        obtain ⟨rfl, rfl⟩ := listed.unique rfl (by decide) starts_field settled also
        exact ⟨rfl, rfl⟩

/-- A text is one value at most. -/
theorem Denotes.unique {text : String} (first : Denotes text value) (second : Denotes text other) :
    value = other := by
  obtain ⟨start, behind, before, reads, -⟩ := first
  obtain ⟨known, after, also, same, -⟩ := second
  obtain rfl := Gap.unique_start starts_reads before also reads same
  exact (settled_reads value reads same).1

end LineScript.Json
