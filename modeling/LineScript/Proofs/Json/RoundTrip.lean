import LineScript.Proofs.Json.Grammar

/-!
Printing and reading JSON. What is printed for a value whose objects name no two fields alike is
read as that value and as no other, whatever its texts hold, and it is made of line feeds and
visible ASCII alone.
-/

namespace LineScript.Json

open Text

/-- No object in a value names two of its fields alike. -/
inductive Distinct : Json → Prop where
  | null : Distinct .null
  | number (value : Int) : Distinct (.number value)
  | text (value : String) : Distinct (.text value)
  | list {items : List Json} (each : ∀ item ∈ items, Distinct item) : Distinct (.list items)
  | object {fields : List (String × Json)} (names : (fields.map Prod.fst).Nodup)
      (each : ∀ field ∈ fields, Distinct field.2) : Distinct (.object fields)

variable {value other : Json} {rest : List Char}

theorem gap_newline (level : Nat) (rest : List Char) : Gap (newline level ++ rest) rest := by
  refine ⟨newline level, rfl, List.forall_mem_cons.mpr ⟨rfl, fun char member => ?_⟩⟩
  rw [(List.mem_replicate.mp member).2]
  rfl

theorem stops_newline (level : Nat) (rest : List Char) : Stops isNumeric (newline level ++ rest) :=
  stops_cons (by decide)

section Layout

variable {α : Type}

/-- The texts behind the first of a sequence, each on a line of its own. -/
def renderOthers (level : Nat) (write : α → List Char) (values : List α) : List Char :=
  values.flatMap fun value => ',' :: (newline level ++ write value)

/-- The text of a sequence in brackets. -/
def block (level : Nat) (left right : Char) (write : α → List Char) : List α → List Char
  | [] => [left, right]
  | first :: rest =>
    left :: (newline (level + 1) ++ (write first ++ (renderOthers (level + 1) write rest ++
      (newline level ++ [right]))))

end Layout

/-- The text of a field. -/
def renderField (level : Nat) (field : String × Json) : List Char :=
  string field.1 ++ (": ".toList ++ renderAt level field.2)

theorem renderItems_eq (level : Nat) (items : List Json) :
    renderItems level items = renderOthers level (renderAt level) items := by
  induction items with
  | nil => rfl
  | cons item rest ih =>
    rw [renderItems, ih]
    rfl

theorem renderFields_eq (level : Nat) (fields : List (String × Json)) :
    renderFields level fields = renderOthers level (renderField level) fields := by
  induction fields with
  | nil => rfl
  | cons field rest ih =>
    rw [renderFields, ih]
    simp only [renderOthers, renderField, List.flatMap_cons, List.append_assoc, List.cons_append]

theorem renderAt_list (level : Nat) (items : List Json) :
    renderAt level (.list items) = block level '[' ']' (renderAt (level + 1)) items := by
  cases items with
  | nil => rfl
  | cons item rest =>
    simp only [renderAt, block, renderItems_eq, List.cons_append, List.append_assoc]

theorem renderAt_object (level : Nat) (fields : List (String × Json)) :
    renderAt level (.object fields) =
      block level '\x7b' '\x7d' (renderField (level + 1)) fields := by
  cases fields with
  | nil => rfl
  | cons field rest =>
    simp only [renderAt, block, renderField, renderFields_eq, List.cons_append, List.append_assoc]

section Sequences

variable {α : Type} {Item : List Char → α → List Char → Prop} {close : Char} {write : α → List Char}

/-- What is written for an item is read as that item, as long as nothing behind it belongs to a
number. -/
def Written (Item : List Char → α → List Char → Prop) (write : α → List Char) (value : α) : Prop :=
  ∀ ⦃rest⦄, Stops isNumeric rest → Item (write value ++ rest) value rest

/-- Items that can each be read where they are written can be read one after the other. -/
theorem listed_written (level : Nat) (first : α) (later : List α)
    (reads : ∀ value ∈ first :: later, Written Item write value) (rest : List Char) :
    Listed Item close
      (newline (level + 1) ++ (write first ++ (renderOthers (level + 1) write later ++
        (newline level ++ close :: rest))))
      (first :: later) rest := by
  induction later generalizing first with
  | nil =>
    have here := (List.forall_mem_cons.mp reads).1 (stops_newline level (close :: rest))
    exact .last (gap_newline _ _) here (gap_newline _ _)
  | cons second later ih =>
    obtain ⟨here, there⟩ := List.forall_mem_cons.mp reads
    have following := ih second there
    rw [renderOthers, List.flatMap_cons, List.cons_append, List.cons_append, List.append_assoc,
      List.append_assoc]
    exact .more (gap_newline _ _) (here (stops_cons (by decide))) (.refl _) following

theorem block_cons (level : Nat) (left right : Char) (first : α) (later : List α)
    (rest : List Char) :
    block level left right write (first :: later) ++ rest =
      left :: (newline (level + 1) ++ (write first ++ (renderOthers (level + 1) write later ++
        (newline level ++ right :: rest)))) := by
  simp only [block, List.cons_append, List.append_assoc, List.nil_append]

end Sequences

theorem reads_string (value : String) (rest : List Char) :
    Reads (string value ++ rest) (.text value) rest := by
  have chars := chars_escape value.toList rest
  rw [string, List.cons_append, List.cons_append, List.append_assoc]
  exact .text chars

/-- What is written for a field is read as that field if its value is. -/
theorem written_field {field : String × Json} {level : Nat}
    (written : Written Reads (renderAt level) field.2) :
    Written (Field Reads) (renderField level) field := by
  intro rest stops
  have chars := chars_escape field.1.toList (':' :: ' ' :: (renderAt level field.2 ++ rest))
  have space : Gap (' ' :: (renderAt level field.2 ++ rest)) (renderAt level field.2 ++ rest) :=
    ⟨[' '], rfl, List.forall_mem_singleton.mpr rfl⟩
  have begins : renderField level field ++ rest =
      '"' :: (field.1.toList.flatMap escape ++
        '"' :: ':' :: ' ' :: (renderAt level field.2 ++ rest)) := by
    simp only [renderField, string, List.cons_append, List.append_assoc, List.nil_append]
    rfl
  rw [begins]
  exact .mk chars (.refl _) space (written stops)

/-- What is printed for a value, at any depth, is read as that value. -/
theorem Distinct.written (distinct : value.Distinct) (level : Nat) :
    Written Reads (renderAt level) value := by
  intro rest stops
  induction distinct generalizing level rest with
  | null => exact .null
  | number value => exact .number (number_decimalChars value stops)
  | text value => exact reads_string value rest
  | @list items each ih =>
    rw [renderAt_list]
    cases items with
    | nil => exact .emptyList (.refl _)
    | cons first later =>
      have written : ∀ item ∈ first :: later, Written Reads (renderAt (level + 1)) item :=
        fun item member _ ends => ih item member (level + 1) ends
      rw [block_cons]
      exact .list (listed_written level first later written rest)
  | @object fields names each ih =>
    rw [renderAt_object]
    cases fields with
    | nil => exact .emptyObject (.refl _)
    | cons first later =>
      have written : ∀ field ∈ first :: later,
          Written (Field Reads) (renderField (level + 1)) field :=
        fun field member => written_field fun _ ends => ih field member (level + 1) ends
      rw [block_cons]
      exact .object (listed_written level first later written rest) names

/-- What is printed for a value is that value and no other. -/
theorem denotes_render_iff (distinct : value.Distinct) :
    Denotes value.render other ↔ other = value := by
  have denotes : Denotes value.render value := by
    refine ⟨renderAt 0 value ++ [], [], ?_, distinct.written 0 stops_nil, .refl _⟩
    rw [render, String.toList_ofList, List.append_nil]
    exact .refl _
  constructor
  · intro also
    exact also.unique denotes
  · rintro rfl
    exact denotes

/-- Different values are printed in different ways. -/
theorem render_inj (distinct : value.Distinct) (also : other.Distinct) :
    value.render = other.render ↔ value = other := by
  constructor
  · intro same
    exact (denotes_render_iff also).mp (same ▸ (denotes_render_iff distinct).mpr rfl)
  · rintro rfl
    rfl

section Characters

variable {char : Char}

/-- A line feed, or a character that stands for itself in ASCII. -/
def Visible (char : Char) : Prop :=
  char = '\n' ∨ 0x20 ≤ char.toNat ∧ char.toNat ≤ 0x7E

instance (char : Char) : Decidable (Visible char) :=
  inferInstanceAs (Decidable (_ ∨ _))

/-- A text of such characters alone. -/
def Legible (text : List Char) : Prop :=
  ∀ char ∈ text, Visible char

instance (text : List Char) : Decidable (Legible text) :=
  decidable_of_iff (text.all (decide <| Visible ·) = true)
    (by simp only [List.all_eq_true, decide_eq_true_eq, Legible])

theorem Legible.append {text rest : List Char} (first : Legible text) (second : Legible rest) :
    Legible (text ++ rest) :=
  List.forall_mem_append.mpr ⟨first, second⟩

theorem Legible.cons {text : List Char} (here : Visible char) (later : Legible text) :
    Legible (char :: text) :=
  List.forall_mem_cons.mpr ⟨here, later⟩

theorem visible_of_hexValue? (digit : (hexValue? char).isSome = true) : Visible char := by
  rw [hexValue?] at digit
  simp only [Bool.and_eq_true, decide_eq_true_eq] at digit
  split at digit
  · exact .inr ⟨by omega, by omega⟩
  · split at digit
    · exact .inr ⟨by omega, by omega⟩
    · split at digit
      · exact .inr ⟨by omega, by omega⟩
      · cases digit

theorem legible_unit (value : Nat) : Legible (unit value) := by
  have digits : Legible (hexChars 4 value) := fun char member =>
    visible_of_hexValue? ((positional_hexChars 4 value).isSome char member)
  exact .cons (by decide) (.cons (by decide) digits)

theorem legible_units (point : Nat) : Legible (units point) := by
  rw [units]
  split
  · exact legible_unit point
  · exact (legible_unit _).append (legible_unit _)

theorem visible_shortEscapes : ∀ escape ∈ shortEscapes, Visible escape.1 := by
  decide

theorem legible_escape (char : Char) : Legible (escape char) := by
  have alone {char : Char} (visible : Visible char) : Legible [char] :=
    List.forall_mem_singleton.mpr visible
  rcases escape_cases char with ⟨letter, escaped, written⟩ | ⟨low, high, -, -, written⟩ | written
  · rw [written]
    exact .cons (by decide) (alone (visible_shortEscapes _ escaped))
  · rw [written]
    exact alone (.inr ⟨low, high⟩)
  · rw [written]
    exact legible_units _

theorem legible_string (text : String) : Legible (string text) := by
  have inside : Legible (text.toList.flatMap escape) := by
    intro char member
    obtain ⟨original, -, written⟩ := List.mem_flatMap.mp member
    exact legible_escape original char written
  have quote : Legible ['"'] := by decide
  exact (inside.append quote).cons (by decide)

theorem legible_decimalChars (value : Int) : Legible (decimalChars value) := by
  refine Legible.append ?_ fun char member => ?_
  · split <;> decide
  · have bounds := bounds_of_char_isDigit ((run_toDigits value.natAbs).inside char member)
    exact .inr ⟨by omega, by omega⟩

theorem legible_newline (level : Nat) : Legible (newline level) := by
  refine Legible.cons (by decide) fun char member => ?_
  rw [(List.mem_replicate.mp member).2]
  decide

theorem legible_block {α : Type} {write : α → List Char} {values : List α} {left right : Char}
    (opens : Visible left) (closes : Legible [right])
    (each : ∀ value ∈ values, Legible (write value))
    (level : Nat) : Legible (block level left right write values) := by
  cases values with
  | nil => exact closes.cons opens
  | cons first later =>
    obtain ⟨here, there⟩ := List.forall_mem_cons.mp each
    have more : Legible (renderOthers (level + 1) write later) := by
      intro char member
      obtain ⟨value, listed, written⟩ := List.mem_flatMap.mp member
      exact ((legible_newline (level + 1)).append (there value listed)).cons (by decide) char
        written
    have ends := (legible_newline level).append closes
    exact ((legible_newline (level + 1)).append (here.append (more.append ends))).cons opens

/-- What is printed for a value, at any depth, is legible. -/
theorem legible_renderAt (value : Json) (level : Nat) : Legible (renderAt level value) := by
  induction value using members_induction generalizing level with
  | null =>
    rw [renderAt]
    decide
  | number value => exact legible_decimalChars value
  | text value => exact legible_string value
  | list items ih =>
    rw [renderAt_list]
    exact legible_block (by decide) (by decide) (fun item member => ih item member (level + 1))
      level
  | object fields ih =>
    have colon : Legible ": ".toList := by decide
    have each : ∀ field ∈ fields, Legible (renderField (level + 1) field) := fun field member =>
      (legible_string field.1).append (colon.append (ih field member (level + 1)))
    rw [renderAt_object]
    exact legible_block (by decide) (by decide) each level

theorem legible_render (value : Json) : Legible value.render.toList := by
  rw [render, String.toList_ofList]
  exact legible_renderAt value 0

end Characters

end LineScript.Json
