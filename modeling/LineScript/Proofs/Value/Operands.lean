import LineScript.Proofs.Text.Classes
import LineScript.Proofs.Text.Spans
import LineScript.Value

/-!
Values as operands. A value whose core is an integer is readable unless the white space around the
core holds an information separator: the core is found by trimming all white space, and read after
trimming all of it but the separators.
-/

namespace LineScript.Value

open Text

variable {char : Char} {text digits : List Char} {number : Int}

/-- The four information separators, which no integer may be padded with. -/
def isSeparator (char : Char) : Bool :=
  0x1C ≤ char.toNat && char.toNat ≤ 0x1F

theorem isBlank_of_isSeparator (separator : isSeparator char = true) : isBlank char = true := by
  simp only [isSeparator, Bool.and_eq_true, decide_eq_true_eq] at separator
  obtain ⟨low, high⟩ := separator
  have above : ¬ char.toNat < 0x09 ∧ ¬ char.toNat ≤ 0x0D := by omega
  have within : ¬ char.toNat < 0x1C ∧ char.toNat ≤ 0x20 := by omega
  simp [isBlank, blankRanges, RangeTable.contains, above, within]

theorem isPadding_iff : isPadding char = true ↔ isBlank char = true ∧ isSeparator char = false := by
  rw [isPadding, Bool.and_eq_true, Bool.not_eq_true']
  rfl

theorem isDigit_of_natural? {value : Nat} (written : natural? digits = some value) :
    ∀ char ∈ digits, isDigit char = true := by
  rw [natural?, Option.ite_none_right_eq_some, Bool.and_eq_true] at written
  exact List.all_eq_true.mp written.1.2

theorem exists_natural?_of_map {sign : Int → Int}
    (read : (natural? digits : Option Int).map sign = some number) :
    ∃ value : Nat, natural? digits = some value ∧ number = sign value := by
  obtain ⟨_, lifted, rfl⟩ := Option.map_eq_some_iff.mp read
  obtain ⟨value, found, same⟩ := Option.bind_eq_some_iff.mp lifted
  cases same
  exact ⟨value, found, rfl⟩

/-- An integer is a run of digits, with or without a sign before it. -/
theorem exists_natural?_of_integer? (written : integer? text = some number) :
    ∃ digits value, natural? digits = some value ∧
      (text = digits ∨ text = '-' :: digits ∨ text = '+' :: digits) := by
  fun_cases integer? text with
  | case1 rest =>
    obtain ⟨value, found, -⟩ := exists_natural?_of_map written
    exact ⟨rest, value, found, .inr (.inl rfl)⟩
  | case2 rest =>
    obtain ⟨value, found, -⟩ := exists_natural?_of_map written
    exact ⟨rest, value, found, .inr (.inr rfl)⟩
  | case3 =>
    rename_i negative positive
    rw [integer?.eq_3 _ negative positive] at written
    obtain ⟨value, found, -⟩ := exists_natural?_of_map written
    exact ⟨text, value, found, .inl rfl⟩

/-- No white space is part of an integer. -/
theorem isBlank_of_mem_integer (written : integer? text = some number) (member : char ∈ text) :
    isBlank char = false := by
  obtain ⟨digits, value, found, parts⟩ := exists_natural?_of_integer? written
  have solid (inside : char ∈ digits) : isBlank char = false :=
    isBlank_of_isDigit (isDigit_of_natural? found char inside)
  rcases parts with rfl | rfl | rfl
  · exact solid member
  · rcases List.mem_cons.mp member with rfl | inside
    · decide
    · exact solid inside
  · rcases List.mem_cons.mp member with rfl | inside
    · decide
    · exact solid inside

theorem ne_nil_of_integer (written : integer? text = some number) : text ≠ [] := by
  rintro rfl
  cases written

/-- A value is an integer in white space. -/
structure Surrounds (value : String) (before core after : List Char) (number : Int) : Prop where
  parts : value.toList = before ++ core ++ after
  blank : ∀ char ∈ before ++ after, isBlank char = true
  numeric : integer? core = some number

/-- Around the integer that a value writes stands an information separator. -/
def Separated (value : String) : Prop :=
  ∃ before core after number, Surrounds value before core after number ∧
    ∃ char ∈ before ++ after, isSeparator char = true

namespace Surrounds

variable {value : String} {before core after : List Char}
  (surrounds : Surrounds value before core after number)

include surrounds

theorem mem_toList (around : char ∈ before ++ after) : char ∈ value.toList := by
  rw [surrounds.parts, List.append_assoc]
  rcases List.mem_append.mp around with first | last
  · exact List.mem_append_left _ first
  · exact List.mem_append_right _ (List.mem_append_right _ last)

theorem integer?_trim : integer? (trimChars value.toList) = some number := by
  rw [trimChars, surrounds.parts,
    trim_eq_core (ne_nil_of_integer surrounds.numeric) surrounds.blank]
  · exact surrounds.numeric
  · exact fun char => isBlank_of_mem_integer surrounds.numeric

/-- Without separators the two ways to trim a value leave the same core. -/
theorem integer?_padding (padded : ∀ char ∈ before ++ after, isSeparator char = false) :
    integer? (trimEnd isPadding (value.toList.dropWhile isPadding)) = some number := by
  have filled : ∀ char ∈ before ++ after, isPadding char = true := fun char around =>
    isPadding_iff.mpr ⟨surrounds.blank char around, padded char around⟩
  rw [surrounds.parts, trim_eq_core (ne_nil_of_integer surrounds.numeric) filled]
  · exact surrounds.numeric
  · intro char inside
    rw [isPadding, isBlank_of_mem_integer surrounds.numeric inside, Bool.false_and]

/-- A separator around the core is left standing when only padding is trimmed. -/
theorem integer?_padding_eq_none (around : char ∈ before ++ after)
    (separator : isSeparator char = true) :
    integer? (trimEnd isPadding (value.toList.dropWhile isPadding)) = none := by
  obtain ⟨first, last, parts, padded⟩ := exists_trim isPadding value.toList
  refine Option.eq_none_iff_forall_ne_some.mpr fun number written => ?_
  have blank := isBlank_of_isSeparator separator
  have outside : char ∈ first ++ last := by
    have present := surrounds.mem_toList around
    rw [parts, List.append_assoc] at present
    rcases List.mem_append.mp present with left | rest
    · exact List.mem_append_left _ left
    rcases List.mem_append.mp rest with inside | right
    · rw [isBlank_of_mem_integer written inside] at blank
      cases blank
    · exact List.mem_append_right _ right
  have padding := (isPadding_iff.mp (padded char outside)).2
  rw [separator] at padding
  cases padding

end Surrounds

variable {value : String}

theorem exists_surrounds (numeric : integer? (trimChars value.toList) = some number) :
    ∃ before after, Surrounds value before (trimChars value.toList) after number := by
  obtain ⟨before, after, parts, blank⟩ := exists_trim isBlank value.toList
  exact ⟨before, after, parts, blank, numeric⟩

theorem Separated.exists_mem (separated : Separated value) :
    ∃ char ∈ value.toList, isSeparator char = true := by
  obtain ⟨before, core, after, number, surrounds, char, around, separator⟩ := separated
  exact ⟨char, surrounds.mem_toList around, separator⟩

/-- How an integer in white space reads hangs on the separators in that white space. -/
theorem read_of_surrounds {before core after : List Char}
    (surrounds : Surrounds value before core after number) :
    (read value = .number number ∧ ∀ char ∈ before ++ after, isSeparator char = false) ∨
      (read value = .unreadable ∧ ∃ char ∈ before ++ after, isSeparator char = true) := by
  by_cases padded : ∀ char ∈ before ++ after, isSeparator char = false
  · refine .inl ⟨?_, padded⟩
    simp only [read, surrounds.integer?_trim, surrounds.integer?_padding padded]
  · simp only [not_forall, Bool.not_eq_false] at padded
    obtain ⟨char, around, separator⟩ := padded
    refine .inr ⟨?_, char, around, separator⟩
    simp only [read, surrounds.integer?_trim, surrounds.integer?_padding_eq_none around separator]

theorem read_eq_notNumeric_iff :
    read value = .notNumeric ↔ integer? (trimChars value.toList) = none := by
  constructor
  · intro reads
    cases numeric : integer? (trimChars value.toList) with
    | none => rfl
    | some number =>
      obtain ⟨before, after, surrounds⟩ := exists_surrounds numeric
      rcases read_of_surrounds surrounds with ⟨other, -⟩ | ⟨other, -⟩ <;> rw [other] at reads <;>
        cases reads
  · intro plain
    simp only [read, plain]

/-- The values that pass for numbers and are not read as such. -/
theorem read_eq_unreadable_iff : read value = .unreadable ↔ Separated value := by
  constructor
  · intro reads
    cases numeric : integer? (trimChars value.toList) with
    | none =>
      rw [read_eq_notNumeric_iff.mpr numeric] at reads
      cases reads
    | some number =>
      obtain ⟨before, after, surrounds⟩ := exists_surrounds numeric
      rcases read_of_surrounds surrounds with ⟨other, -⟩ | ⟨-, around⟩
      · rw [other] at reads
        cases reads
      · exact ⟨before, _, after, number, surrounds, around⟩
  · rintro ⟨before, core, after, number, surrounds, char, around, separator⟩
    rcases read_of_surrounds surrounds with ⟨-, padded⟩ | ⟨reads, -⟩
    · rw [padded char around] at separator
      cases separator
    · exact reads

/-- A value that passes for a number is read as one unless a separator stands around it. -/
theorem read_eq_number_iff (numeric : integer? (trimChars value.toList) = some number) :
    read value = .number number ↔ ¬ Separated value := by
  rw [← read_eq_unreadable_iff]
  obtain ⟨before, after, surrounds⟩ := exists_surrounds numeric
  rcases read_of_surrounds surrounds with ⟨reads, -⟩ | ⟨reads, -⟩ <;> rw [reads] <;> simp

example : read " +5\x1f" = .unreadable ∧ read " +5\x85" = .number 5 := by
  decide +kernel

end LineScript.Value
