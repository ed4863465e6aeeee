import LineScript.Proofs.Text.Classes
import LineScript.Proofs.Text.Numerals
import LineScript.Text.Quoted

/-!
Texts of one line. A number is written in one line, and so is a quoted text, whatever it holds.
Texts of one line that are joined by line feeds, or closed by them, are found again between the line
feeds.
-/

namespace LineScript.Text

/-- A text without line feeds. -/
def OneLine (text : String) : Prop := '\n' ∉ text.toList

instance (text : String) : Decidable (OneLine text) :=
  inferInstanceAs (Decidable ('\n' ∉ text.toList))

variable {text other separator : String} {texts : List String}

theorem oneLine_ofList {chars : List Char} (plain : '\n' ∉ chars) :
    OneLine (String.ofList chars) := by
  rwa [OneLine, String.toList_ofList]

theorem OneLine.append (first : OneLine text) (second : OneLine other) :
    OneLine (text ++ other) := by
  rw [OneLine, String.toList_append, List.mem_append]
  exact not_or.mpr ⟨first, second⟩

theorem oneLine_intercalate (between : OneLine separator) (plain : ∀ text ∈ texts, OneLine text) :
    OneLine (String.intercalate separator texts) := by
  rw [OneLine, String.toList_intercalate]
  induction texts with
  | nil => simp [List.intercalate]
  | cons first rest ih =>
    obtain ⟨here, later⟩ := List.forall_mem_cons.mp plain
    cases rest with
    | nil => simpa [List.intercalate, OneLine] using here
    | cons second rest =>
      rw [List.map_cons, List.map_cons, List.intercalate_cons_cons, List.mem_append,
        List.mem_append]
      exact not_or.mpr ⟨not_or.mpr ⟨here, between⟩, ih later⟩

theorem oneLine_decimal (value : Int) : OneLine (decimal value) := by
  refine oneLine_ofList fun member => ?_
  rcases eq_or_isDigit_of_mem_decimalChars member with sign | digit
  · exact absurd sign (by decide)
  · exact absurd digit (by decide)

/-- No base has the line feed among its digits. -/
theorem break_not_mem_toDigits {base : Nat} (proper : 1 < base) (value : Nat) :
    '\n' ∉ Nat.toDigits base value := by
  induction value using Nat.strongRecOn with
  | ind value ih =>
    rw [Nat.toDigits_eq_if proper]
    split
    · simp
    · rename_i large
      have smaller : value / base < value := Nat.div_lt_self (by omega) proper
      simpa using ih _ smaller

theorem break_not_mem_hexChars (width value : Nat) : '\n' ∉ hexChars width value := by
  rw [hexChars, List.mem_append, List.mem_replicate]
  exact not_or.mpr ⟨fun fill => absurd fill.2 (by decide), break_not_mem_toDigits (by decide) value⟩

namespace Quoted

theorem break_not_mem_escape {quote char : Char} (marked : quote ≠ '\n') :
    '\n' ∉ escape quote char := by
  rw [escape]
  split
  · rename_i plain
    have apart : char ≠ '\n' := by
      rintro rfl
      simp [marked.symm] at plain
    simpa using apart.symm
  · split
    · decide
    · rename_i apart
      split
      · decide
      · split
        · decide
        · split
          · simpa using Ne.symm apart
          · split
            · simpa using break_not_mem_hexChars 2 char.toNat
            · split
              · simpa using break_not_mem_hexChars 4 char.toNat
              · simpa using break_not_mem_hexChars 8 char.toNat

theorem mark_ne_break (text : List Char) : mark text ≠ '\n' := by
  rw [mark]
  split <;> decide

theorem break_not_mem_encode (text : List Char) : '\n' ∉ encode text := by
  have marked := mark_ne_break text
  have escaped : '\n' ∉ text.flatMap (escape (mark text)) := by
    rw [List.mem_flatMap]
    rintro ⟨char, -, member⟩
    exact break_not_mem_escape marked member
  simpa [encode, marked.symm] using escaped

end Quoted

theorem oneLine_quoted (text : String) : OneLine (quoted text) :=
  oneLine_ofList (Quoted.break_not_mem_encode text.toList)

theorem oneLine_quotedList (texts : List String) : OneLine (quotedList texts) := by
  have inside : OneLine (String.intercalate ", " (texts.map quoted)) :=
    oneLine_intercalate (by decide) (List.forall_mem_map.mpr fun text _ => oneLine_quoted text)
  have opening : OneLine "[" := by decide
  have closing : OneLine "]" := by decide
  exact (opening.append inside).append closing

/-- Lines that are joined by line feeds are what stands between the line feeds. -/
theorem splitOn_intercalate (nonempty : texts ≠ []) (plain : ∀ text ∈ texts, OneLine text) :
    (String.intercalate "\n" texts).toList.splitOn '\n' = texts.map String.toList := by
  have lines : ∀ line ∈ texts.map String.toList, '\n' ∉ line := List.forall_mem_map.mpr plain
  have some : texts.map String.toList ≠ [] := fun none => nonempty (List.map_eq_nil_iff.mp none)
  rw [String.toList_intercalate]
  exact List.splitOn_intercalate '\n' lines some

/-- Lines that are each closed by a line feed are followed by an empty stretch. -/
theorem splitOn_closed (plain : ∀ text ∈ texts, OneLine text) :
    (String.join (texts.map (· ++ "\n"))).toList.splitOn '\n' = texts.map String.toList ++ [[]] := by
  induction texts with
  | nil => rfl
  | cons first rest ih =>
    obtain ⟨here, later⟩ := List.forall_mem_cons.mp plain
    have parts : (String.join ((first :: rest).map (· ++ "\n"))).toList =
        first.toList ++ '\n' :: (String.join (rest.map (· ++ "\n"))).toList := by
      rw [List.map_cons, String.join_cons, String.toList_append, String.toList_append,
        List.append_assoc]
      rfl
    have cut := List.splitOnP_append_cons (p := (· == '\n')) first.toList
      (String.join (rest.map (· ++ "\n"))).toList (beq_self_eq_true '\n')
    rw [parts, List.map_cons, List.cons_append, ← ih later]
    exact cut.trans (congrArg (· ++ _) (List.splitOn_eq_singleton here))

/-- No stretch between line feeds holds one. -/
theorem break_not_mem_of_mem_splitOn {chars stretch : List Char}
    (member : stretch ∈ chars.splitOn '\n') :
    '\n' ∉ stretch := by
  induction chars generalizing stretch with
  | nil =>
    obtain rfl := List.mem_singleton.mp member
    exact List.not_mem_nil
  | cons char rest ih =>
    rw [List.splitOn_cons_eq_if_modifyHead] at member
    split at member
    · rcases List.mem_cons.mp member with rfl | later
      · exact List.not_mem_nil
      · exact ih later
    · rename_i apart
      obtain ⟨first, more, split⟩ := List.exists_cons_of_ne_nil (List.splitOn_ne_nil '\n' rest)
      rw [split, List.modifyHead_cons] at member
      rcases List.mem_cons.mp member with rfl | later
      · have head : '\n' ≠ char := fun same => apart (beq_iff_eq.mpr same.symm)
        simpa [head] using ih (split ▸ List.mem_cons_self)
      · exact ih (split ▸ List.mem_cons_of_mem first later)

end LineScript.Text
