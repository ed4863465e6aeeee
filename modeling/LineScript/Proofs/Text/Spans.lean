import LineScript.Text.Blank
import Mathlib.Data.List.Basic
import Mathlib.Data.List.TakeWhile

/-!
Runs of a class at the start and at the end of a text: where a run stops is told by the character
after it alone.
-/

namespace LineScript.Text

variable {inClass : Char → Bool} {run rest text : List Char}

private theorem split_run (inside : ∀ char ∈ run, inClass char = true)
    (stop : ∀ char, rest.head? = some char → inClass char = false) :
    (run ++ rest).takeWhile inClass = run ∧ (run ++ rest).dropWhile inClass = rest := by
  induction run with
  | nil =>
    cases rest with
    | nil => exact ⟨rfl, rfl⟩
    | cons char rest => simp [stop char rfl]
  | cons char run ih =>
    obtain ⟨taken, dropped⟩ :=
      ih fun other member => inside other (List.mem_cons_of_mem char member)
    have first := inside char List.mem_cons_self
    simp [first, taken, dropped]

theorem takeWhile_run (inside : ∀ char ∈ run, inClass char = true)
    (stop : ∀ char, rest.head? = some char → inClass char = false) :
    (run ++ rest).takeWhile inClass = run :=
  (split_run inside stop).1

theorem dropWhile_run (inside : ∀ char ∈ run, inClass char = true)
    (stop : ∀ char, rest.head? = some char → inClass char = false) :
    (run ++ rest).dropWhile inClass = rest :=
  (split_run inside stop).2

/-- A run at the end goes as far back as the class allows. -/
theorem trimEnd_append (inside : ∀ char ∈ rest, inClass char = true)
    (stop : ∀ char, run.getLast? = some char → inClass char = false) :
    trimEnd inClass (run ++ rest) = run := by
  simp only [trimEnd, List.reverse_append]
  rw [dropWhile_run (by simpa using inside) (by simpa [List.head?_reverse] using stop),
    List.reverse_reverse]

theorem exists_trimEnd_append (inClass : Char → Bool) (text : List Char) :
    ∃ rest, text = trimEnd inClass text ++ rest ∧ ∀ char ∈ rest, inClass char = true := by
  refine ⟨(text.reverse.takeWhile inClass).reverse, ?_, ?_⟩
  · rw [trimEnd, ← List.reverse_append, List.takeWhile_append_dropWhile, List.reverse_reverse]
  · intro char member
    exact List.mem_takeWhile_imp (List.mem_reverse.mp member)

theorem getLast?_trimEnd {char : Char} (last : (trimEnd inClass text).getLast? = some char) :
    inClass char = false := by
  rw [trimEnd, List.getLast?_reverse] at last
  simpa [last] using List.head?_dropWhile_not inClass text.reverse

/-- A text is what is left of it between two runs of the class. -/
theorem exists_trim (inClass : Char → Bool) (text : List Char) :
    ∃ before after, text = before ++ trimEnd inClass (text.dropWhile inClass) ++ after ∧
      ∀ char ∈ before ++ after, inClass char = true := by
  obtain ⟨after, ends, filled⟩ := exists_trimEnd_append inClass (text.dropWhile inClass)
  refine ⟨text.takeWhile inClass, after, ?_, ?_⟩
  · rw [List.append_assoc, ← ends, List.takeWhile_append_dropWhile]
  · intro char member
    rcases List.mem_append.mp member with first | last
    · exact List.mem_takeWhile_imp first
    · exact filled char last

theorem mem_of_mem_trimChars {char : Char} (member : char ∈ trimChars text) : char ∈ text := by
  obtain ⟨before, after, parts, -⟩ := exists_trim isBlank text
  rw [parts]
  exact List.mem_append_left after (List.mem_append_right before member)

/-- A core that neither begins nor ends in the class is what trimming leaves of a text around it. -/
theorem trim_between {before core after : List Char} (nonempty : core ≠ [])
    (filled : ∀ char ∈ before ++ after, inClass char = true)
    (begins : ∀ char, core.head? = some char → inClass char = false)
    (ends : ∀ char, core.getLast? = some char → inClass char = false) :
    trimEnd inClass ((before ++ core ++ after).dropWhile inClass) = core := by
  have stop : ∀ char, (core ++ after).head? = some char → inClass char = false := by
    intro char first
    rw [List.head?_append_of_ne_nil core nonempty] at first
    exact begins char first
  rw [List.append_assoc,
    dropWhile_run (fun char member => filled char (List.mem_append_left _ member)) stop]
  exact trimEnd_append (fun char member => filled char (List.mem_append_right _ member)) ends

/-- A core without characters of the class is what trimming leaves of a text around it. -/
theorem trim_eq_core {before core after : List Char} (nonempty : core ≠ [])
    (filled : ∀ char ∈ before ++ after, inClass char = true)
    (solid : ∀ char ∈ core, inClass char = false) :
    trimEnd inClass ((before ++ core ++ after).dropWhile inClass) = core := by
  apply trim_between nonempty filled
  · intro char first
    exact solid char (List.mem_of_head? first)
  · intro char last
    exact solid char (List.mem_of_getLast? last)

/-- A text without white space at its ends is not trimmed. -/
theorem trimChars_of_solid (begins : ∀ char, text.head? = some char → isBlank char = false)
    (ends : ∀ char, text.getLast? = some char → isBlank char = false) : trimChars text = text := by
  have first : text.dropWhile isBlank = text := dropWhile_run (List.forall_mem_nil _) begins
  have last := trimEnd_append (List.forall_mem_nil _) ends
  rwa [List.append_nil, ← first, ← trimChars, first] at last

/-- At least one character, and all of one class. -/
structure Run (inClass : Char → Bool) (text : List Char) : Prop where
  nonempty : text ≠ []
  inside : ∀ char ∈ text, inClass char = true

/-- White space, or nothing. -/
def Blanks (text : List Char) : Prop :=
  ∀ char ∈ text, isBlank char = true

instance (text : List Char) : Decidable (Blanks text) :=
  decidable_of_iff (text.all isBlank = true) List.all_eq_true

/-- A text does not begin with a character of a class. -/
def Stops (inClass : Char → Bool) (text : List Char) : Prop :=
  ∀ char, text.head? = some char → inClass char = false

theorem stops_nil : Stops inClass [] := by
  intro char head
  cases head

theorem stops_cons {char : Char} (other : inClass char = false) : Stops inClass (char :: rest) := by
  intro first head
  obtain rfl := Option.some.inj head
  exact other

/-- White space ends before a variable. -/
theorem stops_variable : Stops isBlank ('$' :: rest) :=
  stops_cons (by decide)

/-- A run stops every class that none of its characters is in. -/
theorem Run.stops {other : Char → Bool} {run : List Char} (chars : Run inClass run)
    (apart : ∀ char, inClass char = true → other char = false) (rest : List Char) :
    Stops other (run ++ rest) := by
  obtain ⟨nonempty, inside⟩ := chars
  cases run with
  | nil => exact absurd rfl nonempty
  | cons first more => exact stops_cons (apart first (inside first List.mem_cons_self))

/-- What ends in a run does not end in a class that none of its characters is in. -/
theorem Run.ends {other : Char → Bool} {run : List Char} (chars : Run inClass run)
    (apart : ∀ char, inClass char = true → other char = false) (before : List Char) :
    ∀ char, (before ++ run).getLast? = some char → other char = false := by
  intro char last
  rw [List.getLast?_append_of_ne_nil before chars.nonempty] at last
  exact apart char (chars.inside char (List.mem_of_getLast? last))

theorem dropWhile_eq_iff :
    text.dropWhile inClass = rest ↔
      ∃ run, text = run ++ rest ∧ (∀ char ∈ run, inClass char = true) ∧ Stops inClass rest := by
  constructor
  · rintro rfl
    refine ⟨text.takeWhile inClass, List.takeWhile_append_dropWhile.symm, ?_, ?_⟩
    · intro char member
      exact List.mem_takeWhile_imp member
    · intro char head
      simpa [head] using List.head?_dropWhile_not inClass text
  · rintro ⟨run, rfl, inside, stops⟩
    exact dropWhile_run inside stops

end LineScript.Text
