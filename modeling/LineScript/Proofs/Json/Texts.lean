import LineScript.Json.Printer
import LineScript.Proofs.Text.Positional
import LineScript.Proofs.Text.Spans

/-!
Texts in JSON. A character stands for itself, or is escaped: by a letter, by a UTF-16 unit, or by
the two units of a surrogate pair. What is read at the front of a text, and where it ends, is never
in doubt, and what the printer escapes is read as what it was.
-/

namespace LineScript.Json

open Text

/-- The value of a hexadecimal digit, in lower or upper case. -/
def hexValue? (char : Char) : Option Nat :=
  if 0x30 ≤ char.toNat && char.toNat ≤ 0x39 then some (char.toNat - 0x30)
  else if 0x41 ≤ char.toNat && char.toNat ≤ 0x46 then some (char.toNat - 0x37)
  else if 0x61 ≤ char.toNat && char.toNat ≤ 0x66 then some (char.toNat - 0x57)
  else none

/-- A text begins with the four digits of a UTF-16 unit, and the rest follows. -/
def Unit (text : List Char) (value : Nat) (rest : List Char) : Prop :=
  ∃ digits, text = digits ++ rest ∧ digits.length = 4 ∧ Positional hexValue? 16 digits value

/-- The letters that escape a character, and the characters. -/
def shortEscapes : List (Char × Char) := [
  ('"', '"'), ('\\', '\\'), ('/', '/'), ('b', '\x08'), ('f', '\x0c'), ('n', '\n'), ('r', '\r'),
  ('t', '\t')]

/-- A text begins with a character as it is written between quotes, and the rest follows. -/
inductive Letter : List Char → Char → List Char → Prop where
  | plain {char : Char} {rest : List Char} (visible : 0x20 ≤ char.toNat) (quote : char ≠ '"')
      (backslash : char ≠ '\\') : Letter (char :: rest) char rest
  | short {letter char : Char} {rest : List Char} (escaped : (letter, char) ∈ shortEscapes) :
      Letter ('\\' :: letter :: rest) char rest
  | unit {text : List Char} {char : Char} {rest : List Char} (unit : Unit text char.toNat rest) :
      Letter ('\\' :: 'u' :: text) char rest
  /-- Two units from the ranges of surrogates, of ten bits each. -/
  | pair {text next : List Char} {high low : Nat} {char : Char} {rest : List Char}
      (first : Unit text high ('\\' :: 'u' :: next)) (second : Unit next low rest)
      (leads : 0xD800 ≤ high ∧ high < 0xDC00) (trails : 0xDC00 ≤ low ∧ low < 0xE000)
      (combined : char.toNat = 0x10000 + (high - 0xD800) * 0x400 + (low - 0xDC00)) :
      Letter ('\\' :: 'u' :: text) char rest

/-- A text begins with characters up to a quote, and the rest follows the quote. -/
inductive Chars : List Char → List Char → List Char → Prop where
  | close {rest : List Char} : Chars ('"' :: rest) [] rest
  | more {text next rest : List Char} {char : Char} {chars : List Char}
    (letter : Letter text char next)
      (others : Chars next chars rest) : Chars text (char :: chars) rest

variable {text rest tail chars others : List Char} {value known : Nat} {char other : Char}

theorem Unit.unique (first : Unit text value rest) (second : Unit text known tail) :
    value = known ∧ rest = tail := by
  obtain ⟨digits, rfl, width, written⟩ := first
  obtain ⟨same, parts, equal, also⟩ := second
  obtain ⟨rfl, rfl⟩ := List.append_inj parts (width.trans equal.symm)
  exact ⟨written.unique also, rfl⟩

theorem shortEscapes_unique :
    ∀ first ∈ shortEscapes, ∀ second ∈ shortEscapes, first.1 = second.1 → first.2 = second.2 := by
  decide

theorem ne_unit_of_short : ∀ escape ∈ shortEscapes, escape.1 ≠ 'u' := by
  decide

/-- No character is a surrogate. -/
theorem scalar (char : Char) : char.toNat < 0xD800 ∨ 0xDFFF < char.toNat ∧ char.toNat < 0x110000 :=
  char.valid

theorem Letter.unique (first : Letter text char rest) (second : Letter text other tail) :
    char = other ∧ rest = tail := by
  cases first with
  | plain visible quote backslash =>
    cases second with
    | plain => exact ⟨rfl, rfl⟩
    | short => exact absurd rfl backslash
    | unit => exact absurd rfl backslash
    | pair => exact absurd rfl backslash
  | short escaped =>
    cases second with
    | plain visible quote backslash => exact absurd rfl backslash
    | short also => exact ⟨shortEscapes_unique _ escaped _ also rfl, rfl⟩
    | unit => exact absurd rfl (ne_unit_of_short _ escaped)
    | pair => exact absurd rfl (ne_unit_of_short _ escaped)
  | unit unit =>
    cases second with
    | plain visible quote backslash => exact absurd rfl backslash
    | short escaped => exact absurd rfl (ne_unit_of_short _ escaped)
    | unit also =>
      obtain ⟨same, rfl⟩ := unit.unique also
      exact ⟨Char.toNat_inj.mp same, rfl⟩
    | pair high low leads =>
      obtain ⟨same, -⟩ := unit.unique high
      have apart := scalar char
      omega
  | pair high low leads trails combined =>
    cases second with
    | plain visible quote backslash => exact absurd rfl backslash
    | short escaped => exact absurd rfl (ne_unit_of_short _ escaped)
    | unit unit =>
      obtain ⟨same, -⟩ := unit.unique high
      have apart := scalar other
      omega
    | pair also alsoLow _ _ alsoCombined =>
      obtain ⟨rfl, following⟩ := high.unique also
      cases following
      obtain ⟨rfl, rfl⟩ := low.unique alsoLow
      exact ⟨Char.toNat_inj.mp (combined.trans alsoCombined.symm), rfl⟩

/-- A quote that is not escaped is no character of a text. -/
theorem not_letter_quote : ¬ Letter ('"' :: rest) char tail := by
  intro letter
  cases letter with
  | plain visible quote backslash => exact quote rfl

theorem Chars.unique (first : Chars text chars rest) (second : Chars text others tail) :
    chars = others ∧ rest = tail := by
  induction first generalizing others with
  | close =>
    cases second with
    | close => exact ⟨rfl, rfl⟩
    | more letter => exact absurd letter not_letter_quote
  | more letter _ ih =>
    cases second with
    | close => exact absurd letter not_letter_quote
    | more also following =>
      obtain ⟨rfl, rfl⟩ := letter.unique also
      obtain ⟨rfl, rfl⟩ := ih following
      exact ⟨rfl, rfl⟩

theorem hexValue?_digitChar : ∀ value < 16, hexValue? (Nat.digitChar value) = some value := by
  decide

theorem positional_hexChars (width value : Nat) :
    Positional hexValue? 16 (hexChars width value) value :=
  (positional_toDigits (by decide) hexValue?_digitChar value).leading (by decide) _

/-- What the printer writes for a unit is read as that unit. -/
theorem unit_hexChars (small : value < 0x10000) : Unit (hexChars 4 value ++ rest) value rest := by
  refine ⟨hexChars 4 value, rfl, ?_, positional_hexChars 4 value⟩
  have short : (Nat.toDigits 16 value).length ≤ 4 :=
    (Nat.length_toDigits_le_iff (by decide) (by decide)).mpr small
  rw [hexChars, List.length_append, List.length_replicate]
  omega

theorem letter_pair {high low : Nat} (leads : 0xD800 ≤ high ∧ high < 0xDC00)
    (trails : 0xDC00 ≤ low ∧ low < 0xE000)
    (combined : char.toNat = 0x10000 + (high - 0xD800) * 0x400 + (low - 0xDC00)) :
    Letter (unit high ++ unit low ++ rest) char rest := by
  have first : high < 0x10000 := by omega
  have second : low < 0x10000 := by omega
  rw [List.append_assoc]
  exact .pair (unit_hexChars first) (unit_hexChars second) leads trails combined

/-- A code point beyond the first plane comes in two surrogates. -/
theorem surrogates {point : Nat} (large : ¬ point < 0x10000) (bound : point < 0x110000) :
    (0xD800 ≤ 0xD800 + (point - 0x10000) / 0x400 ∧ 0xD800 + (point - 0x10000) / 0x400 < 0xDC00) ∧
      (0xDC00 ≤ 0xDC00 + (point - 0x10000) % 0x400 ∧ 0xDC00 + (point - 0x10000) % 0x400 < 0xE000) ∧
      point = 0x10000 + (0xD800 + (point - 0x10000) / 0x400 - 0xD800) * 0x400 +
        (0xDC00 + (point - 0x10000) % 0x400 - 0xDC00) := by
  omega

theorem letter_units (char : Char) (rest : List Char) :
    Letter (units char.toNat ++ rest) char rest := by
  rw [units]
  split
  · rename_i small
    exact .unit (unit_hexChars small)
  · rename_i large
    have bound : char.toNat < 0x110000 := by
      have valid := scalar char
      omega
    obtain ⟨leads, trails, combined⟩ := surrogates large bound
    exact letter_pair leads trails combined

/-- The printer escapes a character by a letter, or leaves it as it is, or writes its units. -/
theorem escape_cases (char : Char) :
    (∃ letter, (letter, char) ∈ shortEscapes ∧ escape char = ['\\', letter]) ∨
      (0x20 ≤ char.toNat ∧ char.toNat ≤ 0x7E ∧ char ≠ '"' ∧ char ≠ '\\' ∧ escape char = [char]) ∨
      escape char = units char.toNat := by
  fun_cases escape char with
  | case1 quoted =>
    rw [Bool.or_eq_true, decide_eq_true_eq, decide_eq_true_eq] at quoted
    rcases quoted with rfl | rfl <;> exact .inl ⟨_, by decide, rfl⟩
  | case2 _ same =>
    subst same
    exact .inl ⟨'n', by decide, rfl⟩
  | case3 _ _ same =>
    subst same
    exact .inl ⟨'r', by decide, rfl⟩
  | case4 _ _ _ same =>
    subst same
    exact .inl ⟨'t', by decide, rfl⟩
  | case5 _ _ _ _ same =>
    obtain rfl : char = '\x08' := Char.toNat_inj.mp same
    exact .inl ⟨'b', by decide, rfl⟩
  | case6 _ _ _ _ _ same =>
    obtain rfl : char = '\x0c' := Char.toNat_inj.mp same
    exact .inl ⟨'f', by decide, rfl⟩
  | case7 apart _ _ _ _ _ visible =>
    rw [Bool.or_eq_true, decide_eq_true_eq, decide_eq_true_eq, not_or] at apart
    rw [Bool.and_eq_true, decide_eq_true_eq, decide_eq_true_eq] at visible
    exact .inr (.inl ⟨visible.1, visible.2, apart.1, apart.2, rfl⟩)
  | case8 => exact .inr (.inr rfl)

/-- What the printer writes for a character is read as that character. -/
theorem letter_escape (char : Char) (rest : List Char) :
    Letter (escape char ++ rest) char rest := by
  rcases escape_cases char with ⟨letter, escaped, written⟩ | ⟨low, -, quote, backslash, written⟩ |
      written
  · rw [written]
    exact .short escaped
  · rw [written]
    exact .plain low quote backslash
  · rw [written]
    exact letter_units char rest

theorem chars_escape (chars rest : List Char) :
    Chars (chars.flatMap escape ++ '"' :: rest) chars rest := by
  induction chars with
  | nil => exact .close
  | cons char chars ih =>
    rw [List.flatMap_cons, List.append_assoc]
    exact .more (letter_escape char _) ih

end LineScript.Json
