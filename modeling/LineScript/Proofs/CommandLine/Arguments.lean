import LineScript.CommandLine.Arguments
import LineScript.Proofs.Results
import Mathlib.Data.List.Basic

/-!
Flags among the arguments. A flag is kept if it is given before any double hyphen, in full or
shortened; words and further hyphens do not change which flags are kept.
-/

namespace LineScript.CommandLine

variable {arguments found : Arguments} {flag other : Flag} {items : List Item}
  {texts extras : List String} {taken : Bool}

/-- Whether a flag is kept. A call for help is not. -/
def Arguments.keeps (arguments : Arguments) : Flag → Bool
  | .help => false
  | .source => arguments.source
  | .verbose => arguments.verbose
  | .json => arguments.json

/-- A flag is given before any double hyphen. -/
def Given (flag : Flag) (texts : List String) : Prop :=
  ∃ text ∈ texts.takeWhile (· ≠ "--"), classify text = .ok (.flag flag)

theorem keeps_raise (kept : other ≠ .help) :
    (found.raise flag).keeps other = true ↔ found.keeps other = true ∨
      .flag other = Item.flag flag := by
  cases flag <;> cases other <;> simp_all [Arguments.raise, Arguments.keeps]

theorem keeps_named (program : Option String) :
    { found with program }.keeps flag = found.keeps flag := by
  cases flag <;> rfl

theorem requestOfJoined_ne_run (flag : Flag) (chars : List Char) :
    requestOfJoined flag chars ≠ .run arguments := by
  induction chars generalizing flag with
  | nil => exact nofun
  | cons char rest ih =>
    rw [requestOfJoined]
    split
    · exact ih .help
    · exact nofun

/-- The flags that are kept at the end are those of the start and those among the items. -/
theorem keeps_of_gather (kept : flag ≠ .help)
    (asked : gather found taken extras items = .run arguments) :
    arguments.keeps flag = true ↔ found.keeps flag = true ∨ .flag flag ∈ items := by
  -- Items of all other kinds are passed over; of those with flags, only a plain flag goes on.
  fun_induction gather found taken extras items with
  | case1 found taken extras =>
    cases asked
    simp
  | case2 => cases asked
  | case3 => cases asked
  | case4 found taken extras flag rest proper ih =>
    rw [ih asked, keeps_raise kept, List.mem_cons, or_assoc]
  | case5 => cases asked
  | case6 found taken extras flag chars => exact absurd asked (requestOfJoined_ne_run flag chars)
  | _ => simp_all [keeps_named]

/-- The items of a list of arguments hold the flags that are given. -/
theorem mem_items_iff (classified : classifyAll texts = .ok items) :
    .flag flag ∈ items ↔ Given flag texts := by
  rw [Given]
  induction texts generalizing items with
  | nil =>
    cases classified
    simp
  | cons text rest ih =>
    rw [classifyAll] at classified
    split at classified
    · rename_i same
      cases classified
      simp [same]
    · rename_i apart
      obtain ⟨item, first, classified⟩ := bind_eq_ok classified
      obtain ⟨others, more, classified⟩ := bind_eq_ok classified
      obtain rfl := Except.ok.inj classified
      rw [List.mem_cons, ih more, List.takeWhile_cons_of_pos (by simpa using apart)]
      simp [first, eq_comm]

/-- A flag is kept for a run exactly if it is given. -/
theorem keeps_iff_given (kept : flag ≠ .help) (asked : Request.ofArguments texts = .run arguments) :
    arguments.keeps flag = true ↔ Given flag texts := by
  rw [Request.ofArguments] at asked
  cases classified : classifyAll texts with
  | error message => rw [classified] at asked; cases asked
  | ok items =>
    rw [classified] at asked
    have unraised : ({} : Arguments).keeps flag = false := by cases flag <;> rfl
    rw [keeps_of_gather kept asked, unraised, mem_items_iff classified]
    simp

/-- A text that does not begin with a hyphen is a word. -/
theorem classify_word {text : String} (plain : text.toList.head? ≠ some '-') :
    classify text = .ok (.word text) := by
  have hyphens : ∀ pair ∈ spellings, pair.1.toList.head? = some '-' := by decide
  have unlisted : spellings.lookup text = none := by
    refine List.lookup_eq_none_iff.mpr fun pair member => bne_iff_ne.mpr ?_
    rintro rfl
    exact plain (hyphens pair member)
  rw [classify, unlisted]
  split
  · contradiction
  · split
    · rename_i begins
      exact absurd (by rw [begins]; rfl) plain
    · rfl

/-- The flags about reports, as they are spelled in full. -/
def reportFlags : List String := ["-verbose", "--verbose", "--traceback-json"]

/-- Flags about reports are flags, whatever comes after them. -/
theorem classifyAll_reportFlags {flags : List String} (known : ∀ text ∈ flags, text ∈ reportFlags) :
    ∃ given : List Flag, (∀ flag ∈ given, flag = .verbose ∨ flag = .json) ∧
      ∀ rest items, classifyAll rest = .ok items →
        classifyAll (flags ++ rest) = .ok (given.map .flag ++ items) := by
  have classified : ∀ text ∈ reportFlags, text ≠ "--" ∧
      ∃ flag ∈ [Flag.verbose, .json], classify text = .ok (.flag flag) := by decide
  induction flags with
  | nil => exact ⟨[], List.forall_mem_nil _, fun _ _ more => more⟩
  | cons text flags ih =>
    obtain ⟨here, later⟩ := List.forall_mem_cons.mp known
    obtain ⟨proper, flag, listed, first⟩ := classified text here
    obtain ⟨given, kept, others⟩ := ih later
    refine ⟨flag :: given, List.forall_mem_cons.mpr ⟨by simpa using listed, kept⟩,
      fun rest items more => ?_⟩
    rw [List.cons_append, classifyAll, if_neg proper, first, ok_bind, others rest items more]
    rfl

theorem gather_flags (found : Arguments) {given : List Flag}
    (kept : ∀ flag ∈ given, flag = .verbose ∨ flag = .json) :
    ∃ verbose json, ∀ taken extras items,
      gather found taken extras (given.map .flag ++ items) =
        gather { found with verbose, json } taken extras items := by
  induction given generalizing found with
  | nil => exact ⟨found.verbose, found.json, fun _ _ _ => rfl⟩
  | cons flag given ih =>
    obtain ⟨here, later⟩ := List.forall_mem_cons.mp kept
    obtain ⟨verbose, json, rest⟩ := ih (found.raise flag) later
    refine ⟨verbose, json, fun taken extras items => ?_⟩
    rcases here with rfl | rfl
    · exact rest taken extras items
    · exact rest taken extras items

/-- After flags about reports, a word asks for the program in the file of that name, or for the
program that it writes if the flag for that stands before it. -/
theorem ofArguments_word {flags : List String} (known : ∀ text ∈ flags, text ∈ reportFlags) :
    ∃ verbose json, ∀ word : String, word.toList.head? ≠ some '-' →
      Request.ofArguments (flags ++ [word]) = .run { program := some word, verbose, json } ∧
      Request.ofArguments (flags ++ ["-source", word]) =
        .run { program := some word, source := true, verbose, json } := by
  obtain ⟨given, kept, classified⟩ := classifyAll_reportFlags known
  obtain ⟨verbose, json, gathered⟩ := gather_flags {} kept
  refine ⟨verbose, json, fun word plain => ?_⟩
  have proper : word ≠ "--" := by
    rintro rfl
    exact plain rfl
  have alone : classifyAll [word] = .ok [.word word] := by
    rw [classifyAll, if_neg proper, classify_word plain]
    rfl
  have literal : classifyAll ["-source", word] = .ok [.flag .source, .word word] := by
    rw [classifyAll, if_neg (by decide), alone]
    rfl
  simp only [Request.ofArguments, classified _ _ alone, classified _ _ literal, gathered]
  exact ⟨rfl, rfl⟩

end LineScript.CommandLine
