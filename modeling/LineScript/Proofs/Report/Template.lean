import LineScript.CommandLine.Invocation

/-!
Templates. A report shows the name of the file that it is about, as it is or encoded, and depends on
the name in no other way: it is a template with that name filled in.
-/

namespace LineScript

/-- A part of a template. -/
inductive Part where
  | text (text : String)
  | name
  /-- The name as a JSON text. -/
  | encoded
  deriving DecidableEq, Repr

def Part.fill (name : String) : Part → String
  | .text shown => shown
  | .name => name
  | .encoded => String.ofList (Json.string name)

/-- A template with a name filled in. -/
def fill (name : String) (parts : List Part) : String :=
  String.join (parts.map (Part.fill name))

/-- A text depends on a name by showing it. -/
def Shows (text : String → String) : Prop :=
  ∃ parts, ∀ name, text name = fill name parts

/-- So do some lines, one by one. -/
def ShowsLines (lines : String → List String) : Prop :=
  ∃ templates : List (List Part), ∀ name, lines name = templates.map (fill name)

theorem fill_append (name : String) (first second : List Part) :
    fill name (first ++ second) = fill name first ++ fill name second := by
  apply String.toList_injective
  simp [fill, String.toList_join]

theorem fill_intercalate (name separator : String) (templates : List (List Part)) :
    fill name (List.intercalate [.text separator] templates) =
      String.intercalate separator (templates.map (fill name)) := by
  apply String.toList_injective
  rw [String.toList_intercalate]
  induction templates with
  | nil => rfl
  | cons template rest ih =>
    cases rest with
    | nil => simp [List.intercalate]
    | cons second rest =>
      rw [List.intercalate_cons_cons, fill_append, fill_append, String.toList_append,
        String.toList_append, ih]
      simp only [List.map_cons, List.intercalate_cons_cons]
      simp [fill, Part.fill]

theorem shows_const (text : String) : Shows fun _ => text :=
  ⟨[.text text], fun _ => by simp [fill, Part.fill]⟩

theorem shows_name : Shows fun name => name :=
  ⟨[.name], fun _ => by simp [fill, Part.fill]⟩

theorem shows_encoded : Shows fun name => String.ofList (Json.string name) :=
  ⟨[.encoded], fun _ => by simp [fill, Part.fill]⟩

variable {first second : String → String} {lines more : String → List String}

theorem Shows.append (before : Shows first) (after : Shows second) :
    Shows fun name => first name ++ second name := by
  obtain ⟨parts, same⟩ := before
  obtain ⟨others, equal⟩ := after
  exact ⟨parts ++ others, fun name => by rw [fill_append, ← same, ← equal]⟩

theorem showsLines_const (texts : List String) : ShowsLines fun _ => texts :=
  ⟨texts.map fun text => [.text text], fun name => by simp [fill, Part.fill, Function.comp_def]⟩

theorem Shows.line (shown : Shows first) : ShowsLines fun name => [first name] := by
  obtain ⟨parts, same⟩ := shown
  exact ⟨[parts], fun name => by rw [List.map_singleton, ← same]⟩

theorem ShowsLines.append (before : ShowsLines lines) (after : ShowsLines more) :
    ShowsLines fun name => lines name ++ more name := by
  obtain ⟨templates, same⟩ := before
  obtain ⟨others, equal⟩ := after
  exact ⟨templates ++ others, fun name => by rw [List.map_append, ← same, ← equal]⟩

theorem showsLines_flatMap {α : Type} {items : List α} {lines : α → String → List String}
    (each : ∀ item ∈ items, ShowsLines (lines item)) :
    ShowsLines fun name => items.flatMap fun item => lines item name := by
  induction items with
  | nil => exact showsLines_const []
  | cons item rest ih =>
    obtain ⟨here, later⟩ := List.forall_mem_cons.mp each
    exact here.append (ih later)

theorem ShowsLines.intercalate (shown : ShowsLines lines) (separator : String) :
    Shows fun name => String.intercalate separator (lines name) := by
  obtain ⟨templates, same⟩ := shown
  exact ⟨List.intercalate [.text separator] templates, fun name => by rw [fill_intercalate, ← same]⟩

namespace Report

variable (report : Report) (fault : Fault) (verbose : Bool)

theorem shows_placeLine (entry : Journal.Entry) : Shows fun file => placeLine file entry := by
  simp only [placeLine]
  split
  · exact ((((shows_const _).append shows_name).append (shows_const _)).append
      (shows_const _)).append (shows_const _) |>.append (shows_const _)
  · exact shows_const _

theorem shows_text : Shows fun file => ({ report with file } : Report).text fault verbose := by
  have about (entry : Journal.Entry) : ShowsLines fun file => entryLines file verbose entry :=
    (shows_placeLine entry).line.append (showsLines_const _)
  have inside := showsLines_flatMap fun entry (_ : entry ∈ report.recent) => about entry
  have whole : ShowsLines fun file => ("Traceback (most recent step last):" ::
      report.recent.flatMap fun entry => entryLines file verbose entry) ++ [faultLine fault] :=
    ((showsLines_const ["Traceback (most recent step last):"]).append inside).append
      (showsLines_const _)
  exact whole.intercalate "\n"

theorem shows_json : Shows fun file => ({ report with file } : Report).json fault := by
  let front := '\x7b' :: Json.newline 1 ++ Json.string "error" ++ ": ".toList ++
    Json.renderAt 1 (faultJson fault) ++ (',' :: Json.newline 1 ++ Json.string "file" ++ ": ".toList)
  let back := Json.renderFields 1 [("traceback", .list (report.recent.map entryJson))] ++ Json.newline 0 ++
    ['\x7d']
  have parts (file : String) : ({ report with file } : Report).json fault =
      String.ofList front ++ String.ofList (Json.string file) ++ String.ofList back := by
    rw [← String.ofList_append, ← String.ofList_append, json, Json.render, toJson]
    simp only [Json.renderAt, Json.renderFields, front, back, List.append_assoc, List.cons_append]
    rfl
  simp only [parts]
  exact ((shows_const _).append shows_encoded).append (shows_const _)

end Report

namespace CommandLine

/-- What is said about a fault shows the name of the file of its job. -/
theorem shows_complaint (job : Job) (machine : Machine) (fault : Fault) :
    Shows fun file => ({ job with file } : Job).complaint machine fault := by
  let report : Report := { file := job.file, entries := machine.journal.entries.toList }
  have text := (report.shows_text fault job.verbose).append (shows_const "\n")
  cases encoded : job.json with
  | false =>
    have whole := text.append (shows_const "")
    simpa [Job.complaint, encoded] using whole
  | true =>
    have whole := text.append ((report.shows_json fault).append (shows_const "\n"))
    simpa [Job.complaint, encoded] using whole

end CommandLine

end LineScript
