import LineScript.Proofs.CommandLine.Arguments
import LineScript.Proofs.CommandLine.Containment
import LineScript.Proofs.Report.Template
import LineScript.Proofs.Text.Breaks
import LineScript.Proofs.Text.Encoding

/-!
The two ways to name a program: by the file that holds it, and by its text. A file that holds the
text in UTF-8 comes to the same answer as the text itself, but for the name of the file in reports.
-/

namespace LineScript

/-- A path leads to a file with some bytes. No path with a null character leads anywhere. -/
structure Files.Holds (files : Files) (path : String) (bytes : List UInt8) : Prop where
  named : '\x00' ∉ path.toList
  opened : files.open? path = .ok bytes

/-- A file whose carriage returns all stand before line feeds is read without them. -/
theorem Files.Holds.readText {files : Files} {path source : String} {bytes : List UInt8}
    (holds : files.Holds path bytes) (encoded : bytes.toByteArray = source.toUTF8)
    (paired : Text.Paired source.toList) :
    files.readText path = .ok (String.ofList (Text.joinBreaks source.toList)) := by
  rw [Files.readText, if_neg (mt List.contains_iff_mem.mp holds.named), holds.opened]
  simp only [Except.mapError, ok_bind, ReadFailure.textOf, Text.Utf8.decode_toUTF8 encoded,
    Text.unifyBreaks_of_paired paired]

namespace CommandLine

/-- Two answers agree but for a name that is shown on the error stream, here as one text and there
as another. -/
inductive AgreeBut (name other : String) :
    Option (Except Escape Result) → Option (Except Escape Result) → Prop where
  | unfinished : AgreeBut name other none none
  | escaped (escape : Escape) : AgreeBut name other (some (.error escape)) (some (.error escape))
  | answered {status : Nat} {stdout here there : String} (stderr : List Part)
      (first : here = fill name stderr) (second : there = fill other stderr) :
      AgreeBut name other (some (.ok { status, stdout, stderr := here }))
        (some (.ok { status, stdout, stderr := there }))

theorem agreeBut_refl (name other : String) (answer : Option (Except Escape Result)) :
    AgreeBut name other answer answer := by
  rcases answer with _ | escape | ⟨status, stdout, stderr⟩
  · exact .unfinished
  · exact .escaped escape
  · obtain ⟨parts, shown⟩ := shows_const stderr
    exact .answered parts (shown name) (shown other)

theorem agreeBut_conclude (job : Job) (ending : Ending) (machine : Machine) (name other : String) :
    AgreeBut name other (({ job with file := name } : Job).conclude ending machine)
      (({ job with file := other } : Job).conclude ending machine) := by
  cases ending with
  | stopped trouble =>
    cases trouble with
    | fault fault =>
      obtain ⟨parts, shown⟩ := shows_complaint job machine fault
      exact .answered parts (shown name) (shown other)
    | mishap mishap => exact .escaped _
  | done => exact agreeBut_refl name other _
  | paused next => exact .unfinished

/-- Two jobs that load the same listing come to the same answer but for the names of their files. -/
theorem agreeBut_run (job : Job) {source : String}
    (same : Listing.ofSource source = Listing.ofSource job.source) (name other : String)
    (budget : Nat) (inputs : List String) :
    AgreeBut name other (({ job with file := name, source } : Job).run budget inputs)
      (({ job with file := other } : Job).run budget inputs) := by
  simp only [Job.run, same]
  cases Listing.ofSource job.source with
  | error failure => exact agreeBut_refl name other _
  | ok listing => exact agreeBut_conclude { job with source } _ _ name other

/-- A program in a file and the same program as a text come to the same answer, whatever the input
is and whatever reports are asked for: neither ends, or the same error leaves both, or both leave
the same status and the same output and say the same, but for the name of the file in reports. The
file is read with other line breaks than the text has, and the program that is loaded is the
same. -/
theorem file_agrees_with_literal (name stdin : String) (files : Files) (flags : List String)
    (path source : String) (bytes : List UInt8) (known : ∀ text ∈ flags, text ∈ reportFlags)
    (plain : path.toList.head? ≠ some '-') (literal : source.toList.head? ≠ some '-')
    (paired : Text.Paired source.toList) (holds : files.Holds path bytes)
    (encoded : bytes.toByteArray = source.toUTF8) :
    (∀ budget, AgreeBut (Path.label files.place path) Path.literal
      (invoke budget name (flags ++ [path]) files stdin)
      (invoke budget name (flags ++ ["-source", source]) files stdin)) ∧
    Listing.ofSource (String.ofList (Text.joinBreaks source.toList)) = Listing.ofSource source := by
  have same : Listing.ofSource (String.ofList (Text.joinBreaks source.toList)) =
      Listing.ofSource source := by
    rw [Listing.ofSource_joinBreaks paired, String.ofList_toList]
  refine ⟨fun budget => ?_, same⟩
  obtain ⟨verbose, json, asked⟩ := ofArguments_word known
  have read := holds.readText encoded paired
  have fromFile : invoke budget name (flags ++ [path]) files stdin =
      ({ file := Path.label files.place path,
         source := String.ofList (Text.joinBreaks source.toList),
         verbose, json } : Job).run budget (Text.readableLines stdin) := by
    simp only [invoke, (asked path plain).1, Arguments.job, read]
    rfl
  have fromText : invoke budget name (flags ++ ["-source", source]) files stdin =
      ({ file := Path.literal, source, verbose, json } : Job).run budget
        (Text.readableLines stdin) := by
    simp only [invoke, (asked source literal).2, Arguments.job]
    rfl
  rw [fromFile, fromText]
  exact agreeBut_run { file := Path.literal, source, verbose, json } same _ Path.literal budget _

/-- A division by zero, on lines that end in carriage returns and line feeds. -/
def returningSource : String :=
  "BEGIN_REGISTER_SEGMENT\r\n0 5\r\n1 0\r\nEND_REGISTER_SEGMENT\r\n" ++
    "BEGIN_CODE_SEGMENT\r\n0 let $q = $0 / $1\r\nEND_CODE_SEGMENT\r\n"

/-- The root, with one file further below that holds that text. -/
def returningDirectory : Directory where
  path := "/"
  files := [("sub/p.seg", returningSource.toList.flatMap String.utf8EncodeChar)]

theorem returningSource_agrees :
    AgreeBut "/sub/p.seg" "<string>"
      (invoke 4 "seglang" ["-verbose", "sub/p.seg"] returningDirectory.toFiles "x\r\n")
      (invoke 4 "seglang" ["-verbose", "-source", returningSource]
        returningDirectory.toFiles "x\r\n") ∧
    (invoke 4 "seglang" ["-verbose", "-source", returningSource] returningDirectory.toFiles
      "x\r\n").isSome = true ∧
    Text.joinBreaks returningSource.toList ≠ returningSource.toList ∧
    Listing.ofSource (String.ofList (Text.joinBreaks returningSource.toList)) =
      Listing.ofSource returningSource := by
  have paired : Text.Paired returningSource.toList := by decide +kernel
  have holds : returningDirectory.toFiles.Holds "sub/p.seg"
      (returningSource.toList.flatMap String.utf8EncodeChar) := ⟨by decide, by decide +kernel⟩
  have label : Path.label returningDirectory.toFiles.place "sub/p.seg" = "/sub/p.seg" := by
    decide +kernel
  obtain ⟨agree, same⟩ := file_agrees_with_literal "seglang" "x\r\n" returningDirectory.toFiles
    ["-verbose"] "sub/p.seg" returningSource _ (by decide) (by decide) (by decide +kernel)
    paired holds String.utf8Encode_toList
  rw [label] at agree
  exact ⟨agree 4, by decide +kernel, by decide +kernel, same⟩

end CommandLine

end LineScript
