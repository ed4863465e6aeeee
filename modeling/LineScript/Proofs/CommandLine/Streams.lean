import LineScript.Proofs.CommandLine.Arguments
import LineScript.Proofs.CommandLine.Containment
import LineScript.Proofs.Machine.Exchange
import LineScript.Proofs.Machine.LineFeeds
import LineScript.Proofs.Report.Limit

/-!
What a call says on its streams. A program that cannot be loaded leaves one message. A program that
ran leaves the texts that it wrote, each on a line of its own, so that they can be told apart again;
the status says whether it came to its end, and the error stream says nothing else than why it did
not.
-/

namespace LineScript

open Text

theorem Text.oneLine_of_mem_readableLines {text line : String}
    (member : line ∈ readableLines text) :
    OneLine line := by
  have stretch {line : String} (member : line ∈ (text.toList.splitOn '\n').map String.ofList) :
      OneLine line := by
    obtain ⟨chars, inside, rfl⟩ := List.mem_map.mp member
    exact oneLine_ofList (break_not_mem_of_mem_splitOn inside)
  rw [readableLines] at member
  split at member
  · exact stretch (List.dropLast_subset _ member)
  · exact stretch member

namespace CommandLine

/-- The report of a job on a machine that it was run on. -/
def Job.report (job : Job) (machine : Machine) : Report :=
  { file := job.file, entries := machine.journal.entries.toList }

/-- A result says how a run of a job ended, and nothing else. -/
structure Reports (job : Job) (ending : Ending) (after : Machine) (result : Result) : Prop where
  stdout : result.stdout = String.join (after.console.outputs.toList.map (· ++ "\n"))
  said : after.console.outputs.toList = after.events.toList.filterMap Event.written?
  plain : ∀ text ∈ after.console.outputs.toList, OneLine text
  parted :
    result.stdout.toList.splitOn '\n' = after.console.outputs.toList.map String.toList ++ [[]]
  clean : result.status = 0 ∧ result.stderr = "" ↔ ending = .done
  faulty : ending ≠ .done → ∃ fault, ending = .stopped (.fault fault) ∧ result.status = 1 ∧
    result.stderr = (job.report after).text fault job.verbose ++ "\n" ++
      if job.json then (job.report after).json fault ++ "\n" else ""
  /-- What is reported can be written, unless the code or the journal is too long for its
  numbers. -/
  limited :
    after.program.code.length < 10 ^ maxDigits → after.journal.entries.size ≤ 10 ^ maxDigits →
    ∀ fault, ending = .stopped (.fault fault) →
      (job.report after).text? fault job.verbose = .ok ((job.report after).text fault job.verbose) ∧
      (job.report after).json? fault = .ok ((job.report after).json fault)

variable {job : Job} {machine after : Machine} {ending : Ending} {budget : Nat}

/-- A run without line feeds that is finished leaves a result that reports it. -/
theorem reports_of_run (inside : machine.program.Inside) (unbroken : machine.Unbroken)
    (unwritten : machine.console.outputs = #[]) (quiet : machine.events = #[])
    (fresh : machine.journal = .seeded) (orderly : machine.console.Orderly)
    (ended : machine.run budget = (ending, after)) (final : ∀ next, ending ≠ .paused next) :
    ∃ result, job.conclude ending after = some (.ok result) ∧ Reports job ending after result := by
  have reported := Machine.runFrom_ne_mishap inside .execute budget
  have nothing : ∀ text ∈ machine.console.outputs.toList, OneLine text := by
    rw [unwritten]
    exact List.forall_mem_nil _
  have outputs := (Machine.outputs_kept.runFrom ⟨unbroken, nothing⟩ .execute budget).2
  have accounts := Machine.accounts_fresh quiet unwritten
  have written := ((Machine.accounts_kept _).runFrom accounts .execute budget).written
  rw [← Machine.run, ended] at reported outputs written
  have parted := splitOn_closed outputs
  cases ending with
  | done =>
    exact ⟨_, rfl, rfl, written, outputs, parted, ⟨fun _ => rfl, fun _ => ⟨rfl, rfl⟩⟩,
      fun unfinished => absurd rfl unfinished, fun _ _ _ same => by cases same⟩
  | stopped trouble =>
    cases trouble with
    | fault fault =>
      refine ⟨_, rfl, rfl, written, outputs, parted, ⟨fun clean => ?_, fun same => ?_⟩, fun _ => ?_,
        fun short few other same => ?_⟩
      · cases clean.1
      · cases same
      · exact ⟨fault, rfl, rfl, rfl⟩
      · cases same
        have writable : (job.report after).Writable fault :=
          Machine.writable_of_run inside fresh ended
          (fun _ brought => absurd brought orderly.not_brought) short few rfl
        exact ⟨Report.text?_eq_ok writable job.verbose, Report.json?_eq_ok writable⟩
    | mishap mishap => exact absurd rfl (reported mishap)
  | paused next => exact absurd rfl (final next)

theorem job_verbose_json {arguments : Arguments} {files : Files} {program : String}
    (read : arguments.job files program = .ok job) :
    job.verbose = arguments.verbose ∧ job.json = arguments.json := by
  rw [Arguments.job] at read
  split at read
  · obtain ⟨source, -, same⟩ := bind_eq_ok read
    cases same
    exact ⟨rfl, rfl⟩
  · obtain ⟨source, -, same⟩ := bind_eq_ok read
    cases same
    exact ⟨rfl, rfl⟩

/-- The streams report a call for a program exactly. If the program cannot be loaded, they hold one
message; once it ended, they hold what it wrote, a line for each text, and the report of a fault if
there was one. The report comes as JSON too if that was asked for. -/
theorem streams_report_run (name : String) (texts : List String) (files : Files) (stdin : String)
    (arguments : Arguments) (program : String) (job : Job)
    (asked : Request.ofArguments texts = .run arguments) (named : arguments.program = some program)
    (read : arguments.job files program = .ok job) :
    (job.json = true ↔ Given .json texts) ∧
    (∀ error, Listing.ofSource job.source = .error (.rejected error) →
      ∀ budget, invoke budget name texts files stdin = some (.ok
        { status := 1, stdout := "", stderr := "LoadError: " ++ error.message ++ "\n" })) ∧
    ∀ listing, Listing.ofSource job.source = .ok listing →
      ∀ budget ending after,
        (job.machine (readableLines stdin) listing).run budget = (ending, after) →
        (∀ next, ending ≠ .paused next) →
        ∃ result, invoke budget name texts files stdin = some (.ok result) ∧
          Reports job ending after result := by
  refine ⟨?given, ?rejected, ?finished⟩
  case given =>
    have given : arguments.keeps .json = true ↔ Given .json texts := keeps_iff_given nofun asked
    rwa [(job_verbose_json read).2]
  case rejected =>
    intro error rejected budget
    simp only [invoke, asked, named, read, Job.run, rejected]
    rfl
  case finished =>
    intro listing loaded budget ending after ended final
    have unbroken : (job.machine (readableLines stdin) listing).Unbroken :=
      Machine.unbroken_of_source loaded rfl fun _ => oneLine_of_mem_readableLines
    have answered : invoke budget name texts files stdin = job.conclude ending after := by
      simp only [invoke, asked, named, read, Job.run, loaded, ended]
    rw [answered]
    exact reports_of_run (Program.inside_ofListing listing) unbroken rfl rfl rfl
      ⟨fun _ => .inl rfl, fun _ => rfl⟩ ended final

/-- A program that writes a line of the input and then divides by zero. -/
def failingSource : String :=
  "BEGIN_REGISTER_SEGMENT\n0 5\n1 0\nEND_REGISTER_SEGMENT\n" ++
    "BEGIN_CODE_SEGMENT\n0 let $line = input\n1 output $line\n" ++
    "2 let $q = $0 / $1\nEND_CODE_SEGMENT\n"

def failingListing : Listing where
  registers := ["5", "0"]
  statements := ["let $line = input", "output $line", "let $q = $0 / $1"]

/-- A directory that holds that program in a file further below. -/
def failingDirectory : Directory where
  path := "/w"
  files := [("sub/p.seg", failingSource.toList.flatMap String.utf8EncodeChar)]

/-- The program comes from a file or as a text; the carriage return is part of the line that it
reads. -/
theorem failingSource_reported :
    (∃ result, invoke 9 "seglang" ["--trace", "sub/p.seg"] failingDirectory.toFiles "x\r\n" =
        some (.ok result) ∧
      result.stdout = "x\r\n" ∧ result.stdout.toList.splitOn '\n' = [['x', '\r'], []] ∧
      result.status = 1) ∧
    (∃ result, invoke 9 "seglang" ["-source", failingSource] failingDirectory.toFiles "x\r\n" =
        some (.ok result) ∧ result.stdout = "x\r\n" ∧ result.status = 1) ∧
    Given .json ["--trace", "sub/p.seg"] ∧
    invoke 0 "seglang" ["-source", "5"] failingDirectory.toFiles "" = some (.ok
      { status := 1, stdout := "", stderr := "LoadError: No register segment found\n" }) := by
  have asked : Request.ofArguments ["--trace", "sub/p.seg"] =
      .run { program := some "sub/p.seg", json := true } := by decide +kernel
  have asked' : Request.ofArguments ["-source", failingSource] =
      .run { program := some failingSource, source := true } := by decide +kernel
  have read : Arguments.job { program := some "sub/p.seg", json := true } failingDirectory.toFiles
      "sub/p.seg" =
        .ok { file := "/w/sub/p.seg", source := failingSource, verbose := false, json := true } := by
    decide +kernel
  have loaded : Listing.ofSource failingSource = .ok failingListing := by decide +kernel
  obtain ⟨given, -, fromFile⟩ := streams_report_run "seglang" ["--trace", "sub/p.seg"]
    failingDirectory.toFiles "x\r\n" _ "sub/p.seg" _ asked rfl read
  obtain ⟨-, -, fromText⟩ := streams_report_run "seglang" ["-source", failingSource]
    failingDirectory.toFiles "x\r\n" _ failingSource _ asked' rfl rfl
  obtain ⟨-, rejected, -⟩ := streams_report_run "seglang" ["-source", "5"]
    failingDirectory.toFiles "" _ "5" _ rfl rfl rfl
  refine ⟨?file, ?text, given.mp rfl,
    rejected (.plain "No register segment found") (by decide +kernel) 0⟩
  case file =>
    obtain ⟨result, answered, reports⟩ := fromFile failingListing loaded 9 _ _ rfl nofun
    obtain ⟨fault, -, status, -⟩ := reports.faulty nofun
    exact ⟨result, answered, reports.stdout, reports.parted, status⟩
  case text =>
    obtain ⟨result, answered, reports⟩ := fromText failingListing loaded 9 _ _ rfl nofun
    obtain ⟨fault, -, status, -⟩ := reports.faulty nofun
    exact ⟨result, answered, reports.stdout, status⟩

end CommandLine

end LineScript
