import LineScript.CommandLine.Invocation
import LineScript.Files.Directory
import LineScript.Proofs.Listing.RoundTrip
import LineScript.Proofs.Machine.Position

/-!
What comes of a call of the command: it runs forever, or it has one answer however large its budget
is. An answer is an exit status, with something said on the error stream unless the program ran to
its end, or one of three errors that the command does not report.
-/

namespace LineScript

/-- Where loading stops at a line whose index has more digits than are read: among the registers, or
among the statements once the registers are loaded. -/
inductive Listing.StopsAtIndex (source : String) (digits : Nat) : Prop where
  | register {registers code : String} (opened : Segment.extract .register source = .ok registers)
      (entered : Segment.extract .code source = .ok code)
      (stops : Segment.Pattern.Stops .value .register 0 (Segment.inked registers.toList)
        (.oversizedIndex digits)) : StopsAtIndex source digits
  | statement {registers code : String} {values : List String}
      (opened : Segment.extract .register source = .ok registers)
      (entered : Segment.extract .code source = .ok code)
      (loaded : Segment.loadRegisters registers = .ok values)
      (stops : Segment.Pattern.Stops .statement .code 0 (Segment.inked code.toList)
        (.oversizedIndex digits)) : StopsAtIndex source digits

namespace Segment

variable {kind : Kind} {pattern : Pattern} {digits : Nat}

theorem ne_oversizedIndex_of_extract {source : String} {failure : LoadFailure}
    (failed : extract kind source = .error failure) : failure ≠ .oversizedIndex digits := by
  rw [extract] at failed
  rintro rfl
  cases found : kind.frame.extract kind.name source with
  | ok body => rw [found] at failed; cases failed
  | error error => rw [found] at failed; cases failed

/-- A line that stops the reading with its index is in the grammar. -/
theorem load_eq_oversizedIndex_iff {source : String} :
    load kind pattern source = .error (.oversizedIndex digits) ↔
      pattern.Stops kind 0 (inked source.toList) (.oversizedIndex digits) := by
  rw [load_eq_error_iff]
  constructor
  · intro refuses
    cases refuses with
    | line present stops => exact stops
  · intro stops
    obtain ⟨place, text, here, fails, -⟩ := id stops
    cases fails with
    | oversized written long => exact .line ⟨text, List.mem_of_getElem? here, _, written⟩ stops

end Segment

theorem Listing.ofSource_eq_oversizedIndex_iff {source : String} {digits : Nat} :
    ofSource source = .error (.oversizedIndex digits) ↔ StopsAtIndex source digits := by
  constructor
  · intro failed
    rcases bind_eq_error failed with lost | ⟨registers, opened, failed⟩
    · exact absurd rfl (Segment.ne_oversizedIndex_of_extract lost)
    rcases bind_eq_error failed with lost | ⟨code, entered, failed⟩
    · exact absurd rfl (Segment.ne_oversizedIndex_of_extract lost)
    rcases bind_eq_error failed with refused | ⟨values, loaded, failed⟩
    · exact .register opened entered (Segment.load_eq_oversizedIndex_iff.mp refused)
    rcases bind_eq_error failed with refused | ⟨statements, -, failed⟩
    · exact .statement opened entered loaded (Segment.load_eq_oversizedIndex_iff.mp refused)
    · cases failed
  · intro stops
    cases stops with
    | register opened entered stops =>
      have refused := Segment.load_eq_oversizedIndex_iff.mpr stops
      simp only [ofSource, opened, entered, Segment.loadRegisters, refused, ok_bind]
      rfl
    | statement opened entered loaded stops =>
      have refused := Segment.load_eq_oversizedIndex_iff.mpr stops
      simp only [ofSource, opened, entered, loaded, Segment.loadCode, refused, ok_bind]
      rfl

theorem Files.readText_error {files : Files} {path : String} {failure : ReadFailure}
    (failed : files.readText path = .error failure) :
    (∃ error, failure = .system error) ∨
      (failure = .nullInPath ∧ '\x00' ∈ path.toList) ∨
      ('\x00' ∉ path.toList ∧ ∃ bytes flaw, files.open? path = .ok bytes ∧
        Text.Utf8.decode bytes = .error flaw ∧ failure = .illFormed flaw) := by
  rw [readText] at failed
  by_cases null : '\x00' ∈ path.toList
  · rw [if_pos (List.contains_iff_mem.mpr null)] at failed
    exact .inr (.inl ⟨(Except.error.inj failed).symm, null⟩)
  · rw [if_neg (mt List.contains_iff_mem.mp null)] at failed
    cases opened : files.open? path with
    | error error =>
      rw [opened] at failed
      exact .inl ⟨error, (Except.error.inj failed).symm⟩
    | ok bytes =>
      rw [opened] at failed
      have text : ReadFailure.textOf bytes = .error failure := failed
      rw [ReadFailure.textOf] at text
      cases decoded : Text.Utf8.decode bytes with
      | ok chars => rw [decoded] at text; cases text
      | error flaw =>
        rw [decoded] at text
        exact .inr (.inr ⟨null, bytes, flaw, rfl, decoded, (Except.error.inj text).symm⟩)

namespace CommandLine

/-- The errors that leave a call for a program, and when they do. -/
inductive Escapes (files : Files) (arguments : Arguments) (program : String) :
    Escape → Prop where
  | nullInPath (file : arguments.source = false) (null : '\x00' ∈ program.toList) :
      Escapes files arguments program (.read .nullInPath program)
  | illFormed {bytes : List UInt8} {flaw : Text.Utf8.Flaw} (file : arguments.source = false)
      (plain : '\x00' ∉ program.toList) (opened : files.open? program = .ok bytes)
      (flawed : Text.Utf8.decode bytes = .error flaw) :
      Escapes files arguments program (.read (.illFormed flaw) program)
  | oversizedIndex {job : Job} {digits : Nat} (read : arguments.job files program = .ok job)
      (stops : Listing.StopsAtIndex job.source digits) :
      Escapes files arguments program (.load (.oversizedIndex digits))

variable {files : Files} {arguments : Arguments} {program : String} {escape : Escape}

theorem job_eq_error_iff {failure : ReadFailure} :
    arguments.job files program = .error failure ↔
      arguments.source = false ∧ files.readText program = .error failure := by
  rw [Arguments.job]
  cases literal : arguments.source with
  | true =>
    refine ⟨fun failed => ?_, fun failed => ?_⟩
    · cases failed
    · cases failed.1
  | false =>
    refine ⟨fun failed => ?_, fun ⟨_, unread⟩ => ?_⟩
    · rcases bind_eq_error failed with unread | ⟨source, -, done⟩
      · exact ⟨rfl, unread⟩
      · cases done
    · rw [if_neg Bool.false_ne_true, unread]
      rfl

/-- What comes of a call for a program, step by step. -/
theorem invoke_cases {texts : List String} (asked : Request.ofArguments texts = .run arguments)
    (name : String) (files : Files) (stdin : String) :
    (arguments.program = none ∧
      ∀ budget, invoke budget name texts files stdin = some (.ok noProgram)) ∨
      ∃ program, arguments.program = some program ∧
        ((∃ failure, arguments.job files program = .error failure ∧
          ∀ budget, invoke budget name texts files stdin = some (unread program failure)) ∨
        ∃ job, arguments.job files program = .ok job ∧
          ((∃ failure, Listing.ofSource job.source = .error failure ∧
            ∀ budget, invoke budget name texts files stdin = some (unloaded failure)) ∨
          ∃ machine : Machine, machine.program.Inside ∧
            ∀ budget, invoke budget name texts files stdin =
              job.conclude (machine.run budget).1 (machine.run budget).2)) := by
  simp only [invoke, asked]
  cases named : arguments.program with
  | none => exact .inl ⟨rfl, fun _ => rfl⟩
  | some program =>
    refine .inr ⟨program, rfl, ?_⟩
    cases read : arguments.job files program with
    | error failure => exact .inl ⟨failure, rfl, fun _ => by simp only [read]⟩
    | ok job =>
      refine .inr ⟨job, rfl, ?_⟩
      cases loaded : Listing.ofSource job.source with
      | error failure => exact .inl ⟨failure, rfl, fun _ => by simp only [read, Job.run, loaded]⟩
      | ok listing =>
        refine .inr ⟨job.machine (Text.readableLines stdin) listing,
          Program.inside_ofListing listing, ?_⟩
        intro budget
        simp only [read, Job.run, loaded]

/-- An answer is the status of a program that ran to its end, or another one with a word about it,
or an error that leaves the call. -/
inductive Contained (files : Files) (arguments : Arguments) : Except Escape Result → Prop where
  | finished {result : Result} (status : result.status = 0) : Contained files arguments (.ok result)
  | reported {result : Result} (status : result.status = 1) (told : result.stderr ≠ "") :
      Contained files arguments (.ok result)
  | escaped {program : String} {escape : Escape} (named : arguments.program = some program)
      (escapes : Escapes files arguments program escape) :
      Contained files arguments (.error escape)

private theorem append_break_ne_empty (text rest : String) : text ++ "\n" ++ rest ≠ "" := by
  intro empty
  have broken := (String.append_eq_empty_iff.mp (String.append_eq_empty_iff.mp empty).1).2
  exact absurd broken (by decide)

theorem contained_unread {failure : ReadFailure} (named : arguments.program = some program)
    (failed : arguments.job files program = .error failure) :
    Contained files arguments (unread program failure) := by
  obtain ⟨file, failed⟩ := job_eq_error_iff.mp failed
  rcases Files.readText_error failed with ⟨error, rfl⟩ | ⟨rfl, null⟩ | ⟨plain, rest⟩
  · refine .reported rfl ?_
    have told := append_break_ne_empty
      ("Failed to read " ++ program ++ ": " ++ error.message program) ""
    rwa [String.append_empty] at told
  · exact .escaped named (.nullInPath file null)
  · obtain ⟨bytes, flaw, opened, flawed, rfl⟩ := rest
    exact .escaped named (.illFormed file plain opened flawed)

theorem contained_unloaded {job : Job} {failure : LoadFailure}
    (named : arguments.program = some program) (read : arguments.job files program = .ok job)
    (failed : Listing.ofSource job.source = .error failure) :
    Contained files arguments (unloaded failure) := by
  cases failure with
  | rejected error =>
    refine .reported rfl ?_
    have told := append_break_ne_empty ("LoadError: " ++ error.message) ""
    rwa [String.append_empty] at told
  | oversizedIndex digits =>
    exact .escaped named (.oversizedIndex read (Listing.ofSource_eq_oversizedIndex_iff.mp failed))

theorem contained_conclude {job : Job} {machine : Machine} {answer : Except Escape Result}
    {budget : Nat} (inside : machine.program.Inside)
    (concluded : job.conclude (machine.run budget).1 (machine.run budget).2 = some answer) :
    Contained files arguments answer := by
  have orderly := Machine.runFrom_ne_mishap inside .execute budget
  rcases ended : machine.run budget with ⟨ending, after⟩
  rw [← Machine.run, ended] at orderly
  rw [ended] at concluded
  cases ending with
  | done =>
    obtain rfl := Option.some.inj concluded
    exact .finished rfl
  | stopped trouble =>
    cases trouble with
    | fault fault =>
      obtain rfl := Option.some.inj concluded
      exact .reported rfl (append_break_ne_empty _ _)
    | mishap mishap => exact absurd rfl (orderly mishap)
  | paused next => cases concluded

/-- A run that is finished within a budget is finished in the same way within every larger one. -/
theorem conclude_settles (job : Job) (machine : Machine) :
    (∀ budget, job.conclude (machine.run budget).1 (machine.run budget).2 = none) ∨
      ∃ enough answer, ∀ more,
        job.conclude (machine.run (enough + more)).1 (machine.run (enough + more)).2 =
          some answer := by
  by_cases forever : ∀ budget, job.conclude (machine.run budget).1 (machine.run budget).2 = none
  · exact .inl forever
  · obtain ⟨enough, finished⟩ := not_forall.mp forever
    obtain ⟨answer, concluded⟩ := Option.ne_none_iff_exists'.mp finished
    refine .inr ⟨enough, answer, fun more => ?_⟩
    rcases ended : machine.run enough with ⟨ending, after⟩
    have final : ∀ next, ending ≠ .paused next := by
      rintro next rfl
      rw [ended] at concluded
      cases concluded
    have stable : machine.run (enough + more) = (ending, after) :=
      Machine.runFrom_stable ended final more
    rw [stable]
    rwa [ended] at concluded

theorem Escapes.invoke {texts : List String} (asked : Request.ofArguments texts = .run arguments)
    (named : arguments.program = some program) (escapes : Escapes files arguments program escape)
    (budget : Nat) (name stdin : String) :
    invoke budget name texts files stdin = some (.error escape) := by
  cases escapes with
  | nullInPath file null =>
    have unread : files.readText program = .error .nullInPath := by
      rw [Files.readText, if_pos (List.contains_iff_mem.mpr null)]
    simp only [CommandLine.invoke, asked, named, job_eq_error_iff.mpr ⟨file, unread⟩]
    rfl
  | @illFormed bytes flaw file plain opened flawed =>
    have unread : files.readText program = .error (.illFormed flaw) := by
      rw [Files.readText, if_neg (mt List.contains_iff_mem.mp plain), opened]
      simp only [Except.mapError, ok_bind, ReadFailure.textOf, flawed]
    simp only [CommandLine.invoke, asked, named, job_eq_error_iff.mpr ⟨file, unread⟩]
    rfl
  | oversizedIndex read stops =>
    have failed := Listing.ofSource_eq_oversizedIndex_iff.mpr stops
    simp only [CommandLine.invoke, asked, named, read, Job.run, failed]
    rfl

/-- A call for a program runs forever, or it comes to one answer. That answer is a status with a
word about every failure, but for three errors: a path with a null character, a file that is no
text, and an index with more digits than are read. -/
theorem invoke_contained (name : String) (texts : List String) (files : Files) (stdin : String)
    (arguments : Arguments) (asked : Request.ofArguments texts = .run arguments) :
    ((∀ budget, invoke budget name texts files stdin = none) ∨
      ∃ enough answer, ∀ more, invoke (enough + more) name texts files stdin = some answer) ∧
    (∀ budget answer, invoke budget name texts files stdin = some answer →
      Contained files arguments answer) ∧
    ∀ program escape, arguments.program = some program →
      Escapes files arguments program escape →
        ∀ budget, invoke budget name texts files stdin = some (.error escape) := by
  refine ⟨?settles, ?contained, ?escapes⟩
  case settles =>
    rcases invoke_cases asked name files stdin with ⟨-, same⟩ | ⟨program, -, course⟩
    · exact .inr ⟨0, _, fun more => same (0 + more)⟩
    rcases course with ⟨failure, -, same⟩ | ⟨job, -, course⟩
    · exact .inr ⟨0, _, fun more => same (0 + more)⟩
    rcases course with ⟨failure, -, same⟩ | ⟨machine, -, same⟩
    · exact .inr ⟨0, _, fun more => same (0 + more)⟩
    · simp only [same]
      exact conclude_settles job machine
  case contained =>
    intro budget answer answered
    rcases invoke_cases asked name files stdin with ⟨-, same⟩ | ⟨program, named, course⟩
    · obtain rfl := Option.some.inj ((same budget).symm.trans answered)
      exact .reported rfl (by decide)
    rcases course with ⟨failure, failed, same⟩ | ⟨job, read, course⟩
    · obtain rfl := Option.some.inj ((same budget).symm.trans answered)
      exact contained_unread named failed
    rcases course with ⟨failure, failed, same⟩ | ⟨machine, inside, same⟩
    · obtain rfl := Option.some.inj ((same budget).symm.trans answered)
      exact contained_unloaded named read failed
    · exact contained_conclude inside ((same budget).symm.trans answered)
  case escapes =>
    intro program escape named escapes budget
    exact escapes.invoke asked named budget name stdin

/-- A directory with two files, here and further below, that hold one byte, which begins no
character. -/
def oneByte : Directory where
  path := "/work"
  files := [("program.seg", [0xFF]), ("sub/p.seg", [0xFF])]

def Arguments.ofFile (program : String) : Arguments where
  program := some program

/-- Not every failure to read a file is reported. -/
theorem illFormedFile_escapes :
    Request.ofArguments ["program.seg"] = .run (.ofFile "program.seg") ∧
      invoke 1 "seglang" ["program.seg"] oneByte.toFiles "" =
        some (.error (.read (.illFormed ⟨0, [0xFF], .badStart⟩) "program.seg")) := by
  decide +kernel

theorem oneByte_contained :
    Request.ofArguments ["sub/p.seg"] = .run (.ofFile "sub/p.seg") ∧ ∃ escape,
      Escapes oneByte.toFiles (.ofFile "sub/p.seg") "sub/p.seg" escape ∧
      (∀ budget, invoke budget "seglang" ["sub/p.seg"] oneByte.toFiles "5\r\n" =
        some (.error escape)) ∧
      Contained oneByte.toFiles (.ofFile "sub/p.seg") (.error escape) := by
  have asked : Request.ofArguments ["sub/p.seg"] = .run (.ofFile "sub/p.seg") := by decide +kernel
  have opened : oneByte.toFiles.open? "sub/p.seg" = .ok [0xFF] := by decide +kernel
  have escapes : Escapes oneByte.toFiles (.ofFile "sub/p.seg") "sub/p.seg"
      (.read (.illFormed ⟨0, [0xFF], .badStart⟩) "sub/p.seg") :=
    .illFormed rfl (by decide) opened rfl
  obtain ⟨-, contained, left⟩ :=
    invoke_contained "seglang" ["sub/p.seg"] oneByte.toFiles "5\r\n" _ asked
  have answered := left "sub/p.seg" _ rfl escapes
  exact ⟨asked, _, escapes, answered, contained 0 _ (answered 0)⟩

end CommandLine

end LineScript
