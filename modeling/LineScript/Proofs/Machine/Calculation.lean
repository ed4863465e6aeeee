import LineScript.Proofs.Journal.Course
import LineScript.Proofs.Reference.Semantics
import LineScript.Proofs.Reference.Sheet

/-!
Calculation. The phase that computes binds the canonical text of the exact result, and a straight
line of arithmetic and pops leaves the program with the texts of what the line computes over the
integers.
-/

namespace LineScript

open Arithmetic (Divides)
open Text (Canonical)
open Reference (phasesOf phasesOf_of_opening phasesOf_of_apart)

variable {program other : Program} {sheet after : Sheet} {statement : Statement}
  {statements : List Statement} {name text : String} {cell : Cell} {number : Int}

/-- From its position on, the code of a program writes some statements. -/
def Program.Straight : Program → List Statement → Prop
  | _, [] => True
  | program, statement :: rest => program.statement? = some statement ∧
    program.advance.Straight rest

/-- Which statements the code writes does not depend on the variables and the stack. -/
theorem Program.Straight.congr (straight : program.Straight statements)
    (code : other.code = program.code)
    (ip : other.ip = program.ip) : other.Straight statements := by
  induction statements generalizing program other with
  | nil => trivial
  | cons statement rest ih =>
    obtain ⟨here, later⟩ := straight
    refine ⟨?_, ih later code ?_⟩
    · rw [← here, statement?, statement?, current, current, code, ip]
    · rw [advance, advance, ip]

/-- A program holds the texts of a sheet. -/
structure Sheet.Shows (sheet : Sheet) (program : Program) : Prop where
  vars : ∀ name, Option.Rel Cell.Holds (sheet.vars name) (program.vars.get? name)
  stack : List.Forall₂ Cell.Holds sheet.stack program.stack

/-- The sheet of a program that has computed nothing. -/
def Sheet.given (program : Program) : Sheet where
  vars name := (program.vars.get? name).map .given
  stack := program.stack.map .given

theorem Sheet.given_shows (program : Program) : (given program).Shows program where
  vars name := by
    have given : (given program).vars name = (program.vars.get? name).map .given := rfl
    rw [given]
    cases program.vars.get? name with
    | none => exact .none
    | some text =>
      have holds : (Cell.given text).Holds text := rfl
      exact .some holds
  stack := List.forall₂_map_left_iff.mpr (List.forall₂_same.mpr fun _ _ => rfl)

theorem Cell.holds_decimal (number : Int) : (Cell.computed number).Holds (Text.decimal number) :=
  Text.canonical_iff.mpr rfl

theorem Cell.Holds.read (holds : cell.Holds text) (reads : cell.Reads number) :
    Value.read text = .number number := by
  cases cell with
  | given given =>
    obtain rfl := holds
    exact reads
  | computed found =>
    obtain rfl := reads
    exact Value.read_of_canonical holds

theorem Program.operand_of_read (held : program.vars.get? name = some text)
    (reads : Value.read text = .number number) : program.operand name = .ok number := by
  simp only [operand, require, held, reads, ok_bind]
  rfl

namespace Sheet.Shows

theorem operand (shows : sheet.Shows program) (fit : sheet.Operand name number) :
    program.operand name = .ok number := by
  obtain ⟨cell, placed, reads⟩ := fit
  have related := shows.vars name
  rw [placed] at related
  cases held : program.vars.get? name with
  | none =>
    rw [held] at related
    cases related
  | some text =>
    rw [held] at related
    cases related with
    | some holds => exact Program.operand_of_read held (holds.read reads)

theorem bind (shows : sheet.Shows program) (name : String) (holds : cell.Holds text) :
    (sheet.bind name cell).Shows (program.set name text) where
  vars other := by
    rw [Program.set, Bindings.get?_insert, Sheet.bind]
    by_cases same : other = name
    · simp only [same, if_true]
      exact .some holds
    · simp only [same, if_false]
      exact shows.vars other
  stack := shows.stack

/-- A computed cell holds the canonical text of its integer. -/
theorem held (shows : sheet.Shows program) (placed : sheet.vars name = some (.computed number)) :
    ∃ text, program.vars.get? name = some text ∧ Canonical number text := by
  have related := shows.vars name
  rw [placed] at related
  cases found : program.vars.get? name with
  | none =>
    rw [found] at related
    cases related
  | some text =>
    rw [found] at related
    cases related with
    | some holds => exact ⟨text, rfl, holds⟩

theorem push (shows : sheet.Shows program) (holds : cell.Holds text) :
    (sheet.push cell).Shows (program.push text) where
  vars := shows.vars
  stack := .cons holds shows.stack

end Sheet.Shows

theorem Program.compute_of_result {target : String} {operator : Operator} {left right result : Int}
    (exact : operator.result? left right = some result) :
    program.compute target operator left right =
      .ok (program.set target (Text.decimal result)) := by
  cases operator <;> cases exact <;> rfl

theorem Program.compute_of_divides {target : String} {left right quotient remainder : Int}
    (divides : Divides left right quotient remainder) :
    program.compute target .divide left right =
      .ok ((program.set target (Text.decimal quotient)).push (Text.decimal remainder)) := by
  rw [compute, Arithmetic.divide?_of_divides divides]

/-- A statement does to a program what it does to the sheet of the program. -/
theorem Sheet.Yields.plan (yields : sheet.Yields statement after) (shows : sheet.Shows program) :
    ∃ other, statement.plan program = .ok (.resume other.advance) ∧ after.Shows other ∧
      other.code = program.code ∧ other.ip = program.ip := by
  cases yields with
  | @compute target left right operator leftValue rightValue result leftReads rightReads exact =>
    refine ⟨_, ?_, shows.bind target (Cell.holds_decimal result), rfl, rfl⟩
    rw [Statement.plan, shows.operand leftReads, shows.operand rightReads, ok_bind, ok_bind,
      Program.compute_of_result exact]
    rfl
  | @divide target left right leftValue rightValue quotient remainder leftReads rightReads
    divides =>
    have bound := shows.bind target (Cell.holds_decimal quotient)
    refine ⟨_, ?_, bound.push (Cell.holds_decimal remainder), rfl, rfl⟩
    rw [Statement.plan, shows.operand leftReads, shows.operand rightReads, ok_bind, ok_bind,
      Program.compute_of_divides divides]
    rfl
  | @pop target cell rest top =>
    have related := shows.stack
    rw [top] at related
    cases held : program.stack with
    | nil =>
      rw [held] at related
      cases related
    | cons text below =>
      rw [held] at related
      cases related with
      | cons holds others =>
        have popped : ({ sheet with stack := rest } : Sheet).Shows
            { program with stack := below } :=
          ⟨shows.vars, others⟩
        refine ⟨_, ?_, popped.bind target holds, rfl, rfl⟩
        rw [Statement.plan, Program.pop?, held]

namespace Machine

variable {machine : Machine}

/-- What the phase that computes makes of two integers. -/
inductive Calculates (machine : Machine) (target : String) (left right : Int) :
    Operator → Outcome × Machine → Prop where
  | exact {operator : Operator} {result : Int} {text : String}
      (computed : operator.result? left right = some result) (canonical : Canonical result text) :
      Calculates machine target left right operator
        (.ok (some .execute), machine.withProgram (machine.program.set target text).advance)
  | divided {quotient remainder : Int} {bound pushed : String}
      (divides : Divides left right quotient remainder) (canonical : Canonical quotient bound)
      (rest : Canonical remainder pushed) :
      Calculates machine target left right .divide
        (.ok (some .execute),
          machine.withProgram ((machine.program.set target bound).push pushed).advance)
  | nothing (zero : right = 0) :
      Calculates machine target left right .divide (.error (.ofCause .divisionByZero), machine)

theorem calculates_of_operands {target left right : String} {operator : Operator}
    {leftValue rightValue : Int}
    (read : machine.program.statement? = some (.assign target (.arithmetic left operator right)))
    (leftRead : machine.program.operand left = .ok leftValue)
    (rightRead : machine.program.operand right = .ok rightValue) :
    machine.Calculates target leftValue rightValue operator (Phase.arithmetic.work.on machine) := by
  obtain ⟨line, found, parsed⟩ := Program.statement?_eq_some_iff.mp read
  have planned : Phase.arithmetic.plan machine.program =
      machine.program.compute target operator leftValue rightValue >>=
        fun computed => .ok (.resume computed.advance) := by
    have carried := Phase.plan_carrier found parsed
    rw [Statement.plan, leftRead, rightRead] at carried
    exact carried
  rw [Phase.work_on, planned]
  cases exact : operator.result? leftValue rightValue with
  | some result =>
    rw [Program.compute_of_result exact]
    exact .exact exact (Text.canonical_iff.mpr rfl)
  | none =>
    cases operator with
    | divide =>
      by_cases zero : rightValue = 0
      · have failed : machine.program.compute target .divide leftValue rightValue =
            Trouble.raise .divisionByZero := by
          rw [Program.compute, Arithmetic.divide?_eq_none_iff.mpr zero]
        rw [failed]
        exact .nothing zero
      · have divides := Arithmetic.divides_tdiv leftValue zero
        rw [Program.compute_of_divides divides]
        exact .divided divides (Text.canonical_iff.mpr rfl) (Text.canonical_iff.mpr rfl)
    | _ => cases exact

/-- Nothing but the program and the journal differs. -/
structure Beside (machine later : Machine) : Prop where
  console : later.console = machine.console
  events : later.events = machine.events
  handled : later.handled = machine.handled
  verbose : later.verbose = machine.verbose

/-- The phases of a statement that needs no console carry it out. -/
theorem exists_leads_of_plan (handled : ∀ phase, phase ∈ machine.handled)
    (read : machine.program.statement? = some statement)
    (planned : statement.plan machine.program = .ok (.resume other)) :
    ∃ later, Leads .execute machine (phasesOf statement) .execute later ∧ later.program = other ∧
      machine.Beside later := by
  obtain ⟨line, found, parsed⟩ := Program.statement?_eq_some_iff.mp read
  have named := Phase.plan_execute_of_named? found (Phase.named?_of_parse? parsed)
  have begins := step_proceed found (handled .execute) named
  have carries {middle : Machine} (same : middle.program = machine.program)
      (listed : middle.handled = machine.handled) :
      middle.step statement.carrier =
        (.ok (some .execute), (middle.record statement.carrier (some line)).withProgram other) := by
    apply step_proceed (same ▸ found) (listed ▸ handled _)
    rw [same, Phase.plan_carrier found parsed, planned]
    rfl
  by_cases same : statement.carrier = statement.opening
  · rw [phasesOf_of_opening same]
    rw [← same] at begins
    exact ⟨_, .step begins (.step (carries rfl rfl) (.here _ _)), rfl, ⟨rfl, rfl, rfl, rfl⟩⟩
  · rw [phasesOf_of_apart same]
    have hands {middle : Machine} (unchanged : middle.program = machine.program)
        (listed : middle.handled = machine.handled) :
        middle.step statement.opening = (.ok (some statement.carrier),
          (middle.record statement.opening (some line)).withProgram middle.program) := by
      apply step_proceed (unchanged ▸ found) (listed ▸ handled _)
      rw [unchanged]
      exact Phase.plan_opening found parsed same
    exact ⟨_, .step begins (.step (hands rfl rfl) (.step (carries rfl rfl) (.here _ _))), rfl,
      ⟨rfl, rfl, rfl, rfl⟩⟩

/-- A straight line is carried out, and the machine holds what it computes. -/
theorem exists_leads_of_computes {first last : Sheet} (handled : ∀ phase, phase ∈ machine.handled)
    (shows : first.Shows machine.program) (straight : machine.program.Straight statements)
    (computes : first.Computes statements last) :
    ∃ later, Leads .execute machine (statements.flatMap phasesOf) .execute later ∧
      last.Shows later.program ∧ later.program.code = machine.program.code ∧
      later.program.ip = machine.program.ip + statements.length ∧ machine.Beside later := by
  induction computes generalizing machine with
  | nil sheet => exact ⟨machine, .here _ _, shows, rfl, (Int.add_zero _).symm, rfl, rfl, rfl, rfl⟩
  | @cons sheet middle last statement rest yields _ ih =>
    obtain ⟨here, goesOn⟩ := straight
    obtain ⟨other, planned, still, code, ip⟩ := yields.plan shows
    obtain ⟨next, begins, program, beside⟩ := exists_leads_of_plan handled here planned
    have listed : ∀ phase, phase ∈ next.handled := beside.handled ▸ handled
    have nextCode : next.program.code = machine.program.code := by rw [program]; exact code
    have nextIp : next.program.ip = machine.program.ip + 1 := by rw [program, Program.advance, ip]
    have shown : middle.Shows next.program := by rw [program]; exact ⟨still.vars, still.stack⟩
    obtain ⟨later, ends, result, sameCode, moved, besideLater⟩ :=
      ih listed shown (goesOn.congr nextCode nextIp)
    refine ⟨later, begins.trans ends, result, sameCode.trans nextCode, ?_, ?_⟩
    · rw [moved, nextIp, List.length_cons]
      omega
    · exact ⟨besideLater.console.trans beside.console, besideLater.events.trans beside.events,
        besideLater.handled.trans beside.handled, besideLater.verbose.trans beside.verbose⟩

/-- A branch on equal texts is a branch on equal integers. -/
theorem equal_branch_on {left right line first second : String} {one two : Int}
    (read : machine.program.statement? = some (.branch left .equal right line))
    (leftHeld : machine.program.vars.get? left = some first) (leftCanonical : Canonical one first)
    (rightHeld : machine.program.vars.get? right = some second)
    (rightCanonical : Canonical two second)
    (inside : Text.numeral line.toList < machine.program.code.length) :
    Phase.branch.work.on machine = (.ok (some .execute), machine.withProgram
      (if one = two then machine.program.jump (Text.numeral line.toList)
        else machine.program.advance)) := by
  obtain ⟨text, found, parsed⟩ := Program.statement?_eq_some_iff.mp read
  have planned : Phase.branch.plan machine.program =
      Statement.plan machine.program (.branch left .equal right line) :=
        Phase.plan_carrier found parsed
  rw [Phase.work_on, planned]
  simp only [Statement.plan, Program.require, leftHeld, rightHeld, ok_bind, Comparison.holds,
    decide_eq_true_eq, Value.canonical_inj leftCanonical rightCanonical]
  by_cases same : one = two
  · simp only [same, if_true, Program.goTo, inside, ok_bind]
    rfl
  · simp only [same, if_false]
    rfl

/-- Arithmetic is exact at any size and its texts are canonical: what it binds and pushes reads as
the exact result, straight lines of it compute with integers, and equal texts are equal integers. -/
theorem calculates_exactly (machine : Machine) :
    (∀ (target left right leftText rightText : String) (operator : Operator)
        (leftValue rightValue : Int),
      machine.program.statement? = some (.assign target (.arithmetic left operator right)) →
      machine.program.vars.get? left = some leftText → Value.read leftText = .number leftValue →
      machine.program.vars.get? right = some rightText → Value.read rightText = .number rightValue →
      machine.Calculates target leftValue rightValue operator (Phase.arithmetic.work.on machine)) ∧
    (Trouble.ofCause .divisionByZero).toFault.message = "Division by zero" ∧
    (∀ dividend divisor : Int, divisor ≠ 0 →
      ∃! result : Int × Int, Divides dividend divisor result.1 result.2) ∧
    (∀ number : Int, ∃! text, Canonical number text) ∧
    (∀ (number : Int) (text : String), Canonical number text → Value.read text = .number number) ∧
    (∀ (one two : Int) (first second : String), Canonical one first → Canonical two second →
      (Comparison.equal.holds first second = true ↔ one = two)) ∧
    ∀ (statements : List Statement) (sheet : Sheet), (∀ phase, phase ∈ machine.handled) →
      machine.program.Straight statements →
      (Sheet.given machine.program).Computes statements sheet →
      ∃ later,
        (∀ budget, machine.run ((statements.flatMap phasesOf).length + budget) =
          later.run budget) ∧
        sheet.Shows later.program ∧ later.program.code = machine.program.code ∧
        later.program.ip = machine.program.ip + statements.length ∧ machine.Beside later ∧
        ∀ (left right line : String) (one two : Int), sheet.vars left = some (.computed one) →
          sheet.vars right = some (.computed two) →
          later.program.statement? = some (.branch left .equal right line) →
          Text.numeral line.toList < later.program.code.length →
          Phase.branch.work.on later = (.ok (some .execute), later.withProgram
            (if one = two then later.program.jump (Text.numeral line.toList)
              else later.program.advance)) := by
  refine ⟨?_, rfl, ?_, ?_, ?_, ?_, ?_⟩
  · intro target left right leftText rightText operator leftValue rightValue read leftHeld leftReads
      rightHeld rightReads
    exact calculates_of_operands read (Program.operand_of_read leftHeld leftReads)
      (Program.operand_of_read rightHeld rightReads)
  · intro dividend divisor nonzero
    refine ⟨(dividend.tdiv divisor, dividend.tmod divisor),
      Arithmetic.divides_tdiv dividend nonzero, ?_⟩
    rintro ⟨quotient, remainder⟩ divides
    exact Prod.ext divides.eq_tdiv.1 divides.eq_tdiv.2
  · intro number
    exact ⟨_, Text.canonical_iff.mpr rfl, fun text canonical => Text.canonical_iff.mp canonical⟩
  · intro number text canonical
    exact Value.read_of_canonical canonical
  · intro one two first second canonical also
    rw [Comparison.holds, decide_eq_true_eq]
    exact Value.canonical_inj canonical also
  · intro statements sheet handled straight computes
    obtain ⟨later, leads, shows, code, ip, beside⟩ :=
      exists_leads_of_computes handled (Sheet.given_shows machine.program) straight computes
    refine ⟨later, leads.runFrom, shows, code, ip, beside, ?_⟩
    intro left right line one two leftPlaced rightPlaced read inside
    obtain ⟨first, leftHeld, leftCanonical⟩ := shows.held leftPlaced
    obtain ⟨second, rightHeld, rightCanonical⟩ := shows.held rightPlaced
    exact equal_branch_on read leftHeld leftCanonical rightHeld rightCanonical inside

/-- The quotient of a division, and what the division left on the stack. -/
def halved : Machine where
  program := .ofListing ⟨["\"-7\"", "2"], ["let $q = $0 / $1", "let $r = pop"]⟩
  console := { inputs := [] }

theorem halved_calculates :
    ∃ later : Machine, (∀ budget, halved.run (5 + budget) = later.run budget) ∧
      later.program.vars.get? "q" = some "-3" ∧ later.program.vars.get? "r" = some "-1" := by
  have handled : ∀ phase, phase ∈ halved.handled := by
    intro phase
    cases phase <;> decide
  have straight : halved.program.Straight
      [.assign "q" (.arithmetic "0" .divide "1"), .assign "r" .stack] :=
    ⟨by decide +kernel, by decide +kernel, trivial⟩
  have dividend : (Sheet.given halved.program).Operand "0" (-7) :=
    ⟨.given "-7", rfl, show Value.read "-7" = .number (-7) by decide +kernel⟩
  have divisor : (Sheet.given halved.program).Operand "1" 2 :=
    ⟨.given "2", rfl, show Value.read "2" = .number 2 by decide +kernel⟩
  have divides : Divides (-7) 2 (-3) (-1) := ⟨by decide, by decide, by decide⟩
  have divided :
      (Sheet.given halved.program).Yields (.assign "q" (.arithmetic "0" .divide "1")) _ :=
    .divide dividend divisor divides
  have popped :
      (((Sheet.given halved.program).bind "q" (.computed (-3))).push (.computed (-1))).Yields
      (.assign "r" .stack) _ := .pop rfl
  have computes := Sheet.Computes.cons divided (.cons popped (.nil _))
  obtain ⟨-, -, -, -, -, -, lines⟩ := calculates_exactly halved
  obtain ⟨later, run, shows, -⟩ := lines _ _ handled straight computes
  have quotient : ∃ text, later.program.vars.get? "q" = some text ∧ Canonical (-3) text :=
    shows.held rfl
  have remainder : ∃ text, later.program.vars.get? "r" = some text ∧ Canonical (-1) text :=
    shows.held rfl
  obtain ⟨first, firstHeld, firstCanonical⟩ := quotient
  obtain ⟨second, secondHeld, secondCanonical⟩ := remainder
  rw [Text.canonical_iff.mp firstCanonical] at firstHeld
  rw [Text.canonical_iff.mp secondCanonical] at secondHeld
  exact ⟨later, run, firstHeld, secondHeld⟩

end Machine

end LineScript
