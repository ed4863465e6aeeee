import LineScript.Proofs.Machine.Alphabet
import LineScript.Proofs.Machine.Frame
import LineScript.Proofs.Machine.Position
import LineScript.Proofs.Machine.Snapshots

/-!
Unmentioned variables. A variable that no statement of the code names is left alone by a run, and
the run is the same whatever its value is and whether it exists at all. What the journal remembers
of a program beside the steps is put aside, and so is the variable; what is left of two machines
that differ in nothing else is one machine.
-/

namespace LineScript

variable {name other target value : String} {program : Program} {statement : Statement}

namespace Bindings

variable {bindings : Bindings}

/-- The bindings of all names but one, in their order. -/
def without (bindings : Bindings) (name : String) : Bindings :=
  ⟨bindings.toList.filter fun pair => pair.1 != name⟩

theorem get?_without (apart : other ≠ name) :
    (bindings.without name).get? other = bindings.get? other := by
  obtain ⟨pairs⟩ := bindings
  simp only [without, get?]
  induction pairs with
  | nil => rfl
  | cons pair rest ih =>
    obtain ⟨key, held⟩ := pair
    by_cases here : key = name
    · subst here
      rw [List.filter_cons_of_neg (by simp), ih, List.lookup_cons, beq_eq_false_iff_ne.mpr apart]
    · rw [List.filter_cons_of_pos (by simpa using here), List.lookup_cons, List.lookup_cons, ih]

theorem insert_without (apart : target ≠ name) :
    (bindings.without name).insert target value = (bindings.insert target value).without name := by
  obtain ⟨pairs⟩ := bindings
  simp only [without, insert, mk.injEq]
  induction pairs with
  | nil => simp [put, apart]
  | cons pair rest ih =>
    obtain ⟨key, held⟩ := pair
    by_cases here : key = name
    · subst here
      simp [put, apart, ih]
    · by_cases same : target = key <;> simp [put, here, same, ih]

end Bindings

/-- The variables whose values make up what is assigned. -/
def Origin.names : Origin → List String
  | .copy source => [source]
  | .arithmetic left _ right => [left, right]
  | _ => []

/-- The variables that a statement assigns, works with or shows. -/
def Statement.names : Statement → List String
  | .assign target origin => target :: origin.names
  | .jump _ => []
  | .branch left _ right _ => [left, right]
  | .output name => [name]

/-- No statement of the code names a variable. -/
def Unmentioned (name : String) (code : List String) : Prop :=
  ∀ text ∈ code, ∀ statement ∈ Statement.parse? (Text.trim text).toList, name ∉ statement.names

instance (name : String) (code : List String) : Decidable (Unmentioned name code) :=
  inferInstanceAs (Decidable (∀ text ∈ code, ∀ statement ∈ Statement.parse? (Text.trim text).toList,
    name ∉ statement.names))

namespace Program

/-- The program with all variables but one. -/
def without (program : Program) (name : String) : Program :=
  { program with vars := program.vars.without name }

theorem set_without (apart : target ≠ name) :
    (program.without name).set target value = (program.set target value).without name := by
  rw [without, without, set, set, Bindings.insert_without apart]

theorem require_without (apart : other ≠ name) :
    (program.without name).require other = program.require other := by
  rw [require, require, without, Bindings.get?_without apart]

theorem operand_without (apart : other ≠ name) :
    (program.without name).operand other = program.operand other := by
  rw [operand, operand, require_without apart]

theorem goTo_without (line : String) :
    (program.without name).goTo line = (program.goTo line).map (without · name) := by
  simp only [goTo]
  split <;> split <;> first
    | rfl
    | contradiction

theorem compute_without {operator : Operator} {left right : Int} (apart : target ≠ name) :
    (program.without name).compute target operator left right =
      (program.compute target operator left right).map (without · name) := by
  cases operator with
  | divide =>
    rw [compute, compute]
    cases Arithmetic.divide? left right with
    | none => rfl
    | some division =>
      simp only [set_without apart]
      rfl
  | _ => exact congrArg Except.ok (set_without apart)

end Program

/-- The action on programs with all variables but one. -/
def Action.without (action : Action) (name : String) : Action :=
  match action with
  | .proceed program next => .proceed (program.without name) next
  | .read target => .read target
  | .write text => .write text

/-- A statement that does not name a variable wants the same without it. -/
theorem Statement.plan_without (unnamed : name ∉ statement.names) :
    statement.plan (program.without name) =
      (statement.plan program).map (Action.without · name) := by
  have apart (other : String) (named : other ∈ statement.names) : other ≠ name :=
    fun same => unnamed (same ▸ named)
  cases statement with
  | assign target origin =>
    have kept := apart target List.mem_cons_self
    cases origin with
    | literal literal =>
      rw [plan, plan, Program.set_without kept]
      rfl
    | stack =>
      have same : (program.without name).stack = program.stack := rfl
      rw [plan, plan, Program.pop?, Program.pop?, same]
      cases program.stack with
      | nil => rfl
      | cons value rest =>
        have popped : { program.without name with stack := rest } =
            ({ program with stack := rest } : Program).without name := rfl
        simp only [popped, Program.set_without kept]
        rfl
    | input => rfl
    | copy source =>
      rw [plan, plan, Program.require_without (apart source (by simp [names, Origin.names]))]
      apply bind_eq_map
      intro value _
      rw [Program.set_without kept]
      rfl
    | arithmetic left operator right =>
      rw [plan, plan, Program.operand_without (apart left (by simp [names, Origin.names])),
        Program.operand_without (apart right (by simp [names, Origin.names]))]
      refine bind_eq_map fun leftValue _ => bind_eq_map fun rightValue _ => ?_
      rw [Program.compute_without kept]
      cases program.compute target operator leftValue rightValue <;> rfl
  | jump line =>
    rw [plan, plan, Program.goTo_without]
    cases program.goTo line <;> rfl
  | branch left comparison right line =>
    rw [plan, plan, Program.require_without (apart left (by simp [names])),
      Program.require_without (apart right (by simp [names]))]
    refine bind_eq_map fun leftValue _ => bind_eq_map fun rightValue _ => ?_
    rw [Program.goTo_without]
    split
    · cases program.goTo line <;> rfl
    · rfl
  | output shown =>
    rw [plan, plan, Program.require_without (apart shown (by simp [names]))]
    exact bind_eq_map fun value _ => rfl

/-- A phase wants the same without a variable that the instruction at hand does not name. -/
theorem Phase.plan_without (unmentioned : Unmentioned name program.code) (phase : Phase) :
    phase.plan (program.without name) = (phase.plan program).map (Action.without · name) := by
  have same : (program.without name).current = program.current := rfl
  have trimmed : (program.without name).trimmedInstruction = program.trimmedInstruction := rfl
  have carried (phase : Phase) :
      (program.without name).trimmedInstruction >>= phase.planFor (program.without name) =
        (program.trimmedInstruction >>= phase.planFor program).map (Action.without · name) := by
    rw [trimmed]
    apply bind_eq_map
    intro text found
    obtain ⟨line, here, rfl⟩ := Program.current_of_trimmedInstruction found
    rw [planFor, planFor]
    cases read : Statement.parse? (Text.trim line).toList with
    | none => rfl
    | some statement =>
      have unnamed := unmentioned line (Program.mem_code_of_current here) statement read
      dsimp only
      split
      · exact Statement.plan_without unnamed
      · split <;> rfl
  cases phase with
  | execute =>
    rw [plan, plan, same]
    cases program.current with
    | error mishap => rfl
    | ok instruction =>
      cases instruction with
      | none => rfl
      | some text =>
        dsimp only
        cases named? text <;> rfl
  | finish => rfl
  | _ => exact carried _

/-- A statement gives no value to a variable that it does not name. -/
theorem Statement.Acts.get?_of_unnamed {after : Program} {outcome : Option Phase}
    (acts : statement.Acts program (.proceed after outcome)) (unnamed : name ∉ statement.names) :
    after.vars.get? name = program.vars.get? name := by
  have kept {target value : String} (vars : Bindings) (named : target ∈ statement.names) :
      (vars.insert target value).get? name = vars.get? name := by
    rw [Bindings.get?_insert, if_neg fun same : name = target => unnamed (same ▸ named)]
  cases acts with
  | literal => exact kept _ List.mem_cons_self
  | pop => exact kept _ List.mem_cons_self
  | copy => exact kept _ List.mem_cons_self
  | arithmetic _ _ result =>
    rcases Program.compute_cases result with ⟨-, value, rfl⟩ | ⟨-, division, -, rfl⟩
    · exact kept _ List.mem_cons_self
    · exact kept _ List.mem_cons_self
  | jump => rfl
  | taken => rfl
  | passed => rfl

theorem Phase.Acts.get?_of_unmentioned {phase : Phase} {after : Program} {outcome : Option Phase}
    (acts : phase.Acts program (.proceed after outcome))
    (unmentioned : Unmentioned name program.code) :
    after.vars.get? name = program.vars.get? name := by
  cases acts with
  | carry found read acts =>
    exact acts.get?_of_unnamed (unmentioned _ (Program.mem_code_of_current found) _ read)
  | _ => rfl

/-- A line is read into a variable that the code names. -/
theorem Phase.Acts.ne_of_read {phase : Phase} (acts : phase.Acts program (.read target))
    (unmentioned : Unmentioned name program.code) : target ≠ name := by
  cases acts with
  | carry found read acts =>
    cases acts with
    | input =>
      rintro rfl
      exact unmentioned _ (Program.mem_code_of_current found) _ read List.mem_cons_self

namespace Machine

variable {machine : Machine}

/-- The machine on its program with all variables but one. -/
def without (machine : Machine) (name : String) : Machine :=
  machine.withProgram (machine.program.without name)

/-- An action does the same on the program without a variable, unless a line is read into it. -/
theorem perform_without {action : Action}
    (apart : ∀ target, action = .read target → target ≠ name) :
    (machine.without name).perform (action.without name) =
      ((machine.perform action).1, (machine.perform action).2.without name) := by
  cases action with
  | proceed program next => rfl
  | read target =>
    have bound (line : String) : (machine.program.without name).set target line =
        (machine.program.set target line).without name :=
      Program.set_without (apart target rfl)
    simp only [perform, Action.without, without, withProgram, bound]
    cases machine.console.read with
    | mk answer console => cases answer <;> rfl
  | write text =>
    simp only [perform, Action.without, without, withProgram]
    cases machine.console.write text with
    | mk answer console => cases answer <;> rfl

/-- A machine that keeps no snapshots works the same without a variable that its code does not
name. -/
theorem mirrored_without {code : List String} (unmentioned : Unmentioned name code) :
    Mirrored (without · name) fun machine => machine.program.code = code ∧
      machine.verbose = false where
  kept := (code_kept code).and (verbose_kept false)
  current _ := rfl
  ip _ := rfl
  handled _ := rfl
  next _ := rfl
  record machine phase instruction holds := by
    obtain ⟨-, silent⟩ := holds
    simp only [Machine.record, without, withProgram, silent]
    rfl
  follow machine phase holds := by
    obtain ⟨rfl, -⟩ := holds
    have same : (machine.without name).program = machine.program.without name := rfl
    rw [same, Phase.plan_without unmentioned]
    cases planned : phase.plan machine.program with
    | error trouble => rfl
    | ok action =>
      apply perform_without
      rintro target rfl
      exact (Phase.acts_of_plan planned).ne_of_read unmentioned

/-- A run gives no value to a variable that the code does not name. -/
theorem unmentioned_kept {code : List String} (unmentioned : Unmentioned name code)
    (value : Option String) :
    Kept fun machine => machine.program.code = code ∧ machine.program.vars.get? name = value where
  record _ _ _ holds := holds
  perform machine phase action holds acts := by
    obtain ⟨rfl, rfl⟩ := holds
    refine ⟨(code_kept machine.program.code).perform machine phase action rfl acts, ?_⟩
    cases action with
    | proceed program next => exact acts.get?_of_unmentioned unmentioned
    | read target =>
      have apart := acts.ne_of_read unmentioned
      rw [perform]
      split
      · exact (Bindings.get?_insert _ _ _ _).trans (if_neg apart.symm)
      · rfl
    | write text =>
      rw [perform]
      split <;> rfl

theorem get?_run_of_unmentioned (unmentioned : Unmentioned name machine.program.code)
    (budget : Nat) :
    (machine.run budget).2.program.vars.get? name = machine.program.vars.get? name :=
  ((unmentioned_kept unmentioned (machine.program.vars.get? name)).runFrom ⟨rfl, rfl⟩ .execute
    budget).2

/-- Two machines that differ at most in one variable and in the snapshots of their programs. -/
structure AgreesBut (name : String) (machine other : Machine) : Prop where
  program : other.program.without name = machine.program.without name
  console : other.console = machine.console
  events : other.events = machine.events
  journal : other.journal.bare = machine.journal.bare
  handled : other.handled = machine.handled

/-- What two such machines have in common is one machine. -/
theorem agreesBut_iff {other : Machine} :
    machine.AgreesBut name other ↔ other.quiet.without name = machine.quiet.without name := by
  simp only [quiet, without, withProgram, mk.injEq]
  constructor
  · rintro ⟨program, console, events, journal, handled⟩
    exact ⟨program, console, events, journal, handled, trivial⟩
  · rintro ⟨program, console, events, journal, handled, -⟩
    exact ⟨program, console, events, journal, handled⟩

theorem run_quiet_without (unmentioned : Unmentioned name machine.program.code) (budget : Nat) :
    (machine.quiet.without name).run budget =
      ((machine.run budget).1, (machine.run budget).2.quiet.without name) := by
  have silent : machine.quiet.run budget = ((machine.run budget).1, (machine.run budget).2.quiet) :=
    mirrored_quiet.runFrom trivial .execute budget
  have still : machine.quiet.program.code = machine.program.code ∧ machine.quiet.verbose = false :=
    ⟨rfl, rfl⟩
  have idle : (machine.quiet.without name).run budget =
      ((machine.quiet.run budget).1, (machine.quiet.run budget).2.without name) :=
    (mirrored_without unmentioned).runFrom still .execute budget
  rw [silent] at idle
  exact idle

/-- A variable that no statement of the code names does not interfere. Of two machines that differ
in nothing else, each leaves the variable as it is, and both run alike: the same steps on the same
instructions, the same lines read and texts written, the same values of all other variables in the
same order, and the same end, with the same fault if there is one. -/
theorem unmentioned_not_interfering (name : String) (machine other after : Machine) (budget : Nat)
    (ending : Ending) (unmentioned : Unmentioned name machine.program.code)
    (agrees : machine.AgreesBut name other) (ended : machine.run budget = (ending, after)) :
    ∃ later, other.run budget = (ending, later) ∧ after.AgreesBut name later ∧
      after.program.vars.get? name = machine.program.vars.get? name ∧
      later.program.vars.get? name = other.program.vars.get? name := by
  have shared := congrArg Program.code agrees.program
  have code : other.program.code = machine.program.code := shared
  have unnamed : Unmentioned name other.program.code := code.symm ▸ unmentioned
  have common := run_quiet_without unmentioned budget
  have again := run_quiet_without unnamed budget
  rw [agreesBut_iff.mp agrees, common] at again
  obtain ⟨same, left⟩ := Prod.mk.inj again
  have kept := get?_run_of_unmentioned unmentioned budget
  have still := get?_run_of_unmentioned unnamed budget
  rw [ended] at same left kept
  exact ⟨(other.run budget).2, Prod.ext same.symm rfl, agreesBut_iff.mpr left.symm, kept, still⟩

/-- A line is shown and compared with itself, among variables that nothing is done with. -/
def echoing (idle : List (String × String)) : Machine where
  program := ⟨["let $a = input", "output $a", "if $a = $a goto 9"], .ofList idle, [], 0⟩
  console := { inputs := ["hello"] }

theorem echoing_not_interfering :
    Unmentioned "x" (echoing [("x", "5"), ("k", "1")]).program.code ∧ ∃ fault after later,
      (echoing [("x", "5"), ("k", "1")]).run 6 = (.stopped (.fault fault), after) ∧
      (echoing [("k", "1")]).run 6 = (.stopped (.fault fault), later) ∧ after.AgreesBut "x" later ∧
      after.console.outputs = #["hello"] ∧ fault.cause = .outOfBounds ∧
      after.program.vars.get? "x" = some "5" ∧ later.program.vars.get? "x" = none := by
  have unmentioned : Unmentioned "x" (echoing [("x", "5"), ("k", "1")]).program.code := by
    decide +kernel
  have agrees : (echoing [("x", "5"), ("k", "1")]).AgreesBut "x" (echoing [("k", "1")]) := by
    constructor <;> rfl
  obtain ⟨fault, after, ended, outputs, cause⟩ : ∃ fault after,
      (echoing [("x", "5"), ("k", "1")]).run 6 = (.stopped (.fault fault), after) ∧
        after.console.outputs = #["hello"] ∧ fault.cause = .outOfBounds :=
    ⟨_, _, rfl, rfl, rfl⟩
  obtain ⟨later, again, alike, kept, still⟩ :=
    unmentioned_not_interfering "x" _ _ after 6 _ unmentioned agrees ended
  exact ⟨unmentioned, fault, after, later, ended, again, alike, outputs, cause, kept, still⟩

end Machine

end LineScript
