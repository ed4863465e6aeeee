import LineScript.Proofs.Journal.Course
import LineScript.Proofs.Listing.Values
import LineScript.Proofs.Machine.Blame
import LineScript.Proofs.Machine.Dispatching
import Mathlib.Data.List.Nodup

/-!
The variables of a running program only grow. A step binds at most the name that its assignment is
about: a name that is bound already keeps its place, and a new one goes last. So the names at one
moment begin the names at every later one, and what exists once is never missed again.
-/

namespace LineScript

namespace Bindings

variable {bindings : Bindings} {name : String}

theorem mem_names_iff : name ∈ bindings.names ↔ bindings.get? name ≠ none := by
  simp only [names, get?, ne_eq, List.lookup_eq_none_iff, List.mem_map, bne_iff_ne, not_forall,
    not_not]
  constructor
  · rintro ⟨pair, member, same⟩
    exact ⟨pair, member, same.symm⟩
  · rintro ⟨pair, member, same⟩
    exact ⟨pair, member, same.symm⟩

theorem names_prefix_insert (bindings : Bindings) (name value : String) :
    bindings.names <+: (bindings.insert name value).names := by
  rw [names_insert]
  split
  · exact List.prefix_rfl
  · exact List.prefix_append _ _

theorem nodup_names_insert (distinct : bindings.names.Nodup) (name value : String) :
    (bindings.insert name value).names.Nodup := by
  rw [names_insert]
  split
  · exact distinct
  · rename_i absent
    rw [← List.concat_eq_append]
    exact distinct.concat absent

end Bindings

/-- A stack that differs from another one by at most one element at the top. -/
inductive TopMoved (stack : List String) : List String → Prop where
  | still : TopMoved stack stack
  | pushed (value : String) : TopMoved stack (value :: stack)
  | popped {value : String} {rest : List String} (top : stack = value :: rest) : TopMoved stack rest

namespace Program

variable {program other : Program} {target : String}

/-- At most one name is bound: the others keep their values, a name that is there keeps its place
and a new one goes last. The stack changes by at most one element at the top. -/
structure Binds (target : String) (program other : Program) : Prop where
  others : ∀ name, name ≠ target → other.vars.get? name = program.vars.get? name
  names : other.vars.names = program.vars.names ∨
    (target ∉ program.vars.names ∧ other.vars.names = program.vars.names ++ [target])
  stack : TopMoved program.stack other.stack

theorem binds_of_insert {value : String} (vars : other.vars = program.vars.insert target value)
    (stack : TopMoved program.stack other.stack) : program.Binds target other := by
  refine ⟨fun name apart => ?_, ?_, stack⟩
  · rw [vars, Bindings.get?_insert, if_neg apart]
  · rw [vars, Bindings.names_insert]
    split
    · exact .inl rfl
    · exact .inr ⟨‹_›, rfl⟩

theorem nodup_names_ofListing (listing : Listing) : (ofListing listing).vars.names.Nodup := by
  have names : (ofListing listing).vars.names =
      (List.range' 0 listing.registers.length).map fun place : Nat => Text.decimal place :=
    (names_initialVars 0 listing.registers).trans (by simp [← List.map_eq_flatMap])
  have apart : Function.Injective fun place : Nat => Text.decimal place :=
    fun _ _ same => Text.decimal_injective same
  rw [names]
  exact (List.nodup_range').map apart

end Program

/-- What carries out an assignment without the console inserts its target; no other statement
touches the variables or the stack. -/
theorem Statement.Acts.binds {program other : Program} {outcome : Option Phase}
    {statement : Statement} (acts : statement.Acts program (.proceed other outcome)) :
    (other.vars = program.vars ∧ other.stack = program.stack) ∨
      ∃ target origin value, statement = .assign target origin ∧
        other.vars = program.vars.insert target value ∧ TopMoved program.stack other.stack := by
  cases acts with
  | literal target literal => exact .inr ⟨target, _, literal.value, rfl, rfl, .still⟩
  | @pop target value rest top => exact .inr ⟨target, _, value, rfl, rfl, .popped top⟩
  | @copy target source value held => exact .inr ⟨target, _, value, rfl, rfl, .still⟩
  | @arithmetic target _ _ _ _ _ _ _ _ result =>
    rcases Program.compute_cases result with ⟨-, value, rfl⟩ | ⟨-, division, -, rfl⟩
    · exact .inr ⟨target, _, _, rfl, rfl, .still⟩
    · exact .inr ⟨target, _, _, rfl, rfl, .pushed _⟩
  | jump => exact .inl ⟨rfl, rfl⟩
  | taken => exact .inl ⟨rfl, rfl⟩
  | passed => exact .inl ⟨rfl, rfl⟩

/-- An assignment is carried out in one of two phases. -/
theorem Statement.carrier_assign (target : String) (origin : Origin) :
    (Statement.assign target origin).carrier = .assign ∨
      (Statement.assign target origin).carrier = .arithmetic := by
  cases origin with
  | arithmetic => exact .inr rfl
  | _ => exact .inl rfl

/-- The two phases of assignments have one at hand. -/
theorem Phase.Acts.assigns {program : Program} {phase : Phase} {action : Action}
    (acts : phase.Acts program action) (assigning : phase = .assign ∨ phase = .arithmetic) :
    ∃ target origin, program.statement? = some (.assign target origin) := by
  cases acts with
  | ended => simp at assigning
  | named => simp at assigning
  | @handOn text statement found read apart =>
    obtain ⟨target, left, operator, right, rfl⟩ := Statement.arithmetic_of_apart apart
    exact ⟨target, _, Program.statement?_eq_some_iff.mpr ⟨text, found, read⟩⟩
  | @carry text statement _ found read acts =>
    cases statement with
    | assign target origin =>
      exact ⟨target, origin, Program.statement?_eq_some_iff.mpr ⟨text, found, read⟩⟩
    | _ => simp [Statement.carrier, Statement.opening] at assigning
  | finish => simp at assigning

/-- What a completed step does to the variables and the stack: nothing, unless it is about an
assignment, and then it binds at most the target of that assignment. -/
structure Stage.Grows (stage : Stage) : Prop where
  idle : stage.phase ≠ .assign → stage.phase ≠ .arithmetic →
    stage.after.vars = stage.before.vars ∧ stage.after.stack = stage.before.stack
  binds : stage.phase = .assign ∨ stage.phase = .arithmetic → ∃ target origin,
    stage.before.statement? = some (.assign target origin) ∧ stage.before.Binds target stage.after
  names : stage.before.vars.names <+: stage.after.vars.names

/-- Only a missing variable is reported as one, unless the console makes the report. -/
theorem Fault.Cause.eq_missingVariable {cause : Cause} {name : String}
    (same : cause.message = (missingVariable name).message)
    (other : ∀ text, cause ≠ .reported text) :
    cause = .missingVariable name := by
  have begins : "Variable $".toList <+: cause.message.toList := by
    rw [same]
    exact Cause.preface_prefix (missingVariable name)
  cases cause with
  | reported text => exact absurd rfl (other text)
  | missingVariable held =>
    have named : "Variable $" ++ held = "Variable $" ++ name :=
      (String.append_left_inj " does not exist").mp same
    rw [(String.append_right_inj "Variable $").mp named]
  | notNumeric held value =>
    -- One message ends with a quote, the other with a letter.
    have parts : "Variable $" ++ held ++ " is not numeric: '" ++ value ++ "'" =
        "Variable $" ++ name ++ " does not exist" := same
    have ends := congrArg (fun text : String => text.toList.reverse.head?) parts
    simp at ends
  | _ =>
    refine absurd begins (not_prefix_of_apart ?_)
    rw [preface]
    rfl

theorem Program.Unfit.absent {program : Program} {trouble : Trouble} {held name : String}
    (unfit : program.Unfit held trouble) (caused : trouble = .ofCause (.missingVariable name)) :
    program.vars.get? name = none := by
  cases unfit with
  | missing absent => cases caused; exact absent
  | notNumeric => cases caused
  | unreadable => cases caused

/-- A phase that misses a variable has none of that name. -/
theorem Phase.Fails.absent {program : Program} {phase : Phase} {trouble : Trouble} {name : String}
    (fails : phase.Fails program trouble) (caused : trouble = .ofCause (.missingVariable name)) :
    program.vars.get? name = none := by
  cases fails with
  | lost => cases caused
  | unknown => cases caused
  | pastEnd => cases caused
  | foreign => cases phase <;> cases caused
  | carry found read fails =>
    cases fails with
    | copy absent => cases caused; exact absent
    | leftOperand unfit => exact unfit.absent caused
    | rightOperand _ unfit => exact unfit.absent caused
    | leftSide absent => cases caused; exact absent
    | rightSide _ absent => cases caused; exact absent
    | output absent => cases caused; exact absent
    | _ => cases caused

namespace Machine

variable {machine after : Machine} {phase : Phase} {outcome : Option Phase} {budget : Nat}
  {fault : Fault} {name : String}

/-- An action inserts the target of the assignment at hand, or leaves the variables and the stack
alone. -/
theorem perform_binds {action : Action} (acts : phase.Acts machine.program action) :
    ((machine.perform action).2.program.vars = machine.program.vars ∧
        (machine.perform action).2.program.stack = machine.program.stack) ∨
      ∃ target origin value, machine.program.statement? = some (.assign target origin) ∧
        (phase = .assign ∨ phase = .arithmetic) ∧
        (machine.perform action).2.program.vars = machine.program.vars.insert target value ∧
        TopMoved machine.program.stack (machine.perform action).2.program.stack := by
  cases acts with
  | @carry text statement action found read acts =>
    have atHand : machine.program.statement? = some statement :=
      Program.statement?_eq_some_iff.mpr ⟨text, found, read⟩
    cases action with
    | proceed program next =>
      rcases acts.binds with same | ⟨target, origin, value, rfl, vars, stack⟩
      · exact .inl same
      · exact .inr ⟨target, origin, value, atHand, Statement.carrier_assign target origin, vars,
          stack⟩
    | read target =>
      cases acts with
      | input target =>
        rcases machine.console.read_cases with ⟨line, rest, -, answered⟩ | ⟨disruption, answered⟩
        · simp only [perform, answered]
          exact .inr ⟨target, .input, line, atHand, .inl rfl, rfl, .still⟩
        · exact .inl (by simp [perform, answered])
    | write text =>
      rcases machine.console.write_cases text with answered | ⟨disruption, answered⟩ <;>
        exact .inl (by simp [perform, answered, Program.advance])
  | _ => exact .inl ⟨rfl, rfl⟩

theorem nodup_names_kept : Kept fun machine => machine.program.vars.names.Nodup where
  record _ _ _ distinct := distinct
  perform machine _ _ distinct acts := by
    rcases perform_binds acts with ⟨same, -⟩ | ⟨target, -, value, -, -, vars, -⟩
    · rwa [same]
    · rw [vars]
      exact Bindings.nodup_names_insert distinct target value

theorem names_prefix_kept (names : List String) :
    Kept fun machine => names <+: machine.program.vars.names where
  record _ _ _ begins := begins
  perform machine _ _ begins acts := by
    rcases perform_binds acts with ⟨same, -⟩ | ⟨target, -, value, -, -, vars, -⟩
    · rwa [same]
    · rw [vars]
      exact begins.trans (machine.program.vars.names_prefix_insert target value)

/-- The names at one moment of a run begin the names at every later one. -/
theorem names_prefix_runFrom_add (machine : Machine) (phase : Phase) (budget more : Nat) :
    (machine.runFrom phase budget).2.program.vars.names <+:
      (machine.runFrom phase (budget + more)).2.program.vars.names :=
  Kept.runFrom_add (fun before => names_prefix_kept before.program.vars.names)
    (fun _ => List.prefix_rfl) machine phase budget more

theorem grows_of_step (taken : machine.step phase = (.ok outcome, after)) :
    (machine.stage phase after).Grows := by
  obtain ⟨instruction, action, -, -, planned, performed⟩ := step_ok taken
  have acts : phase.Acts (machine.record phase instruction).program action :=
    Phase.acts_of_plan planned
  have effect := perform_binds acts
  rw [performed] at effect
  rcases effect with ⟨vars, stack⟩ | ⟨target, origin, value, atHand, assigning, vars, stack⟩
  · have same : after.program.vars = machine.program.vars := vars
    refine ⟨fun _ _ => ⟨vars, stack⟩, fun assigning => ?_, ?_⟩
    · obtain ⟨target, origin, atHand⟩ := acts.assigns assigning
      have kept : TopMoved machine.program.stack after.program.stack := stack ▸ .still
      exact ⟨target, origin, atHand, fun _ _ => by rw [stage, same], .inl (by rw [stage, same]),
        kept⟩
    · exact (congrArg Bindings.names same.symm) ▸ List.prefix_rfl
  · refine ⟨fun first second => ?_, fun _ => ?_, ?_⟩
    · exact absurd assigning (not_or.mpr ⟨first, second⟩)
    · exact ⟨target, origin, atHand, Program.binds_of_insert vars stack⟩
    · have names := machine.program.vars.names_prefix_insert target value
      exact vars ▸ names

/-- A run that stops because it misses a variable has none of that name, unless the console brought
the fault up. -/
theorem absent_or_brought (ended : machine.run budget = (.stopped (.fault fault), after))
    (missing : fault.message = (Fault.Cause.missingVariable name).message) :
    after.program.vars.get? name = none ∨
      ∃ raised, machine.console.Brought after.console raised ∧ fault.cause = raised.cause := by
  obtain ⟨count, before, last, instruction, met, -, breaks⟩ := breaks_of_run ended
  obtain ⟨message, raises⟩ := breaks.raises
  have caused : fault.cause = met.toFault.cause := by rw [breaks.placed]; rfl
  rw [Fault.message, caused] at missing
  cases raises with
  | own own handled planned =>
    have same := Fault.Cause.eq_missingVariable missing fun text (reported : _ = _) => by
      obtain rfl := reported
      cases own
    have absent := (Phase.fails_of_plan planned).absent (congrArg Trouble.ofCause same)
    exact .inl (breaks.same ▸ absent)
  | faultyRead handled planned refused =>
    have raised : before.console.Brought after.console _ :=
      (before.record last instruction).brought_of_read handled planned refused breaks.dispatched
    exact .inr ⟨_, breaks.brought raised, caused⟩
  | faultyWrite handled planned refused =>
    have raised : before.console.Brought after.console _ :=
      (before.record last instruction).brought_of_write handled planned refused breaks.dispatched
    exact .inr ⟨_, breaks.brought raised, caused⟩
  | _ => cases Fault.Cause.eq_missingVariable missing fun text reported => by cases reported

/-- Variables only grow, one at a time. In a run of a listing no two variables have one name. A step
that fails, and one of a phase that is not about assignments, leaves variables and stack as they
are; a completed step of the other phases binds at most the target of the assignment at hand, after
the names that were there. So the names at one moment begin the names at every later one, and a
variable that exists is never missed, unless the console says so. -/
theorem variables_only_grow (listing : Listing) (machine : Machine)
    (begins : machine.program = .ofListing listing) :
    (∀ budget, (machine.run budget).2.program.vars.names.Nodup) ∧
    (∀ budget phase before, machine.run budget = (.paused phase, before) →
      (∀ outcome after, before.step phase = (.ok outcome, after) →
        (before.stage phase after).Grows) ∧
      ∀ trouble after, before.step phase = (.error trouble, after) →
        after.program.vars = before.program.vars ∧ after.program.stack = before.program.stack) ∧
    (∀ budget more, (machine.run budget).2.program.vars.names <+:
      (machine.run (budget + more)).2.program.vars.names) ∧
    ∀ budget more name fault after, name ∈ (machine.run budget).2.program.vars.names →
      machine.run (budget + more) = (.stopped (.fault fault), after) →
      fault.message = "Variable $" ++ name ++ " does not exist" →
        ∃ raised, machine.console.Brought after.console raised ∧ fault.cause = raised.cause := by
  have longer := machine.names_prefix_runFrom_add .execute
  refine ⟨fun budget => ?distinct, fun budget phase before _ => ⟨fun _ _ => grows_of_step, ?failed⟩,
    longer, ?missed⟩
  case distinct =>
    have distinct : machine.program.vars.names.Nodup :=
      begins ▸ Program.nodup_names_ofListing listing
    exact nodup_names_kept.runFrom distinct .execute budget
  case failed =>
    intro trouble after failed
    have same := (untouched_of_step_error failed).program
    exact ⟨congrArg Program.vars same, congrArg Program.stack same⟩
  case missed =>
    intro budget more name fault after present ended missing
    have later : name ∈ (machine.run (budget + more)).2.program.vars.names :=
      (longer budget more).mem present
    rw [ended] at later
    rcases absent_or_brought ended missing with absent | brought
    · exact absurd absent (Bindings.mem_names_iff.mp later)
    · exact brought

/-- A quotient that replaces its divisor. Then a variable is missed. -/
def rebinding : Listing where
  registers := ["7", "2"]
  statements := ["let $1 = $0 / $1", "output $r"]

theorem rebinding_grows :
    (unfed rebinding).program = .ofListing rebinding ∧
    (∃ before after, (unfed rebinding).run 2 = (.paused .arithmetic, before) ∧
      before.step .arithmetic = (.ok (some .execute), after) ∧
      (before.stage .arithmetic after).Grows ∧
      after.program.vars.toList = [("0", "7"), ("1", "3")] ∧ after.program.stack = ["1"]) ∧
    ∃ fault after, (unfed rebinding).run 5 = (.stopped (.fault fault), after) ∧
      fault.message = "Variable $r does not exist" ∧ "r" ∉ after.program.vars.names := by
  obtain ⟨-, steps, -, missed⟩ := variables_only_grow rebinding (unfed rebinding) rfl
  refine ⟨rfl, ⟨_, _, rfl, rfl, (steps 2 _ _ rfl).1 _ _ rfl, rfl, rfl⟩, _, _, rfl, rfl,
    fun present => ?_⟩
  obtain ⟨raised, brought, -⟩ := missed 5 0 "r" _ _ present rfl rfl
  exact (unfed_orderly rebinding).not_brought brought

end Machine

end LineScript
