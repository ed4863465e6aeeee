import Mathlib.Data.List.Induction
import LineScript.Proofs.Journal.Course
import LineScript.Proofs.Machine.Frame

/-!
The stack of a running program. It is what the steps so far make of an empty stack: every division
that was completed pushes its remainder, every pop takes the top away, and no other step touches it.
-/

namespace LineScript

variable {stages : List Stage} {stage : Stage} {stack final : List String}

def Statement.divides : Statement → Bool
  | .assign _ (.arithmetic _ .divide _) => true
  | _ => false

def Statement.pops : Statement → Bool
  | .assign _ .stack => true
  | _ => false

namespace Stage

/-- The step completes a division. -/
def divides (stage : Stage) : Bool :=
  stage.statement?.any Statement.divides

/-- The step completes a pop. -/
def pops (stage : Stage) : Bool :=
  stage.statement?.any Statement.pops

/-- What is left of the division of the numbers that a step found. -/
def remainder? (stage : Stage) : Option Int :=
  match stage.statement? with
  | some (.assign _ (.arithmetic left .divide right)) => do
    let dividend ← (stage.before.operand left).toOption
    let divisor ← (stage.before.operand right).toOption
    let division ← Arithmetic.divide? dividend divisor
    return division.remainder
  | _ => none

/-- What a step makes of a stack. -/
def restack? (stack : List String) (stage : Stage) : Option (List String) :=
  if stage.divides then stage.remainder?.map fun remainder => Text.decimal remainder :: stack
  else if stage.pops then stack.tail?
  else some stack

theorem remainder?_of_divided {target left right : String} {dividend divisor : Int}
    {division : Arithmetic.Division}
    (carries : stage.statement? = some (.assign target (.arithmetic left .divide right)))
    (leftRead : stage.before.operand left = .ok dividend)
    (rightRead : stage.before.operand right = .ok divisor)
    (divided : Arithmetic.divide? dividend divisor = some division) :
    stage.remainder? = some division.remainder := by
  unfold remainder?
  rw [carries]
  simp [leftRead, rightRead, divided, Except.toOption]

theorem pops_eq_false_of_divides (divides : stage.divides = true) : stage.pops = false := by
  unfold Stage.divides at divides
  unfold Stage.pops
  cases carried : stage.statement? with
  | none => rfl
  | some statement =>
    rw [carried, Option.any_some] at divides
    rw [Option.any_some]
    cases statement with
    | assign target origin => cases origin <;> trivial
    | _ => trivial

/-- A step pushes a remainder, takes the top away, or leaves the stack alone. -/
theorem restack?_cases (moved : restack? stack stage = some final) :
    (stage.divides = true ∧ stage.pops = false ∧
        ∃ remainder, stage.remainder? = some remainder ∧ final = Text.decimal remainder :: stack) ∨
      (stage.divides = false ∧ stage.pops = true ∧ ∃ value, stack = value :: final) ∨
      (stage.divides = false ∧ stage.pops = false ∧ final = stack) := by
  unfold restack? at moved
  by_cases divides : stage.divides = true
  · rw [if_pos divides] at moved
    obtain ⟨remainder, found, rfl⟩ := Option.map_eq_some_iff.mp moved
    exact .inl ⟨divides, pops_eq_false_of_divides divides, remainder, found, rfl⟩
  · rw [if_neg divides] at moved
    by_cases pops : stage.pops = true
    · rw [if_pos pops] at moved
      cases stack with
      | nil => cases moved
      | cons value rest =>
        obtain rfl := Option.some.inj moved
        exact .inr (.inl ⟨Bool.eq_false_iff.mpr divides, pops, value, rfl⟩)
    · rw [if_neg pops] at moved
      exact .inr (.inr ⟨Bool.eq_false_iff.mpr divides, Bool.eq_false_iff.mpr pops,
        (Option.some.inj moved).symm⟩)

end Stage

/-- The stack that steps make of an empty one. -/
def replay? (stages : List Stage) : Option (List String) :=
  stages.foldlM Stage.restack? []

theorem replay?_concat :
    replay? (stages ++ [stage]) = some final ↔
      ∃ stack, replay? stages = some stack ∧ stage.restack? stack = some final := by
  unfold replay?
  rw [List.foldlM_append, Option.bind_eq_bind, Option.bind_eq_some_iff]
  simp only [List.foldlM_cons, List.foldlM_nil, Option.bind_eq_bind, Option.pure_def,
    Option.bind_fun_some]

theorem length_of_replay? (replayed : replay? stages = some stack) :
    stack.length + stages.countP Stage.pops = stages.countP Stage.divides := by
  induction stages using List.reverseRecOn generalizing stack with
  | nil =>
    obtain rfl := Option.some.inj replayed
    rfl
  | append_singleton front stage ih =>
    obtain ⟨before, replayed, moved⟩ := replay?_concat.mp replayed
    have height := ih replayed
    rw [List.countP_append, List.countP_append]
    rcases Stage.restack?_cases moved with ⟨divides, pops, remainder, -, rfl⟩ |
      ⟨divides, pops, value, rfl⟩ | ⟨divides, pops, rfl⟩
    · simp [divides, pops]
      omega
    · simp [divides, pops] at height ⊢
      omega
    · simp [divides, pops]
      omega

theorem decimal_of_replay? (replayed : replay? stages = some stack) :
    ∀ value ∈ stack, ∃ number : Int, value = Text.decimal number := by
  induction stages using List.reverseRecOn generalizing stack with
  | nil =>
    obtain rfl := Option.some.inj replayed
    exact List.forall_mem_nil _
  | append_singleton front stage ih =>
    obtain ⟨before, replayed, moved⟩ := replay?_concat.mp replayed
    have written := ih replayed
    rcases Stage.restack?_cases moved with ⟨-, -, remainder, -, rfl⟩ | ⟨-, -, value, rfl⟩ |
        ⟨-, -, rfl⟩
    · exact List.forall_mem_cons.mpr ⟨⟨remainder, rfl⟩, written⟩
    · exact (List.forall_mem_cons.mp written).2
    · exact written

/-- The divisions and the pops among the steps pair off: each remainder that one of them pushes is
taken by a later one, and none of them takes another. -/
inductive Balanced : List Stage → Prop where
  | nil : Balanced []
  | idle {stages : List Stage} {stage : Stage} (balanced : Balanced stages)
      (divides : stage.divides = false) (pops : stage.pops = false) : Balanced (stages ++ [stage])
  | pair {first inner : List Stage} {division pop : Stage} (outer : Balanced first)
      (balanced : Balanced inner) (divides : division.divides = true) (pops : pop.pops = true) :
      Balanced (first ++ division :: inner ++ [pop])

/-- The top of the stack was pushed by the last division that is not popped yet. -/
theorem exists_division_of_replay? {value : String} {rest : List String}
    (replayed : replay? stages = some (value :: rest)) :
    ∃ earlier division between remainder, stages = earlier ++ division :: between ∧
      division.divides = true ∧ division.remainder? = some remainder ∧
        value = Text.decimal remainder ∧
      replay? earlier = some rest ∧ Balanced between := by
  induction size : stages.length using Nat.strong_induction_on generalizing stages value rest with
  | h count ih =>
    obtain rfl | ⟨front, stage, rfl⟩ := stages.eq_nil_or_concat'
    · cases replayed
    · have short : front.length < count := by
        rw [← size, List.length_append]
        exact Nat.lt_succ_self _
      obtain ⟨before, found, moved⟩ := replay?_concat.mp replayed
      rcases Stage.restack?_cases moved with ⟨divides, -, remainder, left, same⟩ |
        ⟨-, pops, popped, rfl⟩ | ⟨divides, pops, rfl⟩
      · obtain ⟨rfl, rfl⟩ := List.cons.inj same
        exact ⟨front, stage, [], remainder, rfl, divides, left, rfl, found, .nil⟩
      · -- The step took the top away, so what is below it was pushed before that top was.
        obtain ⟨middle, division, inner, -, rfl, divides, -, -, found, balanced⟩ :=
          ih front.length short found rfl
        have shorter : middle.length < count := by
          rw [List.length_append] at short
          omega
        obtain ⟨earlier, first, outer, remainder, rfl, pushes, left, written, found, paired⟩ :=
          ih middle.length shorter found rfl
        refine ⟨earlier, first, outer ++ division :: inner ++ [stage], remainder, ?_, pushes, left,
          written, found, .pair paired balanced divides pops⟩
        simp
      · obtain ⟨earlier, division, between, remainder, rfl, pushes, left, written, found,
            balanced⟩ :=
          ih front.length short found rfl
        refine ⟨earlier, division, between ++ [stage], remainder, ?_, pushes, left, written, found,
          .idle balanced divides pops⟩
        rw [List.append_assoc, List.cons_append]

/-- A pop from an empty stack is at fault. -/
theorem Phase.plan_of_bare {program : Program} {target : String}
    (atHand : program.statement? = some (.assign target .stack)) (bare : program.stack = []) :
    Phase.assign.plan program = Trouble.raise .emptyStack := by
  obtain ⟨text, found, read⟩ := Program.statement?_eq_some_iff.mp atHand
  have carried := Phase.plan_carrier found read
  rw [Statement.plan, Program.pop?, bare] at carried
  exact carried

/-- What the steps of a run say of the stack that they lead to. -/
structure Replays (stages : List Stage) (stack : List String) : Prop where
  replayed : replay? stages = some stack
  height : stack.length + stages.countP Stage.pops = stages.countP Stage.divides
  decimal : ∀ value ∈ stack, ∃ number : Int, value = Text.decimal number
  /-- A pop binds the remainder of the last division before it that is not popped yet. -/
  binds : ∀ front stage rest target, stages = front ++ stage :: rest →
    stage.statement? = some (.assign target .stack) →
    ∃ earlier division between remainder, front = earlier ++ division :: between ∧
      division.divides = true ∧ division.remainder? = some remainder ∧ Balanced between ∧
      stage.after.vars.get? target = some (Text.decimal remainder)

/-- A pop is about to be carried out after as many pops as divisions. -/
structure Starved (stages : List Stage) (phase : Phase) (program : Program) : Prop where
  phase : phase = .assign
  atHand : ∃ target, program.statement? = some (.assign target .stack)
  spent : stages.countP Stage.divides = stages.countP Stage.pops

namespace Machine

variable {machine after : Machine} {phase : Phase} {outcome : Option Phase} {budget : Nat}

/-- A step that is completed makes of the stack what its statement says. -/
theorem restack?_of_step (taken : machine.step phase = (.ok outcome, after)) :
    (machine.stage phase after).restack? machine.program.stack = some after.program.stack := by
  unfold Stage.restack? Stage.divides Stage.pops
  rcases completed_cases taken with
    ⟨idle, program, -⟩ | ⟨statement, instruction, action, carries, acts, performed⟩
  · rw [idle, program]
    rfl
  · rw [carries]
    cases acts with
    | pop top =>
      cases performed
      rw [top]
      rfl
    | input =>
      rw [perform] at performed
      split at performed <;> cases performed
      rfl
    | @arithmetic target left right operator leftValue rightValue computed leftRead rightRead
      result =>
      cases performed
      rcases Program.compute_cases result with ⟨apart, value, rfl⟩ | ⟨rfl, division, divided, rfl⟩
      · cases operator with
        | divide => exact absurd rfl apart
        | _ => rfl
      · have pushed := Stage.remainder?_of_divided carries leftRead rightRead divided
        rw [pushed]
        rfl
    | output =>
      rw [perform] at performed
      split at performed <;> cases performed
      rfl
    | _ =>
      cases performed
      rfl

/-- A step that is completed replays on top of the steps before it; a step that fails leaves the
stack alone. -/
theorem charts_replay :
    Charts fun stages machine => replay? stages = some machine.program.stack where
  completed replayed taken := replay?_concat.mpr ⟨_, replayed, restack?_of_step taken⟩
  failed replayed failed := by rwa [(untouched_of_step_error failed).program]

/-- A pop binds the top of the stack. -/
theorem exists_top_of_pop {target : String} (taken : machine.step phase = (.ok outcome, after))
    (carries : (machine.stage phase after).statement? = some (.assign target .stack)) :
    ∃ value rest, machine.program.stack = value :: rest ∧
      after.program.vars.get? target = some value := by
  rcases completed_cases taken with
    ⟨idle, -⟩ | ⟨statement, instruction, action, carried, acts, performed⟩
  · rw [idle] at carries
    cases carries
  · obtain rfl := Option.some.inj (carried.symm.trans carries)
    cases acts with
    | @pop _ value rest top =>
      cases performed
      refine ⟨value, rest, top, ?_⟩
      exact (Bindings.get?_insert _ target value target).trans (if_pos rfl)

/-- A phase finds the stack empty by itself exactly if it is about to pop from an empty one. -/
theorem dispatch_emptyStack_iff (handled : phase ∈ machine.handled) :
    machine.dispatch phase = (.error (.ofCause .emptyStack), machine) ↔
      phase = .assign ∧ (∃ target, machine.program.statement? = some (.assign target .stack)) ∧
        machine.program.stack = [] := by
  rw [dispatch_of_handled handled]
  constructor
  · intro failed
    cases planned : phase.plan machine.program with
    | error trouble =>
      rw [planned, follow] at failed
      obtain rfl := Except.error.inj (Prod.mk.inj failed).1
      generalize met : Trouble.ofCause .emptyStack = trouble at planned
      cases Phase.fails_of_plan planned with
      | foreign => cases phase <;> cases met
      | carry found read fails =>
        cases fails with
        | pop bare => exact ⟨rfl, ⟨_, Program.statement?_eq_some_iff.mpr ⟨_, found, read⟩⟩, bare⟩
        | leftOperand unfit => cases unfit <;> cases met
        | rightOperand _ unfit => cases unfit <;> cases met
        | _ => cases met
      | _ => cases met
    | ok action =>
      -- The console was called, and the count of its calls tells the machines apart.
      rw [planned, follow] at failed
      obtain ⟨target, -, same⟩ | ⟨text, -, same⟩ := perform_error_cases failed
      · exact absurd (congrArg (·.console.reads) same) (Nat.ne_of_lt (Nat.lt_succ_self _))
      · exact absurd (congrArg (·.console.writes) same) (Nat.ne_of_lt (Nat.lt_succ_self _))
  · rintro ⟨rfl, ⟨target, atHand⟩, bare⟩
    rw [Phase.plan_of_bare atHand bare]
    rfl

theorem replay?_course (bare : machine.program.stack = []) (budget : Nat) :
    replay? (machine.course budget) = some (machine.run budget).2.program.stack := by
  have start : replay? [] = some machine.program.stack := by
    rw [bare]
    rfl
  exact charts_replay.runFrom start .execute budget

theorem replays_of_run (bare : machine.program.stack = []) (budget : Nat) :
    Replays (machine.course budget) (machine.run budget).2.program.stack where
  replayed := replay?_course bare budget
  height := length_of_replay? (replay?_course bare budget)
  decimal := decimal_of_replay? (replay?_course bare budget)
  binds := by
    intro front stage rest target split carries
    obtain ⟨same, before, last, outcome, after, paused, taken, rfl⟩ := courseFrom_split split
    have replayed := replay?_course bare front.length
    rw [course, same, run, paused] at replayed
    obtain ⟨value, below, top, bound⟩ := exists_top_of_pop taken carries
    rw [top] at replayed
    obtain ⟨earlier, division, between, remainder, parts, divides, left, rfl, -, balanced⟩ :=
      exists_division_of_replay? replayed
    exact ⟨earlier, division, between, remainder, parts, divides, left, balanced, bound⟩

theorem bare_iff_spent (bare : machine.program.stack = [])
    (paused : machine.run budget = (.paused phase, after)) :
    after.program.stack = [] ↔
      (machine.course budget).countP Stage.divides = (machine.course budget).countP Stage.pops := by
  have replayed := replay?_course bare budget
  rw [paused] at replayed
  rw [← List.length_eq_zero_iff, ← length_of_replay? replayed, Nat.add_eq_right]

/-- A run that starts with an empty stack finds it empty exactly where a pop comes after as many
pops as divisions. -/
theorem dispatch_emptyStack_iff_starved (bare : machine.program.stack = [])
    (paused : machine.run budget = (.paused phase, after)) (handled : phase ∈ after.handled) :
    after.dispatch phase = (.error (.ofCause .emptyStack), after) ↔
      Starved (machine.course budget) phase after.program := by
  rw [dispatch_emptyStack_iff handled, bare_iff_spent bare paused]
  constructor
  · rintro ⟨assign, atHand, spent⟩
    exact ⟨assign, atHand, spent⟩
  · rintro ⟨assign, atHand, spent⟩
    exact ⟨assign, atHand, spent⟩

/-- A run that comes to such a pop ends there with a fault. -/
theorem run_succ_of_starved (bare : machine.program.stack = [])
    (paused : machine.run budget = (.paused phase, after)) (handled : phase ∈ after.handled)
    (starved : Starved (machine.course budget) phase after.program) :
    ∃ fault left, machine.run (budget + 1) = (.stopped (.fault fault), left) ∧
      fault.message = "Stack is empty" ∧ fault.phase = some "ASSIGN" := by
  obtain ⟨rfl, ⟨target, atHand⟩, spent⟩ := starved
  obtain ⟨text, found, -⟩ := Program.statement?_eq_some_iff.mp atHand
  have planned := Phase.plan_of_bare atHand ((bare_iff_spent bare paused).mpr spent)
  have ends := Ends.stopped (step_raise found handled planned)
  have stopped := (runFrom_add_of_paused paused 1).trans (ends.runFrom 0)
  exact ⟨_, _, stopped, rfl, rfl⟩

/-- The journal of a run tells its stack: replayed from an empty stack, the completed steps leave
the stack of the program, and a pop is at fault exactly if there are no more divisions than pops
before it. -/
theorem stack_replays_journal (listing : Listing) (machine after : Machine) (budget : Nat)
    (ending : Ending) (begins : machine.program = .ofListing listing)
    (ended : machine.run budget = (ending, after)) :
    (∃ entries, after.journal.entries.toList = machine.journal.entries.toList ++ entries ∧
      Journal.Lists (machine.course budget) ending entries) ∧
    Replays (machine.course budget) after.program.stack ∧
    ∀ phase, ending = .paused phase → phase ∈ machine.handled →
      (after.dispatch phase = (.error (.ofCause .emptyStack), after) ↔
        Starved (machine.course budget) phase after.program) ∧
      (Starved (machine.course budget) phase after.program →
        ∃ fault left, machine.run (budget + 1) = (.stopped (.fault fault), left) ∧
          fault.message = "Stack is empty" ∧ fault.phase = some "ASSIGN") := by
  have bare : machine.program.stack = [] := by
    rw [begins]
    rfl
  have listed := lists_of_run machine .execute budget
  have replays := replays_of_run bare budget
  have alike := machine.runFrom_alike .execute budget
  rw [← run, ended] at listed alike
  rw [ended] at replays
  refine ⟨listed, replays, ?_⟩
  rintro phase rfl handled
  rw [← alike.handled] at handled
  exact ⟨dispatch_emptyStack_iff_starved bare ended handled, run_succ_of_starved bare ended handled⟩

/-- Two divisions, and three pops. -/
def oncePopped : Machine where
  program := .ofListing ⟨["17", "5"],
    ["let $q = $0 / $1", "let $q = $q / $1", "let $a = pop", "let $b = pop", "let $c = pop"]⟩
  console := { inputs := [] }

theorem oncePopped_starved :
    ∃ before fault left, oncePopped.run 11 = (.paused .assign, before) ∧
      Replays (oncePopped.course 11) before.program.stack ∧
      before.program.vars.get? "a" = some "3" ∧ before.program.vars.get? "b" = some "2" ∧
      Starved (oncePopped.course 11) .assign before.program ∧
      oncePopped.run 12 = (.stopped (.fault fault), left) ∧ fault.message = "Stack is empty" := by
  obtain ⟨ending, last, first, atHand, spent⟩ : (oncePopped.run 11).1 = .paused .assign ∧
      (oncePopped.run 11).2.program.vars.get? "a" = some "3" ∧
      (oncePopped.run 11).2.program.vars.get? "b" = some "2" ∧
      (oncePopped.run 11).2.program.statement? = some (.assign "c" .stack) ∧
      (oncePopped.course 11).countP Stage.divides = (oncePopped.course 11).countP Stage.pops := by
    decide +kernel
  have paused : oncePopped.run 11 = (.paused .assign, (oncePopped.run 11).2) := by rw [← ending]
  obtain ⟨-, replays, starves⟩ :=
    stack_replays_journal _ oncePopped _ 11 (.paused .assign) rfl paused
  have starved : Starved (oncePopped.course 11) .assign (oncePopped.run 11).2.program :=
    ⟨rfl, ⟨"c", atHand⟩, spent⟩
  obtain ⟨fault, left, stopped, message, -⟩ := (starves .assign rfl (by decide)).2 starved
  exact ⟨_, fault, left, paused, replays, last, first, starved, stopped, message⟩

end Machine

end LineScript
