import LineScript.Proofs.Machine.Plan

/-!
What a plan comes to, form by form: the conditions under which a statement is carried out and what
it makes of the program, the conditions under which it is at fault, and how phases hand an
instruction on.
-/

namespace LineScript

variable {program : Program} {action : Action} {trouble : Trouble}

theorem Program.compute_cases {other : Program} {target : String} {operator : Operator}
    {left right : Int} (computed : program.compute target operator left right = .ok other) :
    (operator ≠ .divide ∧ ∃ value : Int, other = program.set target (Text.decimal value)) ∨
      (operator = .divide ∧ ∃ division, Arithmetic.divide? left right = some division ∧
        other = (program.set target (Text.decimal division.quotient)).push
          (Text.decimal division.remainder)) := by
  cases operator with
  | add => cases computed; exact .inl ⟨by decide, _, rfl⟩
  | subtract => cases computed; exact .inl ⟨by decide, _, rfl⟩
  | multiply => cases computed; exact .inl ⟨by decide, _, rfl⟩
  | divide =>
    rw [compute] at computed
    cases divided : Arithmetic.divide? left right with
    | none => rw [divided] at computed; cases computed
    | some division =>
      rw [divided] at computed
      cases computed
      exact .inr ⟨rfl, division, rfl, rfl⟩

theorem Program.get?_of_require {name value : String} (found : program.require name = .ok value) :
    program.vars.get? name = some value := by
  rw [require] at found
  split at found
  · rename_i held
    cases found
    exact held
  · contradiction

/-- What a statement that is not at fault wants done. -/
inductive Statement.Acts (program : Program) : Statement → Action → Prop where
  | literal (target : String) (literal : Literal) :
      Acts program (.assign target (.literal literal))
        (.resume (program.set target literal.value).advance)
  | pop {target value : String} {rest : List String} (top : program.stack = value :: rest) :
      Acts program (.assign target .stack)
        (.resume (({ program with stack := rest } : Program).set target value).advance)
  | input (target : String) : Acts program (.assign target .input) (.read target)
  | copy {target source value : String} (held : program.vars.get? source = some value) :
      Acts program (.assign target (.copy source)) (.resume (program.set target value).advance)
  | arithmetic {target left right : String} {operator : Operator} {leftValue rightValue : Int}
      {computed : Program} (leftRead : program.operand left = .ok leftValue)
      (rightRead : program.operand right = .ok rightValue)
      (result : program.compute target operator leftValue rightValue = .ok computed) :
      Acts program (.assign target (.arithmetic left operator right)) (.resume computed.advance)
  | jump {line : String} (inside : Text.numeral line.toList < program.code.length) :
      Acts program (.jump line) (.resume (program.jump (Text.numeral line.toList)))
  | taken {left right line leftValue rightValue : String} {comparison : Comparison}
      (leftHeld : program.vars.get? left = some leftValue)
      (rightHeld : program.vars.get? right = some rightValue)
      (holds : comparison.holds leftValue rightValue = true)
      (inside : Text.numeral line.toList < program.code.length) :
      Acts program (.branch left comparison right line)
        (.resume (program.jump (Text.numeral line.toList)))
  | passed {left right line leftValue rightValue : String} {comparison : Comparison}
      (leftHeld : program.vars.get? left = some leftValue)
      (rightHeld : program.vars.get? right = some rightValue)
      (fails : comparison.holds leftValue rightValue = false) :
      Acts program (.branch left comparison right line) (.resume program.advance)
  | output {name value : String} (held : program.vars.get? name = some value) :
      Acts program (.output name) (.write value)

private theorem goTo_ok {other : Program} {line : String} (gone : program.goTo line = .ok other) :
    Text.numeral line.toList < program.code.length ∧
      other = program.jump (Text.numeral line.toList) := by
  simp only [Program.goTo] at gone
  split at gone
  · cases gone; exact ⟨‹_›, rfl⟩
  · contradiction

theorem Statement.acts_of_plan {statement : Statement}
    (planned : statement.plan program = .ok action) :
    statement.Acts program action := by
  cases statement with
  | assign target origin =>
    cases origin with
    | literal literal => cases planned; exact .literal target literal
    | stack =>
      rw [plan, Program.pop?] at planned
      cases top : program.stack with
      | nil => rw [top] at planned; cases planned
      | cons value rest => rw [top] at planned; cases planned; exact .pop top
    | input => cases planned; exact .input target
    | copy source =>
      obtain ⟨value, found, resumed⟩ := bind_eq_ok planned
      cases resumed
      exact .copy (Program.get?_of_require found)
    | arithmetic left operator right =>
      obtain ⟨leftValue, leftRead, planned⟩ := bind_eq_ok planned
      obtain ⟨rightValue, rightRead, planned⟩ := bind_eq_ok planned
      obtain ⟨computed, result, resumed⟩ := bind_eq_ok planned
      cases resumed
      exact .arithmetic leftRead rightRead result
  | jump line =>
    obtain ⟨gone, moved, resumed⟩ := bind_eq_ok planned
    obtain ⟨inside, rfl⟩ := goTo_ok moved
    cases resumed
    exact .jump inside
  | branch left comparison right line =>
    obtain ⟨leftValue, leftFound, planned⟩ := bind_eq_ok planned
    obtain ⟨rightValue, rightFound, planned⟩ := bind_eq_ok planned
    have leftHeld := Program.get?_of_require leftFound
    have rightHeld := Program.get?_of_require rightFound
    cases compared : comparison.holds leftValue rightValue with
    | true =>
      rw [compared] at planned
      obtain ⟨gone, moved, resumed⟩ := bind_eq_ok planned
      obtain ⟨inside, rfl⟩ := goTo_ok moved
      cases resumed
      exact .taken leftHeld rightHeld compared inside
    | false =>
      rw [compared] at planned
      cases planned
      exact .passed leftHeld rightHeld compared
  | output name =>
    obtain ⟨value, found, written⟩ := bind_eq_ok planned
    cases written
    exact .output (Program.get?_of_require found)

/-- What a phase that finds nothing wrong wants done. -/
inductive Phase.Acts (program : Program) : Phase → Action → Prop where
  | ended (atEnd : program.current = .ok none) :
      Acts program .execute (.proceed program (some .finish))
  | named {text : String} {next : Phase} (found : program.current = .ok (some text))
      (word : named? text = some next) : Acts program .execute (.proceed program (some next))
  | handOn {text : String} {statement : Statement} (found : program.current = .ok (some text))
      (read : Statement.parse? (Text.trim text).toList = some statement)
      (apart : statement.carrier ≠ statement.opening) :
      Acts program statement.opening (.proceed program (some statement.carrier))
  | carry {text : String} {statement : Statement} {action : Action}
      (found : program.current = .ok (some text))
      (read : Statement.parse? (Text.trim text).toList = some statement)
      (acts : statement.Acts program action) : Acts program statement.carrier action
  | finish : Acts program .finish (.proceed program none)

theorem Program.current_of_trimmedInstruction {text : String}
    (found : program.trimmedInstruction = .ok text) :
    ∃ line, program.current = .ok (some line) ∧ text = Text.trim line := by
  rw [trimmedInstruction] at found
  split at found
  · rename_i line here
    cases found
    exact ⟨line, here, rfl⟩
  · contradiction
  · contradiction

theorem Phase.acts_of_plan {phase : Phase} (planned : phase.plan program = .ok action) :
    phase.Acts program action := by
  have carried (planned : (do phase.planFor program (← program.trimmedInstruction)) = .ok action) :
      phase.Acts program action := by
    obtain ⟨text, trimmed, planned⟩ := bind_eq_ok planned
    obtain ⟨line, found, rfl⟩ := Program.current_of_trimmedInstruction trimmed
    rw [planFor] at planned
    cases read : Statement.parse? (Text.trim line).toList with
    | none => rw [read] at planned; cases planned
    | some statement =>
      rw [read] at planned
      by_cases own : statement.carrier = phase
      · subst own
        exact .carry found read (Statement.acts_of_plan (by simpa using planned))
      · by_cases opens : statement.opening = phase
        · subst opens
          simp only [own, ↓reduceIte] at planned
          cases planned
          exact .handOn found read own
        · simp only [own, opens, ↓reduceIte] at planned
          cases planned
  cases phase with
  | execute =>
    rw [plan] at planned
    cases found : program.current with
    | error mishap => rw [found] at planned; cases planned
    | ok instruction =>
      rw [found] at planned
      cases instruction with
      | none => cases planned; exact .ended found
      | some text =>
        cases word : named? text with
        | none => simp only [word] at planned; cases planned
        | some next => simp only [word] at planned; cases planned; exact .named found word
  | finish => cases planned; exact .finish
  | _ => exact carried planned

/-- A statement that is carried out without the console ends its instruction. -/
theorem Statement.Acts.proceed {statement : Statement} {other : Program} {outcome : Option Phase}
    (acts : statement.Acts program (.proceed other outcome)) : outcome = some .execute := by
  cases acts <;> rfl

/-- A phase that hands an instruction on to another one leaves the program as it is. -/
theorem Phase.Acts.pass {phase next : Phase} {other : Program}
    (acts : phase.Acts program (.proceed other (some next))) (inside : next ≠ .execute) :
    other = program := by
  cases acts with
  | ended => rfl
  | named => rfl
  | handOn => rfl
  | carry _ _ acts => exact absurd (Option.some.inj acts.proceed) inside

/-- Why a variable is no operand. -/
inductive Program.Unfit (program : Program) (name : String) : Trouble → Prop where
  | missing (absent : program.vars.get? name = none) :
      Unfit program name (.ofCause (.missingVariable name))
  | notNumeric {value : String} (held : program.vars.get? name = some value)
      (reads : Value.read value = .notNumeric) :
        Unfit program name (.ofCause (.notNumeric name value))
  | unreadable {value : String} (held : program.vars.get? name = some value)
      (reads : Value.read value = .unreadable) : Unfit program name (.mishap (.unreadable value))

theorem Program.require_error {name : String} (failed : program.require name = .error trouble) :
    program.vars.get? name = none ∧ trouble = .ofCause (.missingVariable name) := by
  rw [require] at failed
  split at failed
  · contradiction
  · rename_i absent
    cases failed
    exact ⟨absent, rfl⟩

theorem Program.unfit_of_operand {name : String} (failed : program.operand name = .error trouble) :
    program.Unfit name trouble := by
  rcases bind_eq_error failed with missing | ⟨value, found, failed⟩
  · obtain ⟨absent, rfl⟩ := require_error missing
    exact .missing absent
  · have held := get?_of_require found
    cases reads : Value.read value with
    | number number => rw [reads] at failed; cases failed
    | notNumeric => rw [reads] at failed; cases failed; exact .notNumeric held reads
    | unreadable => rw [reads] at failed; cases failed; exact .unreadable held reads

private theorem goTo_error {line : String} (failed : program.goTo line = .error trouble) :
    program.code.length ≤ Text.numeral line.toList ∧ trouble = .ofCause .outOfBounds := by
  simp only [Program.goTo] at failed
  split at failed
  · contradiction
  · cases failed; exact ⟨Nat.le_of_not_lt ‹_›, rfl⟩

theorem Program.compute_error {target : String} {operator : Operator} {left right : Int}
    (failed : program.compute target operator left right = .error trouble) :
    operator = .divide ∧ right = 0 ∧ trouble = .ofCause .divisionByZero := by
  cases operator with
  | divide =>
    rw [compute] at failed
    cases divided : Arithmetic.divide? left right with
    | none =>
      rw [divided] at failed
      cases failed
      exact ⟨rfl, Arithmetic.divide?_eq_none_iff.mp divided, rfl⟩
    | some division => rw [divided] at failed; cases failed
  | _ => cases failed

/-- What is at fault with a statement, found from left to right. -/
inductive Statement.Fails (program : Program) : Statement → Trouble → Prop where
  | pop {target : String} (bare : program.stack = []) :
      Fails program (.assign target .stack) (.ofCause .emptyStack)
  | copy {target source : String} (absent : program.vars.get? source = none) :
      Fails program (.assign target (.copy source)) (.ofCause (.missingVariable source))
  | leftOperand {target left right : String} {operator : Operator} {trouble : Trouble}
      (unfit : program.Unfit left trouble) :
      Fails program (.assign target (.arithmetic left operator right)) trouble
  | rightOperand {target left right : String} {operator : Operator} {leftValue : Int}
      {trouble : Trouble} (leftRead : program.operand left = .ok leftValue)
      (unfit : program.Unfit right trouble) :
      Fails program (.assign target (.arithmetic left operator right)) trouble
  | divisor {target left right : String} {leftValue : Int}
      (leftRead : program.operand left = .ok leftValue) (zero : program.operand right = .ok 0) :
      Fails program (.assign target (.arithmetic left .divide right)) (.ofCause .divisionByZero)
  | jump {line : String} (outside : program.code.length ≤ Text.numeral line.toList) :
      Fails program (.jump line) (.ofCause .outOfBounds)
  | leftSide {left right line : String} {comparison : Comparison}
      (absent : program.vars.get? left = none) :
      Fails program (.branch left comparison right line) (.ofCause (.missingVariable left))
  | rightSide {left right line leftValue : String} {comparison : Comparison}
      (leftHeld : program.vars.get? left = some leftValue)
      (absent : program.vars.get? right = none) :
      Fails program (.branch left comparison right line) (.ofCause (.missingVariable right))
  | taken {left right line leftValue rightValue : String} {comparison : Comparison}
      (leftHeld : program.vars.get? left = some leftValue)
      (rightHeld : program.vars.get? right = some rightValue)
      (holds : comparison.holds leftValue rightValue = true)
      (outside : program.code.length ≤ Text.numeral line.toList) :
      Fails program (.branch left comparison right line) (.ofCause .outOfBounds)
  | output {name : String} (absent : program.vars.get? name = none) :
      Fails program (.output name) (.ofCause (.missingVariable name))

theorem Statement.fails_of_plan {statement : Statement}
    (failed : statement.plan program = .error trouble) :
    statement.Fails program trouble := by
  cases statement with
  | assign target origin =>
    cases origin with
    | literal literal => cases failed
    | stack =>
      rw [plan, Program.pop?] at failed
      cases top : program.stack with
      | nil => rw [top] at failed; cases failed; exact .pop top
      | cons value rest => rw [top] at failed; cases failed
    | input => cases failed
    | copy source =>
      rcases bind_eq_error failed with missing | ⟨value, -, resumed⟩
      · obtain ⟨absent, rfl⟩ := Program.require_error missing
        exact .copy absent
      · cases resumed
    | arithmetic left operator right =>
      rcases bind_eq_error failed with unfit | ⟨leftValue, leftRead, failed⟩
      · exact .leftOperand (Program.unfit_of_operand unfit)
      rcases bind_eq_error failed with unfit | ⟨rightValue, rightRead, failed⟩
      · exact .rightOperand leftRead (Program.unfit_of_operand unfit)
      rcases bind_eq_error failed with zero | ⟨computed, -, resumed⟩
      · obtain ⟨rfl, rfl, rfl⟩ := Program.compute_error zero
        exact .divisor leftRead rightRead
      · cases resumed
  | jump line =>
    rcases bind_eq_error failed with lost | ⟨gone, -, resumed⟩
    · obtain ⟨outside, rfl⟩ := goTo_error lost
      exact .jump outside
    · cases resumed
  | branch left comparison right line =>
    rcases bind_eq_error failed with missing | ⟨leftValue, leftFound, failed⟩
    · obtain ⟨absent, rfl⟩ := Program.require_error missing
      exact .leftSide absent
    have leftHeld := Program.get?_of_require leftFound
    rcases bind_eq_error failed with missing | ⟨rightValue, rightFound, failed⟩
    · obtain ⟨absent, rfl⟩ := Program.require_error missing
      exact .rightSide leftHeld absent
    have rightHeld := Program.get?_of_require rightFound
    cases compared : comparison.holds leftValue rightValue with
    | true =>
      rw [compared] at failed
      rcases bind_eq_error failed with lost | ⟨gone, -, resumed⟩
      · obtain ⟨outside, rfl⟩ := goTo_error lost
        exact .taken leftHeld rightHeld compared outside
      · cases resumed
    | false => rw [compared] at failed; cases failed
  | output name =>
    rcases bind_eq_error failed with missing | ⟨value, -, written⟩
    · obtain ⟨absent, rfl⟩ := Program.require_error missing
      exact .output absent
    · cases written

/-- What a phase finds wrong. -/
inductive Phase.Fails (program : Program) : Phase → Trouble → Prop where
  | lost {phase : Phase} {mishap : Mishap} (astray : program.current = .error mishap) :
      Fails program phase (.mishap mishap)
  | unknown {text : String} (found : program.current = .ok (some text))
      (unnamed : named? text = none) :
      Fails program .execute (.ofCause (.unknownInstruction text))
  | pastEnd {phase : Phase} (start : phase ≠ .execute) (atEnd : program.current = .ok none) :
      Fails program phase (.ofCause .pastEnd)
  | foreign {phase : Phase} {text : String} (start : phase ≠ .execute)
      (found : program.current = .ok (some text))
      (other : ∀ statement, Statement.parse? (Text.trim text).toList = some statement →
        statement.carrier ≠ phase ∧ statement.opening ≠ phase) :
      Fails program phase (.ofCause (phase.invalid (Text.trim text)))
  | carry {text : String} {statement : Statement} {trouble : Trouble}
      (found : program.current = .ok (some text))
      (read : Statement.parse? (Text.trim text).toList = some statement)
      (fails : statement.Fails program trouble) : Fails program statement.carrier trouble

theorem Phase.fails_of_plan {phase : Phase} (failed : phase.plan program = .error trouble) :
    phase.Fails program trouble := by
  have carried (start : phase ≠ .execute)
      (failed : (do phase.planFor program (← program.trimmedInstruction)) = .error trouble) :
      phase.Fails program trouble := by
    rw [Program.trimmedInstruction] at failed
    cases found : program.current with
    | error mishap => rw [found] at failed; cases failed; exact .lost found
    | ok instruction =>
      cases instruction with
      | none => rw [found] at failed; cases failed; exact .pastEnd start found
      | some text =>
        rw [found, ok_bind, planFor] at failed
        cases read : Statement.parse? (Text.trim text).toList with
        | none => rw [read] at failed; cases failed; exact .foreign start found (by simp [read])
        | some statement =>
          rw [read] at failed
          by_cases own : statement.carrier = phase
          · subst own
            exact .carry found read (Statement.fails_of_plan (by simpa using failed))
          · by_cases opens : statement.opening = phase
            · simp only [own, opens, ↓reduceIte] at failed
              cases failed
            · simp only [own, opens, ↓reduceIte] at failed
              cases failed
              exact .foreign start found (by simp [read, own, opens])
  cases phase with
  | execute =>
    rw [plan] at failed
    cases found : program.current with
    | error mishap => rw [found] at failed; cases failed; exact .lost found
    | ok instruction =>
      rw [found] at failed
      cases instruction with
      | none => cases failed
      | some text =>
        cases word : named? text with
        | none => simp only [word] at failed; cases failed; exact .unknown found word
        | some next => simp only [word] at failed; cases failed
  | finish => cases failed
  | _ => exact carried nofun failed

end LineScript
