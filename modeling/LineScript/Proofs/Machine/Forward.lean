import LineScript.Proofs.Journal.Trace

/-!
Programs whose jumps all lead forward. Every step of such a program goes on with its turn or gets
further in the code, so the room that is left shrinks from step to step, and no instruction has a
second turn.
-/

namespace LineScript

variable {program other : Program} {statement : Statement}

/-- The line that a statement may go to. -/
def Statement.line? : Statement → Option String
  | .assign .. => none
  | .jump line => some line
  | .branch _ _ _ line => some line
  | .output _ => none

/-- Every line that a statement of the code may go to stands after that statement. -/
def Program.Forward (program : Program) : Prop :=
  ∀ (position : Nat) (short : position < program.code.length),
    ∀ statement ∈ Statement.parse? (Text.trim program.code[position]).toList,
      ∀ line ∈ statement.line?, position < Text.numeral line.toList

instance (program : Program) : Decidable program.Forward := by
  unfold Program.Forward
  infer_instance

theorem Program.Forward.of_code (forward : program.Forward) (same : other.code = program.code) :
    other.Forward := by
  obtain ⟨code, vars, stack, ip⟩ := other
  subst same
  exact forward

/-- A statement leads further in the code if its line does. -/
theorem Statement.LeadsTo.ahead {size : Nat} {position target : Int}
    (leads : statement.LeadsTo size position target)
    (further : ∀ line ∈ statement.line?, position < Text.numeral line.toList) :
    position < target := by
  cases leads with
  | assign => exact Int.lt_succ position
  | output => exact Int.lt_succ position
  | passed => exact Int.lt_succ position
  | jump => exact further _ rfl
  | taken => exact further _ rfl

/-- A turn comes to at most two phases before its last. -/
theorem Phase.length_lead_le (phase : Phase) : phase.lead.length ≤ 2 := by
  cases phase <;> decide

/-- An entry further on in the code than another one, or later in the same turn. -/
def Journal.Entry.Precedes (first later : Journal.Entry) : Prop :=
  ∃ position target : Int, first.ip = some position ∧ later.ip = some target ∧
    (position < target ∨ position = target ∧ later.rule ≠ Phase.execute.name)

theorem Journal.Entry.Precedes.trans {first middle later : Journal.Entry}
    (before : first.Precedes middle) (after : middle.Precedes later) : first.Precedes later := by
  obtain ⟨position, between, here, there, order⟩ := before
  obtain ⟨same, target, again, last, further⟩ := after
  obtain rfl : between = same := Option.some.inj (there.symm.trans again)
  refine ⟨position, target, here, last, ?_⟩
  rcases further with less | ⟨rfl, goesOn⟩
  · rcases order with short | ⟨rfl, -⟩
    · exact .inl (Int.lt_trans short less)
    · exact .inl less
  · exact order.imp_right fun stays => ⟨stays.1, goesOn⟩

instance : IsTrans Journal.Entry Journal.Entry.Precedes :=
  ⟨fun _ _ _ => Journal.Entry.Precedes.trans⟩

/-- No instruction begins a second turn if the entries precede one another. -/
theorem Journal.nodup_turns {entries : List Journal.Entry}
    (ordered : entries.Pairwise Journal.Entry.Precedes) :
    ((entries.filter fun entry => entry.rule = Phase.execute.name).map Journal.Entry.ip).Nodup := by
  apply List.pairwise_map.mpr
  apply List.pairwise_filter.mpr
  refine ordered.imp fun {first later} precedes _ begins same => ?_
  obtain ⟨position, target, here, there, order⟩ := precedes
  rw [here, there] at same
  obtain rfl := Option.some.inj same
  rcases order with less | ⟨-, goesOn⟩
  · exact absurd less (Int.lt_irrefl position)
  · exact goesOn (of_decide_eq_true begins)

namespace Machine

variable {machine middle after : Machine} {phase next last : Phase} {phases : List Phase}

/-- A step goes on with its turn where it is, or the next turn begins further on. -/
theorem advances_of_step (inside : machine.program.Inside) (forward : machine.program.Forward)
    (taken : machine.step phase = (.ok (some next), after)) :
    (next.lead = phase.lead ++ [phase] ∧ after.program.ip = machine.program.ip) ∨
      (next = .execute ∧ machine.program.ip < after.program.ip) := by
  obtain ⟨follows, reached⟩ := follows_of_step inside taken
  cases follows with
  | within goesOn =>
    cases reached with
    | within _ same => exact .inl ⟨goesOn, Option.some.inj same.ip⟩
    | across begins =>
      obtain rfl : next = .execute := Phase.name_injective begins
      exact absurd goesOn.symm (List.append_ne_nil_of_right_ne_nil _ (List.cons_ne_nil phase []))
  | across closed =>
    cases reached with
    | within goesOn => exact absurd rfl goesOn
    | @across position target text statement _ here line read leads there =>
      obtain rfl : machine.program.ip = position := Option.some.inj here
      obtain rfl : after.program.ip = target := Option.some.inj there
      refine .inr ⟨rfl, leads.ahead fun other may => ?_⟩
      have nonneg := inside.nonneg
      obtain ⟨short, rfl⟩ := List.getElem?_eq_some_iff.mp line
      have further := forward machine.program.ip.toNat short statement read other may
      omega

theorem precedes_of_step (inside : machine.program.Inside) (forward : machine.program.Forward)
    (taken : machine.step phase = (.ok (some next), after)) :
    (machine.due phase).Precedes (after.due next) := by
  refine ⟨machine.program.ip, after.program.ip, rfl, rfl, ?_⟩
  rcases advances_of_step inside forward taken with ⟨goesOn, same⟩ | ⟨-, further⟩
  · refine .inr ⟨same.symm, fun begins => ?_⟩
    obtain rfl : next = .execute := Phase.name_injective begins
    exact absurd goesOn.symm (List.append_ne_nil_of_right_ne_nil _ (List.cons_ne_nil phase []))
  · exact .inl further

/-- The most steps that may be left: three for each instruction from here on and two at the end,
less those that the turn has had. -/
def room (machine : Machine) (phase : Phase) : Nat :=
  3 * (machine.program.code.length - machine.program.ip.toNat) + 2 - phase.lead.length

theorem room_lt_of_step (inside : machine.program.Inside) (forward : machine.program.Forward)
    (taken : machine.step phase = (.ok (some next), after)) :
    after.room next < machine.room phase := by
  obtain ⟨within, code⟩ := (inside_kept machine.program.code).step ⟨inside, rfl⟩ phase
  rw [taken] at within code
  obtain ⟨-, short⟩ : after.program.Inside := within
  rw [code] at short
  have nonneg := inside.nonneg
  have limit := Phase.length_lead_le next
  have before := Phase.length_lead_le phase
  rw [room, room, code]
  rcases advances_of_step inside forward taken with ⟨goesOn, same⟩ | ⟨rfl, further⟩
  · rw [goesOn, List.length_append, List.length_singleton] at limit ⊢
    rw [same]
    omega
  · -- One instruction further on, three steps are gone, and the next turn has all of its own.
    have none : Phase.execute.lead.length = 0 := rfl
    omega

/-- A phase that has an instruction at hand, or that needs none, has room for its own step. -/
theorem Routed.room_pos (routed : machine.Routed phase) (inside : machine.program.Inside) :
    0 < machine.room phase := by
  have nonneg := inside.nonneg
  have limit := Phase.length_lead_le phase
  rw [room]
  by_cases start : phase = .execute
  · have none : phase.lead.length = 0 := by rw [start]; rfl
    omega
  · by_cases finish : phase = .finish
    · have single : phase.lead.length = 1 := by rw [finish]; rfl
      omega
    · obtain ⟨text, found⟩ := routed.current start finish
      have short := Program.lt_length_of_current found
      omega

/-- The steps of a run take up its room, and its entries precede one another. -/
theorem Leads.forward (leads : Leads phase machine phases last after)
    (inside : machine.program.Inside) (forward : machine.program.Forward) :
    phases.length + after.room last ≤ machine.room phase ∧
      ∃ steps, after.journal.entries.toList = machine.journal.entries.toList ++ steps ∧
        steps.length = phases.length ∧
          (steps ++ [after.due last]).head? = some (machine.due phase) ∧
        (steps ++ [after.due last]).IsChain Journal.Entry.Precedes := by
  induction leads with
  | here phase machine =>
    refine ⟨by simp, [], (List.append_nil _).symm, rfl, rfl, ?_⟩
    exact List.isChain_singleton _
  | @step phase next last machine middle after phases taken _ ih =>
    have entries := entries_of_step inside phase
    have still := (inside_kept machine.program.code).step ⟨inside, rfl⟩ phase
    rw [taken] at entries still
    obtain ⟨within, code⟩ := still
    have smaller := room_lt_of_step inside forward taken
    obtain ⟨left, steps, recorded, length, first, chain⟩ := ih within (forward.of_code code)
    refine ⟨by rw [List.length_cons]; omega, machine.due phase :: steps, ?_, ?_, rfl, ?_⟩
    · rw [recorded, entries, Array.toList_push, List.append_assoc, List.singleton_append]
    · rw [List.length_cons, length, List.length_cons]
    · obtain ⟨rest, same⟩ := List.head?_eq_some_iff.mp first
      rw [List.cons_append, same]
      rw [same] at chain
      exact List.isChain_cons_cons.mpr ⟨precedes_of_step inside forward taken, chain⟩

/-- A run without jumps back comes to its last step before its room is used up. -/
theorem exists_ends_of_forward (inside : machine.program.Inside)
    (forward : machine.program.Forward) :
    ∃ phases last before, Leads .execute machine phases last before ∧
      phases.length < machine.room .execute ∧ before.program.Inside ∧
      Ends before last (machine.run (machine.room .execute)).1
        (machine.run (machine.room .execute)).2 := by
  obtain ⟨phases, last, before, leads, cases⟩ :=
    runFrom_cases .execute machine (machine.room .execute)
  obtain ⟨left, -⟩ := leads.forward inside forward
  have within := ((inside_kept machine.program.code).leads ⟨inside, rfl⟩ leads).1
  have free := (leads.routed .start).room_pos within
  rcases cases with ⟨short, ends⟩ | ⟨size, -⟩
  · exact ⟨phases, last, before, leads, short, within, ends⟩
  · omega

theorem Ends.ne_paused {ending : Ending} (ends : Ends machine phase ending after) (next : Phase) :
    ending ≠ .paused next := by
  rintro rfl
  cases ends

/-- A program whose jumps all lead forward ends, with success or with a fault, within three steps
for each instruction from its position on and two at the end; each step leaves one entry, and no
instruction begins a second turn. -/
theorem forward_runs_end (machine : Machine) (inside : machine.program.Inside)
    (forward : machine.program.Forward) :
    ∃ ending after entries,
      (ending = .done ∨ ∃ fault, ending = .stopped (.fault fault)) ∧
      (∀ budget : Nat, 3 * ((machine.program.code.length : Int) - machine.program.ip) + 2 ≤ budget →
        machine.run budget = (ending, after)) ∧
      after.journal.entries.toList = machine.journal.entries.toList ++ entries ∧
      (entries.length : Int) ≤ 3 * (machine.program.code.length - machine.program.ip) + 2 ∧
      ((entries.filter fun entry => entry.rule = Phase.execute.name).map
        Journal.Entry.ip).Nodup := by
  have enough : (machine.room .execute : Int) =
      3 * (machine.program.code.length - machine.program.ip) + 2 := by
    obtain ⟨nonneg, short⟩ := inside
    have none : Phase.execute.lead.length = 0 := rfl
    rw [room]
    omega
  obtain ⟨phases, last, before, leads, limit, within, ends⟩ := exists_ends_of_forward inside forward
  obtain ⟨-, steps, recorded, length, -, chain⟩ := leads.forward inside forward
  generalize ended : machine.run (machine.room .execute) = result at ends
  obtain ⟨ending, after⟩ := result
  have entries := entries_of_step within last
  rw [ends.step_snd] at entries
  refine ⟨ending, after, steps ++ [before.due last], ?ends, ?stable, ?recorded, ?bound, ?turns⟩
  case ends =>
    match ending with
    | .done => exact .inl rfl
    | .stopped (.fault fault) => exact .inr ⟨fault, rfl⟩
    | .stopped (.mishap mishap) =>
      exact absurd (congrArg Prod.fst ended) (runFrom_ne_mishap inside .execute _ mishap)
    | .paused next => exact absurd rfl (ends.ne_paused next)
  case stable =>
    intro budget large
    obtain ⟨more, rfl⟩ := Nat.exists_eq_add_of_le (show machine.room .execute ≤ budget by omega)
    exact runFrom_stable ended ends.ne_paused more
  case recorded => rw [entries, Array.toList_push, recorded, List.append_assoc]
  case bound =>
    rw [List.length_append, length, List.length_singleton]
    omega
  case turns => exact Journal.nodup_turns (List.isChain_iff_pairwise.mp chain)

/-- A division and a jump over a line, from the second instruction on, on a machine that was used
before. -/
def jumpingAhead : Machine where
  program :=
    { code := ["goto 0007", "let $q = $a / $b", " if $q < $a goto 4 ", "goto 9", "output $q"]
      vars := ⟨[("a", "7"), ("b", "2")]⟩
      stack := ["left"]
      ip := 1 }
  console := { inputs := [], outputs := #["before"] }
  journal := Journal.seeded.record Phase.execute.name (some 1) none none

theorem jumpingAhead_ends :
    jumpingAhead.program.Inside ∧ jumpingAhead.program.Forward ∧
      ∃ after entries, jumpingAhead.run 14 = (.done, after) ∧
        after.journal.entries.toList = jumpingAhead.journal.entries.toList ++ entries ∧
        entries.length ≤ 14 ∧
        ((entries.filter fun entry => entry.rule = Phase.execute.name).map
          Journal.Entry.ip).Nodup := by
  have inside : jumpingAhead.program.Inside := ⟨by decide, by decide⟩
  have forward : jumpingAhead.program.Forward := by decide +kernel
  obtain ⟨ending, after, entries, -, ended, recorded, bound, turns⟩ :=
    forward_runs_end jumpingAhead inside forward
  have done : (jumpingAhead.run 14).1 = .done := by decide +kernel
  have same : jumpingAhead.run 14 = (ending, after) := ended 14 (by decide)
  obtain rfl : ending = .done := by rwa [same] at done
  exact ⟨inside, forward, after, entries, same, recorded, Int.ofNat_le.mp bound, turns⟩

end Machine

end LineScript
