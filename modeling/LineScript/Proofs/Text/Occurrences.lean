import LineScript.Text.Search

/-!
Places at which a mark stands in a text. The search finds the least of them, and it finds none if
there is none; the empty mark stands everywhere, also at the end.
-/

namespace LineScript.Text

variable {mark text rest before after : List Char} {char : Char} {place : Nat}

/-- A mark stands at a place of a text. -/
def OccursAt (mark text : List Char) (place : Nat) : Prop :=
  ∃ before after, text = before ++ mark ++ after ∧ before.length = place

/-- The least place at which a mark stands. -/
structure FirstAt (mark text : List Char) (place : Nat) : Prop where
  occurs : OccursAt mark text place
  least : ∀ earlier < place, ¬ OccursAt mark text earlier

theorem occursAt_zero_iff : OccursAt mark text 0 ↔ mark <+: text := by
  constructor
  · rintro ⟨before, after, rfl, empty⟩
    obtain rfl := List.eq_nil_of_length_eq_zero empty
    exact List.prefix_append mark after
  · rintro ⟨after, rfl⟩
    exact ⟨[], after, rfl, rfl⟩

theorem occursAt_cons_succ_iff :
    OccursAt mark (char :: rest) (place + 1) ↔ OccursAt mark rest place := by
  constructor
  · rintro ⟨before, after, whole, length⟩
    cases before with
    | nil => cases length
    | cons first before =>
      rw [List.cons_append, List.cons_append] at whole
      obtain ⟨rfl, same⟩ := List.cons.inj whole
      exact ⟨before, after, same, Nat.succ.inj length⟩
  · rintro ⟨before, after, rfl, rfl⟩
    exact ⟨char :: before, after, rfl, rfl⟩

/-- In a text with something before it, the places of a mark are moved on by as much. -/
theorem occursAt_append_iff :
    OccursAt mark (before ++ text) (before.length + place) ↔ OccursAt mark text place := by
  induction before with
  | nil => rw [List.nil_append, List.length_nil, Nat.zero_add]
  | cons char before ih =>
    rw [List.cons_append, List.length_cons, Nat.add_right_comm, occursAt_cons_succ_iff, ih]

theorem FirstAt.unique {other : Nat} (first : FirstAt mark text place)
    (again : FirstAt mark text other) :
    place = other := by
  apply Nat.le_antisymm
  · exact Nat.le_of_not_lt fun less => first.least other less again.occurs
  · exact Nat.le_of_not_lt fun less => again.least place less first.occurs

theorem splitAtFirst?_eq_none_iff :
    splitAtFirst? mark text = none ↔ ∀ place, ¬ OccursAt mark text place := by
  induction text with
  | nil =>
    rw [splitAtFirst?]
    split
    · rename_i empty
      refine iff_of_false (Option.some_ne_none _) fun absent => absent 0 ?_
      obtain rfl := List.isEmpty_iff.mp empty
      exact ⟨[], [], rfl, rfl⟩
    · rename_i solid
      refine iff_of_true rfl fun place occurs => solid ?_
      obtain ⟨before, after, nothing, -⟩ := occurs
      have parts := List.append_eq_nil_iff.mp nothing.symm
      exact List.isEmpty_iff.mpr (List.append_eq_nil_iff.mp parts.1).2
  | cons char rest ih =>
    rw [splitAtFirst?]
    split
    · rename_i here
      refine iff_of_false (Option.some_ne_none _) fun absent => absent 0 ?_
      exact occursAt_zero_iff.mpr (List.isPrefixOf_iff_prefix.mp here)
    · rename_i apart
      rw [Option.map_eq_none_iff, ih]
      constructor
      · intro absent place occurs
        cases place with
        | zero => exact apart (List.isPrefixOf_iff_prefix.mpr (occursAt_zero_iff.mp occurs))
        | succ place => exact absent place (occursAt_cons_succ_iff.mp occurs)
      · intro absent place occurs
        exact absent (place + 1) (occursAt_cons_succ_iff.mpr occurs)

theorem firstAt_of_splitAtFirst? (found : splitAtFirst? mark text = some (before, after)) :
    FirstAt mark text before.length := by
  refine ⟨⟨before, after, append_of_splitAtFirst? found, rfl⟩, ?_⟩
  induction text generalizing before with
  | nil =>
    obtain ⟨-, same⟩ : mark = [] ∧ ([], []) = (before, after) := by
      simpa [splitAtFirst?] using found
    obtain ⟨rfl, -⟩ := Prod.mk.inj same
    exact fun earlier less => absurd less (Nat.not_lt_zero earlier)
  | cons char rest ih =>
    rw [splitAtFirst?] at found
    split at found
    · obtain ⟨rfl, -⟩ := Prod.mk.inj (Option.some.inj found)
      exact fun earlier less => absurd less (Nat.not_lt_zero earlier)
    · rename_i apart
      obtain ⟨⟨shorter, tail⟩, later, same⟩ := Option.map_eq_some_iff.mp found
      obtain ⟨rfl, rfl⟩ := Prod.mk.inj same
      intro earlier less occurs
      cases earlier with
      | zero => exact apart (List.isPrefixOf_iff_prefix.mpr (occursAt_zero_iff.mp occurs))
      | succ earlier =>
        exact ih later earlier (Nat.lt_of_succ_lt_succ less) (occursAt_cons_succ_iff.mp occurs)

/-- The search cuts a text around a mark at its first place. -/
theorem splitAtFirst?_eq_some_iff :
    splitAtFirst? mark text = some (before, after) ↔
      text = before ++ mark ++ after ∧ FirstAt mark text before.length := by
  constructor
  · intro found
    exact ⟨append_of_splitAtFirst? found, firstAt_of_splitAtFirst? found⟩
  · rintro ⟨whole, first⟩
    cases found : splitAtFirst? mark text with
    | none => exact absurd first.occurs (splitAtFirst?_eq_none_iff.mp found before.length)
    | some parts =>
      obtain ⟨front, tail⟩ := parts
      have length := (firstAt_of_splitAtFirst? found).unique first
      have same := (append_of_splitAtFirst? found).symm.trans whole
      rw [List.append_assoc, List.append_assoc] at same
      obtain ⟨rfl, behind⟩ := List.append_inj same length
      rw [List.append_cancel_left behind]

end LineScript.Text
