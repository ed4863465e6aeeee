import LineScript.Proofs.Text.Occurrences
import LineScript.Segment.Frame

/-!
What a frame encloses: the text from behind the first opening mark up to the first closing mark
after it. The marks may be any texts. They may overlap or coincide, and the empty mark stands
everywhere.
-/

namespace LineScript.Segment

open Text

variable {frame : Frame} {name source body : String} {place : Nat}

namespace Frame

/-- The error of a source without the opening mark. -/
def unopened (name : String) : LoadError :=
  ⟨"No " ++ name ++ " segment found", none, none⟩

/-- The error of a source without a closing mark behind the opening one. -/
def unclosed (name : String) : LoadError :=
  ⟨capitalize name ++ " segment not fully defined", none, none⟩

/-- A closing mark stands behind the opening mark at a place. -/
def Closes (frame : Frame) (source : String) (place : Nat) : Prop :=
  ∃ later, place + frame.opening.length ≤ later ∧ OccursAt frame.closing.toList source.toList later

/-- A body stands between the opening mark at a place and the first closing mark behind it. -/
def Encloses (frame : Frame) (source : String) (place : Nat) (body : String) : Prop :=
  ∃ before after, source = before ++ frame.opening ++ body ++ frame.closing ++ after ∧
    before.length = place ∧ ∀ earlier < body.length,
      ¬ OccursAt frame.closing.toList (body ++ frame.closing ++ after).toList earlier

theorem Encloses.closes (encloses : frame.Encloses source place body) :
    frame.Closes source place := by
  obtain ⟨before, after, rfl, rfl, -⟩ := encloses
  refine ⟨(before ++ frame.opening ++ body).length, ?_, ?_⟩
  · rw [String.length_append, String.length_append]
    exact Nat.le_add_right _ _
  · exact ⟨(before ++ frame.opening ++ body).toList, after.toList, by simp, String.length_toList⟩

/-- The marks leave room for one body. -/
theorem Encloses.unique {other : String} (encloses : frame.Encloses source place body)
    (also : frame.Encloses source place other) : body = other := by
  obtain ⟨before, after, whole, rfl, least⟩ := encloses
  obtain ⟨front, tail, same, length, again⟩ := also
  have texts := congrArg String.toList (whole.symm.trans same)
  simp only [String.toList_append, List.append_assoc] at texts
  obtain ⟨-, rest⟩ := List.append_inj texts (by simp only [String.length_toList, length])
  have inside := List.append_cancel_left rest
  have first : FirstAt frame.closing.toList (body ++ frame.closing ++ after).toList
      body.length := by
    exact ⟨⟨body.toList, after.toList, by simp, String.length_toList⟩, least⟩
  have second : FirstAt frame.closing.toList (other ++ frame.closing ++ tail).toList
      other.length := by
    exact ⟨⟨other.toList, tail.toList, by simp, String.length_toList⟩, again⟩
  simp only [String.toList_append, List.append_assoc, ← inside] at first second
  have size := first.unique second
  exact String.toList_inj.mp
    (List.append_inj inside (by simpa only [String.length_toList] using size)).1

/-- No mark but the empty one stands in what it closes. -/
theorem Encloses.clean (encloses : frame.Encloses source place body) (solid : frame.closing ≠ "") :
    ¬ frame.closing.toList <:+: body.toList := by
  rintro ⟨before, after, same⟩
  obtain ⟨front, tail, -, -, least⟩ := encloses
  have nonempty : frame.closing.toList.length ≠ 0 := by
    simpa using solid
  have size := congrArg List.length same
  rw [List.length_append, List.length_append, String.length_toList (s := body)] at size
  refine least before.length (by omega)
    ⟨before, after ++ frame.closing.toList ++ tail.toList, ?_, rfl⟩
  simp [← same]

/-- The three ways in which the search for a frame may go. -/
theorem extract_cases (frame : Frame) (name source : String) :
    ((∀ place, ¬ OccursAt frame.opening.toList source.toList place) ∧
        frame.extract name source = .error (unopened name)) ∨
      ∃ place, FirstAt frame.opening.toList source.toList place ∧
        ((¬ frame.Closes source place ∧ frame.extract name source = .error (unclosed name)) ∨
          ∃ body, frame.Encloses source place body ∧ frame.extract name source = .ok body) := by
  rw [extract]
  cases opened : splitAtFirst? frame.opening.toList source.toList with
  | none => exact .inl ⟨splitAtFirst?_eq_none_iff.mp opened, rfl⟩
  | some parts =>
    obtain ⟨before, inside⟩ := parts
    obtain ⟨whole, first⟩ := splitAtFirst?_eq_some_iff.mp opened
    refine .inr ⟨before.length, first, ?_⟩
    cases closed : splitAtFirst? frame.closing.toList inside with
    | none =>
      refine .inl ⟨?_, by simp only [closed]; rfl⟩
      rintro ⟨later, behind, occurs⟩
      obtain ⟨distance, rfl⟩ := Nat.exists_eq_add_of_le behind
      have size : (before ++ frame.opening.toList).length =
          before.length + frame.opening.length := by
        rw [List.length_append, String.length_toList]
      rw [whole, ← size, occursAt_append_iff] at occurs
      exact splitAtFirst?_eq_none_iff.mp closed distance occurs
    | some parts =>
      obtain ⟨body, after⟩ := parts
      obtain ⟨split, shortest⟩ := splitAtFirst?_eq_some_iff.mp closed
      refine .inr ⟨String.ofList body, ?_, by simp only [closed]⟩
      refine ⟨String.ofList before, String.ofList after, ?_, by simp, ?_⟩
      · apply String.toList_inj.mp
        simp [whole, split]
      · intro earlier less
        have same : (String.ofList body ++ frame.closing ++ String.ofList after).toList =
            inside := by
          simp [split]
        rw [same]
        exact shortest.least earlier (by simpa using less)

/-- The two errors end in different words, whatever the segment is called. -/
theorem unopened_ne_unclosed (name : String) : unopened name ≠ unclosed name := by
  intro same
  have texts := congrArg (fun error => error.message.toList) same
  have first : " segment found".toList <:+ (unopened name).message.toList := by
    rw [unopened, String.toList_append]
    exact List.suffix_append _ _
  have second : "not fully defined".toList <:+ (unopened name).message.toList := by
    refine texts ▸ ⟨(capitalize name ++ " segment ").toList, ?_⟩
    rw [unclosed, ← String.toList_append, String.append_assoc]
    rfl
  rcases List.suffix_or_suffix_of_suffix first second with ends | ends
  · exact absurd ends (by decide)
  · exact absurd ends (by decide)

/-- The search for a frame finds the first opening mark and the first closing mark behind it, and
what it returns is the one text that these two enclose. It fails exactly if one of the two marks is
missing, with an error that has a message alone. A closing mark that is not empty never stands in
the result. -/
theorem extract_first_frame (frame : Frame) (name source : String) :
    (frame.extract name source = .error (unopened name) ↔
      ∀ place, ¬ OccursAt frame.opening.toList source.toList place) ∧
    (∀ place, FirstAt frame.opening.toList source.toList place →
      (frame.extract name source = .error (unclosed name) ↔ ¬ frame.Closes source place) ∧
      (frame.Closes source place → ∃ body, frame.extract name source = .ok body ∧
        ∀ other, frame.Encloses source place other ↔ other = body)) ∧
    (∀ error, frame.extract name source = .error error →
      (error = unopened name ∨ error = unclosed name) ∧
        error.number = none ∧ error.kind = none ∧ error.condition = none) ∧
    ∀ body, frame.extract name source = .ok body → frame.closing ≠ "" →
      ¬ frame.closing.toList <:+: body.toList := by
  rcases extract_cases frame name source with ⟨absent, failed⟩ |
    ⟨place, first, ⟨missing, failed⟩ | ⟨body, encloses, found⟩⟩
  · rw [failed]
    refine ⟨iff_of_true rfl absent, fun place first => absurd first.occurs (absent place), ?_,
      nofun⟩
    rintro error ⟨⟩
    exact ⟨.inl rfl, rfl, rfl, rfl⟩
  · rw [failed]
    refine ⟨iff_of_false ?_ fun absent => absent place first.occurs, fun other again => ?_, ?_,
      nofun⟩
    · exact fun same => unopened_ne_unclosed name (Except.error.inj same).symm
    · obtain rfl := first.unique again
      exact ⟨iff_of_true rfl missing, fun closes => absurd closes missing⟩
    · rintro error ⟨⟩
      exact ⟨.inr rfl, rfl, rfl, rfl⟩
  · rw [found]
    refine ⟨iff_of_false nofun fun absent => absent place first.occurs, fun other again => ?_,
      nofun, ?_⟩
    · obtain rfl := first.unique again
      refine ⟨iff_of_false nofun (not_not_intro encloses.closes), fun _ =>
        ⟨body, rfl, fun other => ?_⟩⟩
      exact ⟨fun also => also.unique encloses, fun same => same ▸ encloses⟩
    · rintro other ⟨⟩ solid
      exact encloses.clean solid

/-- A closing mark that begins inside the opening one does not count. -/
theorem overlapping_enclosed :
    FirstAt "aba".toList "xabacabac".toList 1 ∧ Closes ⟨"aba", "ac"⟩ "xabacabac" 1 ∧
      OccursAt "ac".toList "xabacabac".toList 3 ∧
      extract ⟨"aba", "ac"⟩ "test" "xabacabac" = .ok "cab" ∧
      (∀ other, Encloses ⟨"aba", "ac"⟩ "xabacabac" 1 other ↔ other = "cab") ∧
      ¬ "ac".toList <:+: "cab".toList := by
  have first : FirstAt "aba".toList "xabacabac".toList 1 := by
    have opened :
        splitAtFirst? "aba".toList "xabacabac".toList = some ("x".toList, "cabac".toList) := by
      decide
    exact (splitAtFirst?_eq_some_iff.mp opened).2
  have closes : Closes ⟨"aba", "ac"⟩ "xabacabac" 1 :=
    ⟨7, by decide, "xabacab".toList, [], rfl, rfl⟩
  have read : extract ⟨"aba", "ac"⟩ "test" "xabacabac" = .ok "cab" := rfl
  obtain ⟨-, inside, -, clean⟩ := extract_first_frame ⟨"aba", "ac"⟩ "test" "xabacabac"
  obtain ⟨body, found, only⟩ := (inside 1 first).2 closes
  obtain rfl : body = "cab" := Except.ok.inj (found.symm.trans read)
  have early : OccursAt "ac".toList "xabacabac".toList 3 := ⟨"xab".toList, "abac".toList, rfl, rfl⟩
  exact ⟨first, closes, early, found, only, clean "cab" found (by decide)⟩

end Frame

end LineScript.Segment
