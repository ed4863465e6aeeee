/-!
Results of work that may fail: what comes after a failure is not done, so a result is reached part
by part.
-/

namespace LineScript

variable {ε α β γ : Type}

theorem ok_bind (value : α) (next : α → Except ε β) : (Except.ok value >>= next) = next value := rfl

/-- Work in two parts that succeeds has gone by a result of its first part. -/
theorem bind_eq_ok {first : Except ε α} {next : α → Except ε β} {result : β}
    (done : first >>= next = .ok result) :
    ∃ value, first = .ok value ∧ next value = .ok result := by
  cases first with
  | error failure =>
    have failed : (Except.error failure : Except ε β) = .ok result := done
    contradiction
  | ok value => exact ⟨value, rfl, done⟩

/-- Work in two parts fails in its first part, or in its second after a result of the first. -/
theorem bind_eq_error {first : Except ε α} {next : α → Except ε β} {failure : ε}
    (failed : first >>= next = .error failure) :
    first = .error failure ∨ ∃ value, first = .ok value ∧ next value = .error failure := by
  cases first with
  | error met =>
    have same : (Except.error met : Except ε β) = .error failure := failed
    exact .inl (by rw [Except.error.inj same])
  | ok value => exact .inr ⟨value, rfl, failed⟩

/-- Work in two parts has a changed result if its second part has one, after each result of the
first. -/
theorem bind_eq_map {first : Except ε α} {next : α → Except ε γ} {other : α → Except ε β}
    {change : β → γ} (same : ∀ value, first = .ok value → next value = (other value).map change) :
    first >>= next = (first >>= other).map change := by
  cases first with
  | error failure => rfl
  | ok value => exact same value rfl

end LineScript
