/-!
Bindings of names to values, in the order in which the names were first bound. A name that is bound
again keeps its place.
-/

namespace LineScript

structure Bindings where
  toList : List (String × String)
  deriving DecidableEq, Repr

namespace Bindings

def empty : Bindings := ⟨[]⟩

def names (bindings : Bindings) : List String :=
  bindings.toList.map Prod.fst

def get? (bindings : Bindings) (name : String) : Option String :=
  bindings.toList.lookup name

def contains (bindings : Bindings) (name : String) : Bool :=
  (bindings.get? name).isSome

/-- Replaces the value of a name in place, or appends the name. -/
def put (name value : String) : List (String × String) → List (String × String)
  | [] => [(name, value)]
  | (other, old) :: rest =>
    if name = other then (other, value) :: rest else (other, old) :: put name value rest

def insert (bindings : Bindings) (name value : String) : Bindings :=
  ⟨put name value bindings.toList⟩

/-- Binds pairs one after the other. -/
def ofList (pairs : List (String × String)) : Bindings :=
  pairs.foldl (fun bindings (name, value) => bindings.insert name value) empty

theorem get?_insert (bindings : Bindings) (name value other : String) :
    (bindings.insert name value).get? other =
      if other = name then some value else bindings.get? other := by
  obtain ⟨pairs⟩ := bindings
  simp only [insert, get?]
  induction pairs with
  | nil =>
    by_cases same : other = name
    · simp [put, same]
    · simp [put, List.lookup_cons, beq_eq_false_iff_ne.mpr same, same]
  | cons pair rest inductionHypothesis =>
    obtain ⟨key, old⟩ := pair
    by_cases here : name = key
    · subst here
      by_cases same : other = name
      · simp [put, same]
      · simp [put, List.lookup_cons, beq_eq_false_iff_ne.mpr same, same]
    · by_cases found : other = key
      · subst found
        simp [put, here, Ne.symm here]
      · simp [put, here, List.lookup_cons, beq_eq_false_iff_ne.mpr found, inductionHypothesis]

theorem names_insert (bindings : Bindings) (name value : String) :
    (bindings.insert name value).names =
      if name ∈ bindings.names then bindings.names else bindings.names ++ [name] := by
  obtain ⟨pairs⟩ := bindings
  simp only [insert, names]
  induction pairs with
  | nil => simp [put]
  | cons pair rest inductionHypothesis =>
    obtain ⟨key, old⟩ := pair
    by_cases here : name = key
    · simp [put, here]
    · by_cases later : name ∈ rest.map Prod.fst <;>
        simp [put, here, inductionHypothesis, later]

end Bindings

end LineScript
