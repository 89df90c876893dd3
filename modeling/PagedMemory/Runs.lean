/-!
# Runs of equal elements

A long list of few distinct elements is told by its maximal runs: where each
begins, how long it is, and which element it repeats.
-/

namespace PagedMemory

/-- Equal elements in a row. -/
structure Run (α : Type) where
  /-- The index of the first. -/
  first : Nat
  /-- How many there are. -/
  count : Nat
  element : α

namespace Run

variable {α : Type} [DecidableEq α]

/-- The runs with one more element in front, at index `i`. -/
def prepend (i : Nat) (a : α) : List (Run α) → List (Run α)
  | [] => [⟨i, 1, a⟩]
  | run :: rest =>
    if a = run.element then ⟨i, run.count + 1, a⟩ :: rest else ⟨i, 1, a⟩ :: run :: rest

/-- The maximal runs of a list whose first element has index `i`. -/
def runsFrom (i : Nat) : List α → List (Run α)
  | [] => []
  | a :: rest => prepend i a (runsFrom (i + 1) rest)

/-- The maximal runs of a list. -/
def runs (elements : List α) : List (Run α) :=
  runsFrom 0 elements

/-- The elements of a run. -/
def toList (run : Run α) : List α :=
  List.replicate run.count run.element

theorem flatMap_toList_prepend (i : Nat) (a : α) (rest : List (Run α)) :
    (prepend i a rest).flatMap toList = a :: rest.flatMap toList := by
  cases rest with
  | nil => simp [prepend, toList]
  | cons run rest =>
    by_cases same : a = run.element
    · simp [prepend, same, toList, List.replicate_succ]
    · simp [prepend, same, toList]

theorem flatMap_toList_runsFrom (elements : List α) (i : Nat) :
    (runsFrom i elements).flatMap toList = elements := by
  induction elements generalizing i with
  | nil => rfl
  | cons a rest ih => rw [runsFrom, flatMap_toList_prepend, ih]

/-- The runs of a list tell the whole list. -/
theorem flatMap_toList_runs (elements : List α) : (runs elements).flatMap toList = elements :=
  flatMap_toList_runsFrom elements 0

end Run

end PagedMemory
