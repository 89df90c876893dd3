import Mathlib.Logic.Function.Basic

/-!
# Partial maps

Slots name runs of frames, directory indices name tables, pages name frames and threads name what
they wait for, each of them only here and there. Where such a map is changed at one place, an
entry is the one that was put there or an older one of another place.
-/

namespace PagedMemory

variable {α β : Type} [DecidableEq α] {place : α → Option β} {a other : α} {now : Option β} {b : β}

theorem update_eq_some_iff :
    Function.update place a now other = some b ↔
      (other = a ∧ now = some b) ∨ (other ≠ a ∧ place other = some b) := by
  by_cases same : other = a
  · subst same
    simp
  · simp [same]

theorem update_ne_none_iff :
    Function.update place a now other ≠ none ↔
      (other = a ∧ now ≠ none) ∨ (other ≠ a ∧ place other ≠ none) := by
  by_cases same : other = a
  · subst same
    simp
  · simp [same]

/-- Filling an empty place leaves all entries. -/
theorem update_eq_some_of_vacant (vacant : place a = none) (old : place other = some b) :
    Function.update place a now other = some b := by
  refine update_eq_some_iff.mpr (.inr ⟨?_, old⟩)
  rintro rfl
  rw [vacant] at old
  cases old

end PagedMemory
