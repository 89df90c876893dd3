import PagedMemory.Coremap.Basic

/-!
# Runs of descriptors

Finding a run of usable frames, finding the next free frame, and overwriting a
run. A frame is usable if it is free, or in use and given up by the policy. The
policy is asked about every frame in use that the search meets, in ascending
order, and its state is passed on from question to question.
-/

namespace PagedMemory.Coremap

variable {π : Type}

/-! ## Searching -/

/-- Whether a frame can be part of an allocation. -/
def isUsable [EvictionPolicy π] (policy : π) (index : Nat) (descriptor : Descriptor) : Bool × π :=
  match descriptor with
  | .free => (true, policy)
  | .fixed => (false, policy)
  | .inUse .. => EvictionPolicy.isEvictable policy (.ofNumber index) descriptor

/-- Search `remaining` frames from `index` on, when the `run` frames just before
are usable, for the first `wanted` usable frames in a row. -/
def scan [EvictionPolicy π] (frames : Array Descriptor) (wanted : Nat) :
    (remaining index run : Nat) → π → Option Nat × π
  | 0, _, _, policy => (none, policy)
  | remaining + 1, index, run, policy =>
    match frames[index]? with
    | none => (none, policy)
    | some descriptor =>
      match isUsable policy index descriptor with
      | (true, policy) =>
        if run + 1 = wanted then (some (index + 1 - wanted), policy)
        else scan frames wanted remaining (index + 1) (run + 1) policy
      | (false, policy) => scan frames wanted remaining (index + 1) 0 policy

/-- The first `wanted` usable frames in a row at or after `start`. -/
def findRun [EvictionPolicy π] (frames : Array Descriptor) (start wanted : Nat) (policy : π) :
    Option Nat × π :=
  scan frames wanted (frames.size - start) start 0 policy

/-- The first `wanted` usable frames in a row at or after `cursor`, or else the
first in all of RAM. -/
def findRunFrom [EvictionPolicy π] (frames : Array Descriptor) (cursor wanted : Nat) (policy : π) :
    Option Nat × π :=
  match findRun frames cursor wanted policy with
  | (some base, policy) => (some base, policy)
  | (none, policy) => findRun frames 0 wanted policy

/-- Search `remaining` frames from `index` on for a free one. -/
def scanFree (frames : Array Descriptor) : (remaining index : Nat) → Nat
  | 0, _ => 0
  | remaining + 1, index =>
    if frames[index]?.any Descriptor.isFree then index
    else scanFree frames remaining (index + 1)

/-- The first free frame at or after `start`, or frame zero if there is none
before the end of RAM. -/
def nextFree (frames : Array Descriptor) (start : Nat) : Nat :=
  scanFree frames (frames.size - start) start

/-! ## Runs -/

/-- The descriptors with the `n` from `start` on overwritten. -/
def fill (descriptor : Descriptor) (frames : Array Descriptor) (start : Nat) :
    Nat → Array Descriptor
  | 0 => frames
  | n + 1 => fill descriptor (frames.setIfInBounds start descriptor) (start + 1) n

/-- Whether a frame carries a block identity. -/
def carries (frames : Array Descriptor) (block : BlockId) (index : Nat) : Bool :=
  frames[index]?.any fun descriptor => descriptor.block == some block

/-- The first of the frames that carry a block identity without a gap up to
`index`. -/
def blockStart (frames : Array Descriptor) (block : BlockId) : (index : Nat) → Nat
  | 0 => 0
  | index + 1 =>
    if carries frames block index then blockStart frames block index else index + 1

/-- Whether the frame before `index` carries a block identity. -/
def continues (frames : Array Descriptor) (block : BlockId) : (index : Nat) → Bool
  | 0 => false
  | index + 1 => carries frames block index

/-! ## What is read after a run was overwritten -/

@[simp]
theorem size_fill (descriptor : Descriptor) (frames : Array Descriptor) (start n : Nat) :
    (fill descriptor frames start n).size = frames.size := by
  induction n generalizing frames start with
  | zero => rfl
  | succ n ih => simp [fill, ih]

theorem getElem?_fill (descriptor : Descriptor) (frames : Array Descriptor) (start n i : Nat) :
    (fill descriptor frames start n)[i]? =
      if start ≤ i ∧ i < start + n ∧ i < frames.size then some descriptor else frames[i]? := by
  induction n generalizing frames start with
  | zero => rw [fill, if_neg (by omega)]
  | succ n ih =>
    rw [fill, ih, Array.getElem?_setIfInBounds, Array.size_setIfInBounds]
    by_cases later : start + 1 ≤ i ∧ i < start + 1 + n ∧ i < frames.size
    · rw [if_pos later, if_pos (by omega)]
    · rw [if_neg later]
      by_cases first : start = i
      · subst first
        by_cases within : start < frames.size
        · simp [within]
        · simp [within]
      · rw [if_neg first, if_neg (by omega)]

end PagedMemory.Coremap
