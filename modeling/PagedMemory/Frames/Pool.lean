import PagedMemory.Frames.Source

/-!
# A plain pool of frames

The simplest frame source: it hands out the lowest run of frames that nobody
owns, and remembers for each frame by which way it was handed out, so that
mixing the two ways is noticed.
-/

namespace PagedMemory

/-- What the pool remembers about one frame. -/
structure PoolSlot where
  /-- The owner, while the frame is handed out. -/
  owner : Option Owner
  /-- The first frame of its block. -/
  base : Nat
  /-- How many frames its block has. -/
  size : Nat
  /-- Whether it was handed out alone. -/
  single : Bool
deriving DecidableEq

/-- A pool of frames, numbered from zero. -/
structure Pool where
  slots : Array PoolSlot
deriving DecidableEq

namespace PoolSlot

/-- A frame that nobody owns. -/
def vacant : PoolSlot := ⟨none, 0, 0, false⟩

/-- Whether nobody owns the frame. -/
def isVacant (slot : PoolSlot) : Bool :=
  slot.owner.isNone

end PoolSlot

namespace Pool

/-- A pool of `size` frames that nobody owns. -/
def vacant (size : Nat) : Pool :=
  ⟨Array.replicate size .vacant⟩

/-- How many frames the pool has. -/
def size (pool : Pool) : Nat :=
  pool.slots.size

/-- Whether the `n` frames from `i` on are all vacant. -/
def isVacantRun (pool : Pool) (i : Nat) : Nat → Bool
  | 0 => true
  | n + 1 =>
    match pool.slots[i]? with
    | some slot => slot.isVacant && pool.isVacantRun (i + 1) n
    | none => false

/-- The pool with the `n` slots from `i` on overwritten. -/
def fill (pool : Pool) (slot : PoolSlot) (i : Nat) : Nat → Pool
  | 0 => pool
  | n + 1 => fill ⟨pool.slots.setIfInBounds i slot⟩ slot (i + 1) n

/-- The pool with the first `n` frames given to the kernel. -/
def reserve (pool : Pool) (n : Nat) : Pool :=
  ⟨pool.slots.mapIdx fun i slot => if i < n then { slot with owner := some .kernel } else slot⟩

/-- Where the lowest vacant run of `n` frames begins. -/
def findRun (pool : Pool) (n : Nat) : Option Nat :=
  if n = 0 ∨ pool.size < n then none
  else (List.range (pool.size - n + 1)).find? fun i => pool.isVacantRun i n

/-- How many frames an owner holds. -/
def ownedBy (pool : Pool) (owner : Owner) : Nat :=
  pool.slots.countP fun slot => slot.owner == some owner

/-- How many frames are handed out or reserved. -/
def inUse (pool : Pool) : Nat :=
  pool.slots.countP fun slot => !slot.isVacant

variable {ε : Type}

/-- What is remembered about a frame, which has to be one of the pool's. -/
def slotOf (frame : Frame) : Operation ε Pool PoolSlot := fun pool =>
  match pool.slots[frame.number]? with
  | some slot => ⟨.value slot, pool, []⟩
  | none => ⟨.panic (.indexOutOfBounds pool.size frame.number), pool, []⟩

/-- Hand out `n` frames, recording whether they are handed out as a single
frame. -/
def take (n : Nat) (owner : Owner) (single : Bool) : Operation OutOfMemory Pool Frame := do
  match ← Operation.read fun pool => pool.findRun n with
  | none => Operation.fail ⟨n⟩
  | some start => do
    Operation.change fun pool => pool.fill ⟨some owner, start, n, single⟩ start n
    return .ofNumber start

/-- Take back the block that begins with a frame. -/
def free (base : Frame) : Operation ε Pool Unit := do
  let first ← slotOf base
  Operation.require (!first.isVacant && !first.single) (.poolFreeOfNoBlock base)
  Operation.require (first.base == base.number) (.poolFreeInsideBlock base)
  Operation.change fun pool => pool.fill .vacant base.number first.size

/-- Take back a frame that was handed out alone. -/
def freeSingle (frame : Frame) : Operation ε Pool Unit := do
  let slot ← slotOf frame
  Operation.require (!slot.isVacant && slot.single) (.poolFreeOfNoSingle frame)
  Operation.change fun pool => pool.fill .vacant frame.number 1

/-- The pool as a frame source. -/
def source : FrameSource Pool where
  allocate n owner := take n owner false
  allocateSingle owner := take 1 owner true
  free := free
  freeSingle := freeSingle

end Pool

end PagedMemory
