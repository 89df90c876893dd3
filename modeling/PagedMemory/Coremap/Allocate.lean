import PagedMemory.Coremap.Search
import PagedMemory.Frames.Source

/-!
# Allocation and release

An allocation draws a block identity in one critical section and searches and
claims its frames in another; a release is a third. A run is found usable and
claimed under the same lock, so two allocations never receive the same frame.
Frames that a policy gives up are taken as whole blocks. A release is exact: it
takes the first frame of a block or has no effect.
-/

namespace PagedMemory.Coremap

variable {ε π : Type}

/-! ## Critical sections -/

/-- Draw the identity of a new block. -/
def drawBlock : Operation ε (Coremap π) BlockId := fun coremap =>
  ⟨.value coremap.nextBlock, { coremap with nextBlock := coremap.nextBlock.succ }, []⟩

/-- Find `wanted` usable frames in a row, from the cursor on. -/
def search [EvictionPolicy π] (wanted : Nat) : Operation ε (Coremap π) (Option Nat) :=
  fun coremap =>
    match findRunFrom coremap.frames coremap.cursor wanted coremap.policy with
    | (base, policy) => ⟨.value base, { coremap with policy := policy }, []⟩

/-- Tell the policy that a block is taken. -/
def surrender [EvictionPolicy π] (base : Frame) (size : Nat) (victim : Descriptor) :
    Operation ε (Coremap π) Unit := fun coremap =>
  match EvictionPolicy.evict coremap.policy base size victim with
  | (.ok _, policy) =>
    ⟨.value (), { coremap with policy := policy }, [.evicted base size victim]⟩
  | (.error cause, policy) =>
    ⟨.panic cause, { coremap with policy := policy }, [.evicted base size victim]⟩

/-- Mark `size` frames from `index` on free, one after the other, each of which
has to carry the identity of the block at `base`. -/
def vacateFrom (base : Frame) (block : BlockId) : (size index : Nat) → Operation ε (Coremap π) Unit
  | 0, _ => pure ()
  | size + 1, index => do
    let carried ← Operation.read fun coremap => carries coremap.frames block index
    Operation.require carried (.tornBlock base block)
    Operation.change fun coremap =>
      { coremap with frames := coremap.frames.setIfInBounds index .free }
    vacateFrom base block size (index + 1)

/-- Mark the `size` frames of a block free, all of which have to lie in RAM. -/
def vacate (base : Frame) (block : BlockId) (size : Nat) : Operation ε (Coremap π) Unit := do
  let count ← Operation.read fun coremap => coremap.frames.size
  Operation.require (base.number + size ≤ count) (.rangeOutOfBounds count (base.number + size))
  vacateFrom base block size base.number

/-- Take the whole block of which the frame `index` is part. The answer is the
index just past the block. -/
def evictBlock [EvictionPolicy π] (index : Nat) (owner : Owner) (block : BlockId) (size : Nat) :
    Operation ε (Coremap π) Nat := do
  let start ← Operation.read fun coremap => blockStart coremap.frames block index
  let base : Frame := .ofNumber start
  surrender base size (.inUse owner block size)
  vacate base block size
  Operation.log .debug s!"coremap: evicted {size} frames at {base} from Some({owner})"
  return start + size

/-- Take every block that meets the frames from `index` up to `stop`, in no more
than `fuel` steps. -/
def evictRun [EvictionPolicy π] (stop : Nat) : (fuel index : Nat) → Operation ε (Coremap π) Unit
  | 0, _ => pure ()
  | fuel + 1, index =>
    if index < stop then do
      match ← Operation.read fun coremap => coremap.frames[index]? with
      | some (.inUse owner block size) => evictRun stop fuel (← evictBlock index owner block size)
      | _ => evictRun stop fuel (index + 1)
    else pure ()

/-- How many steps are enough to clear the frames before `stop` if `count` are
described. A step passes a frame, or it frees one and may then go on anywhere. -/
def clearingSteps (count stop : Nat) : Nat :=
  (count + 1) * (stop + 1)

/-- Mark the `size` frames from `start` on as one block and move the cursor to
the next free frame behind it. -/
def occupy (start size : Nat) (owner : Owner) (block : BlockId) : Operation ε (Coremap π) Unit :=
  Operation.change fun coremap =>
    let frames := fill (.inUse owner block size) coremap.frames start size
    let cursor := nextFree frames (start + size)
    { coremap with frames := frames, cursor := cursor }

/-- Search and claim a run of `wanted` frames. -/
def claim [EvictionPolicy π] (wanted : Nat) (owner : Owner) (block : BlockId) :
    Operation ε (Coremap π) (Option Frame) := do
  match ← search wanted with
  | none => return none
  | some start => do
    let count ← Operation.read fun coremap => coremap.frames.size
    evictRun (start + wanted) (clearingSteps count (start + wanted)) start
    occupy start wanted owner block
    return some (.ofNumber start)

/-- Take back the block that begins with a frame and move the cursor there; if
`single`, only a block of one frame. The answer is the size of the block. -/
def reclaim (base : Frame) (single : Bool) : Operation ε (Coremap π) Nat := do
  match ← Operation.read fun coremap => coremap.frames[base.number]? with
  | none => Operation.abort (.freePastEnd base)
  | some (.inUse _ block size) => do
    Operation.require (!single || size == 1) (.singleFreeOfBlock base size)
    let inside ← Operation.read fun coremap => continues coremap.frames block base.number
    Operation.require (!inside) (.freeInsideBlock base block)
    vacate base block size
    Operation.change fun coremap => { coremap with cursor := base.number }
    return size
  | some _ => Operation.abort (.freeUnallocated base)

/-! ## Whole calls -/

/-- Allocate `wanted` adjacent frames as one block and answer the first. -/
def allocate [EvictionPolicy π] (context : Option Context) (wanted : Nat) (owner : Owner) :
    Operation OutOfMemory (Coremap π) Frame := do
  Operation.require (wanted != 0) .zeroFrames
  let block ← holding context .identity drawBlock
  match ← holdingCursorAndFrames context (claim wanted owner block) with
  | some base =>
    Operation.log .debug s!"coremap: {wanted} frames at {base} as {block} for {owner}"
    return base
  | none =>
    Operation.log .warn s!"coremap: no run of {wanted} frames for {owner}"
    Operation.fail ⟨wanted⟩

/-- Release the block that begins with a frame; if `single`, only a block of one
frame. -/
def releaseBlock (context : Option Context) (base : Frame) (single : Bool) :
    Operation ε (Coremap π) Unit := do
  let size ← holdingCursorAndFrames context (reclaim base single)
  Operation.log .debug s!"coremap: freed {size} frames at {base}"

/-- The coremap as a frame source for a thread. -/
def source [EvictionPolicy π] (context : Option Context) : FrameSource (Coremap π) where
  allocate wanted owner := allocate context wanted owner
  allocateSingle owner := allocate context 1 owner
  free base := releaseBlock context base false
  freeSingle frame := releaseBlock context frame true

end PagedMemory.Coremap
