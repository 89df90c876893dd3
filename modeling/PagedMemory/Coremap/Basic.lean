import PagedMemory.Coremap.Eviction
import PagedMemory.Coremap.Reservation
import PagedMemory.DirectMap
import PagedMemory.Lock.Sleep
import PagedMemory.Ram

/-!
# The coremap

One descriptor for every frame of RAM, a counter of block identities and a
cursor from which searches start, each behind a sleeping lock of its own. This
module holds the data, the locks, the construction at boot and the queries.
-/

namespace PagedMemory

/-- The sleeping locks of a coremap. -/
structure CoremapLocks where
  identity : SleepLock
  cursor : SleepLock
  frames : SleepLock
deriving DecidableEq

namespace CoremapLocks

/-- Locks that nobody holds. -/
def free : CoremapLocks := ⟨.free, .free, .free⟩

/-- One of the locks. -/
def get (locks : CoremapLocks) : CoremapLock → SleepLock
  | .identity => locks.identity
  | .cursor => locks.cursor
  | .frames => locks.frames

/-- The locks with one of them changed. -/
def set (locks : CoremapLocks) (which : CoremapLock) (lock : SleepLock) : CoremapLocks :=
  match which with
  | .identity => { locks with identity := lock }
  | .cursor => { locks with cursor := lock }
  | .frames => { locks with frames := lock }

end CoremapLocks

/-- The allocator of physical frames, with an eviction policy in state `π`. -/
structure Coremap (π : Type) where
  locks : CoremapLocks
  /-- The identity of the next allocation. -/
  nextBlock : BlockId
  /-- The frame from which the next search starts. -/
  cursor : Nat
  /-- What is recorded about each frame. -/
  frames : Array Descriptor
  policy : π
  /-- Where the descriptors lie in RAM. -/
  reservation : Reservation
deriving DecidableEq

/-- The descriptors would leave no frame to allocate. -/
structure CoremapTooLarge where
  frames : Nat
deriving DecidableEq

/-- How many frames are in each state. -/
structure FrameCounts where
  free : Nat
  fixed : Nat
  inUse : Nat
deriving DecidableEq

namespace Coremap

variable {ε π α : Type}

/-! ## Construction at boot -/

/-- The coremap after boot: whatever the reservation covers is reserved, all
else is free, and searches start behind it. -/
def initial (reservation : Reservation) (policy : π) : Coremap π where
  locks := .free
  nextBlock := BlockId.boot.succ
  cursor := reservation.firstAllocatable
  frames := Array.ofFn fun i : Fin reservation.frameCount =>
    if i.val < reservation.firstAllocatable then .fixed else .free
  policy := policy
  reservation := reservation

/-- Build the coremap for a layout. The first descriptor has to lie in RAM. -/
def bootstrap (layout : RamLayout) (policy : π) : Operation CoremapTooLarge Ram (Coremap π) := do
  Operation.require layout.lastAddr.isPageAligned (.endNotAligned layout.lastAddr)
  let count := layout.frameCount
  match layout.reservation? with
  | none => Operation.fail ⟨count⟩
  | some reservation =>
    let storage := reservation.storage
    if reservation.leavesRoom then
      Ram.allow storage Reservation.descriptorSize
      let pages := reservation.storagePages
      let first : Frame := .ofNumber reservation.firstAllocatable
      Operation.log .info (s!"coremap: {count} frames, {pages} descriptor pages at {storage}" ++
        s!", first allocatable {first}")
      return initial reservation policy
    else
      Operation.log .warn s!"coremap: {count} frames leave no room after {storage}"
      Operation.fail ⟨count⟩

/-! ## Locks -/

/-- Acquire one of the locks for the running thread. While another thread holds
it there is nothing to wait for, since one operation runs at a time. -/
def acquire (context : Option Context) (which : CoremapLock) : Operation ε (Coremap π) Unit :=
  fun coremap =>
    match (coremap.locks.get which).acquirer context with
    | .error cause => ⟨.panic cause, coremap, []⟩
    | .ok thread =>
      match (coremap.locks.get which).claim thread with
      | some lock =>
        ⟨.value (), { coremap with locks := coremap.locks.set which lock }, [.acquired which]⟩
      | none => ⟨.panic .scriptExhausted, coremap, [.yielded]⟩

/-- Release one of the locks. -/
def release (context : Option Context) (which : CoremapLock) : Operation Empty (Coremap π) Unit :=
  fun coremap =>
    match (coremap.locks.get which).release context with
    | .error cause => ⟨.panic cause, coremap, []⟩
    | .ok lock =>
      ⟨.value (), { coremap with locks := coremap.locks.set which lock }, [.released which]⟩

/-- Run `body` with one of the locks held, and release it however `body` ends. -/
def holding (context : Option Context) (which : CoremapLock) (body : Operation ε (Coremap π) α) :
    Operation ε (Coremap π) α := do
  acquire context which
  body.ensuring (release context which)

/-- Run `body` with the cursor and the descriptors locked, in this order. -/
def holdingCursorAndFrames (context : Option Context) (body : Operation ε (Coremap π) α) :
    Operation ε (Coremap π) α :=
  holding context .cursor (holding context .frames body)

/-! ## Queries -/

/-- How many frames of each state there are among some descriptors. -/
def countStates (frames : Array Descriptor) : FrameCounts :=
  frames.foldl (fun counts descriptor =>
    match descriptor with
    | .free => { counts with free := counts.free + 1 }
    | .fixed => { counts with fixed := counts.fixed + 1 }
    | .inUse .. => { counts with inUse := counts.inUse + 1 }) ⟨0, 0, 0⟩

/-- How many frames among some descriptors are in use for an owner. -/
def countHeldBy (frames : Array Descriptor) (owner : Owner) : Nat :=
  frames.countP fun descriptor => descriptor.isHeldBy owner

/-- Look at the descriptors while they are locked. -/
def inspect (context : Option Context) (look : Array Descriptor → α) :
    Operation ε (Coremap π) α :=
  holding context .frames (Operation.read fun coremap => look coremap.frames)

/-- How many frames are described. -/
def frameCount (context : Option Context) : Operation ε (Coremap π) Nat :=
  inspect context Array.size

/-- What is recorded about a frame; `none` past the end of RAM. -/
def descriptor (context : Option Context) (frame : Frame) :
    Operation ε (Coremap π) (Option Descriptor) :=
  inspect context fun frames => frames[frame.number]?

/-- The frame behind a kernel address, with what is recorded about it; `none`
if the address is none of the direct map's or lies past the end of RAM. -/
def kernelFrame (context : Option Context) (address : VirtAddr) :
    Operation ε (Coremap π) (Option (Frame × Descriptor)) := do
  match Address.ofKernel address with
  | none => return none
  | some physical =>
    return (← descriptor context physical.page).map fun found => (physical.page, found)

/-- Whether a frame was reserved at boot. -/
def isFixed (context : Option Context) (frame : Frame) : Operation ε (Coremap π) Bool := do
  return (← descriptor context frame).any Descriptor.isFixed

/-- How many frames are in use for an owner. -/
def heldBy (context : Option Context) (owner : Owner) : Operation ε (Coremap π) Nat :=
  inspect context fun frames => countHeldBy frames owner

/-- How many frames are in each state. -/
def stats (context : Option Context) : Operation ε (Coremap π) FrameCounts :=
  inspect context countStates

end Coremap

end PagedMemory
