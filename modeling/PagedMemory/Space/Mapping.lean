import PagedMemory.Space.Memory

/-!
# Mapping pages

Creating a space, walking and extending its tables, and backing single pages.
A table entry is written only after the frame that it names was obtained and
cleared, so a failure leaves no entry behind, and a page that could not be
mapped gives its frame back.
-/

namespace PagedMemory.AddressSpace

variable {ε σ : Type}

/-- Create an empty space with a cleared directory. The identity is used up
even if no frame is left. -/
def create (source : FrameSource σ) : Operation SpaceError (Memory σ) AddressSpace := do
  let id ← Memory.drawSpace
  let directory ← Memory.allocateSingle source (.space id)
  Memory.onRam (Ram.zeroFrame directory)
  Operation.log .trace s!"{id}: page directory at {directory}"
  return empty id directory

/-- The frame that `address` is mapped to. -/
def lookup (space : AddressSpace) (address : VirtAddr) : Operation ε Ram (Option Frame) :=
  Ram.resolve space.directory address

/-- The physical address that the tables give for `address`. -/
def translate (space : AddressSpace) (address : VirtAddr) : Operation ε Ram (Option PhysAddr) := do
  return (← space.lookup address).map fun frame => frame.join address.offset

/-- The second-level table that covers `address`; a missing one is created. -/
def ensureTable (source : FrameSource σ) (space : AddressSpace) (address : VirtAddr) :
    Operation SpaceError (Memory σ) Frame := do
  match ← Memory.onRam (Ram.walk space.directory address) with
  | some table => return table
  | none => do
    let table ← Memory.allocateSingle source space.owner
    Memory.onRam (Ram.zeroFrame table)
    Memory.onRam (Ram.writeDirectory space.directory (.ofAddr address) (.table table))
    let id := space.id
    Operation.log .trace s!"{id}: table for {address} at {table}"
    return table

/-- The second-level table that covers `address`, created on demand if
`create`. -/
def walk (source : FrameSource σ) (space : AddressSpace) (address : VirtAddr) (create : Bool) :
    Operation SpaceError (Memory σ) (Option Frame) := do
  if create then return some (← ensureTable source space address)
  else Memory.onRam (Ram.walk space.directory address)

/-- Map a page that is not mapped yet. -/
def mapPage (source : FrameSource σ) (space : AddressSpace) (page : VirtPage) (frame : Frame) :
    Operation SpaceError (Memory σ) Unit := do
  let table ← ensureTable source space page.base
  let entry ← Memory.onRam (Ram.readTable table (.ofPage page))
  Operation.require (!entry.isPresent) (.alreadyMapped page)
  Memory.onRam (Ram.writeTable table (.ofPage page) (.mapping frame))

/-- Clear the `pages` frames from `frame` on and map as many pages to them, from
`page` on, beginning `i` pages in. -/
def mapRun (source : FrameSource σ) (space : AddressSpace) (page : VirtPage) (frame : Frame)
    (i : Nat) : (pages : Nat) → Operation SpaceError (Memory σ) Unit
  | 0 => pure ()
  | pages + 1 => do
    Memory.onRam (Ram.zeroFrame (frame.plus i))
    mapPage source space (page.plus i) (frame.plus i)
    mapRun source space page frame (i + 1) pages

/-- Clear the `pages` frames of a block and map as many pages to them. -/
def mapBlock (source : FrameSource σ) (space : AddressSpace) (page : VirtPage) (frame : Frame)
    (pages : Nat) : Operation SpaceError (Memory σ) Unit :=
  mapRun source space page frame 0 pages

/-- Back the page of `address` with a cleared frame of its own. -/
def materialize (source : FrameSource σ) (space : AddressSpace) (address : VirtAddr) :
    Operation SpaceError (Memory σ) Frame := do
  let frame ← Memory.allocateSingle source space.owner
  Memory.onRam (Ram.zeroFrame frame)
  let page := address.page
  match ← (mapPage source space page frame).attempt with
  | .error e => do
    Memory.freeSingle source frame
    Operation.fail e
  | .ok _ => do
    let id := space.id
    Operation.log .trace s!"{id}: {page} -> {frame}"
    return frame

end PagedMemory.AddressSpace
