import PagedMemory.Address.Text
import PagedMemory.Frames.Source
import PagedMemory.Segment

/-!
# Address spaces

The layout of one process: its page directory, at most two static regions, the
mark where its heap begins, and its stack. The tables themselves lie in RAM;
a space only knows the frame of its directory.
-/

namespace PagedMemory

/-- The first page of every user stack. -/
def stackBase : VirtPage :=
  .ofNumber (Layout.userStack / Layout.pageSize - Layout.stackPages)

/-! ## Regions -/

/-- What a loader asks to be permitted in a region. It is recorded and not
enforced. -/
structure RegionFlags where
  bits : UInt8
deriving DecidableEq

namespace RegionFlags

/-- The flags with the given permissions. -/
def ofBools (readable writeable executable : Bool) : RegionFlags :=
  ⟨UInt8.ofNat (readable.toNat + 2 * writeable.toNat + 4 * executable.toNat)⟩

/-- Bit 0: loads are permitted. -/
def readable (flags : RegionFlags) : Bool :=
  flags.bits.toNat % 2 == 1

/-- Bit 1: stores are permitted. -/
def writeable (flags : RegionFlags) : Bool :=
  flags.bits.toNat / 2 % 2 == 1

/-- Bit 2: instructions may be fetched. -/
def executable (flags : RegionFlags) : Bool :=
  flags.bits.toNat / 4 % 2 == 1

end RegionFlags

/-- A static region. -/
structure Region where
  /-- The first page. -/
  page : VirtPage
  /-- How many pages there are. -/
  pages : Nat
  flags : RegionFlags
  /-- The first frame of the block that backs the region, once there is one. -/
  backing : Option Frame
deriving DecidableEq

namespace Region

/-- The segment of a region that is backed. -/
def segment? (region : Region) : Option Segment :=
  region.backing.map fun frame => ⟨region.page, frame, region.pages⟩

/-- Whether a region shares a page with the pages `first ≤ p < last`. -/
def overlaps (region : Region) (first last : VirtPage) : Bool :=
  region.page.number < last.number && first.number < (region.page.plus region.pages).number

/-- The region as it is inherited by a copy, which backs it anew. -/
def unbacked (region : Region) : Region :=
  { region with backing := none }

end Region

/-! ## Spaces -/

/-- Where the heap of a space begins and ends. -/
structure Heap where
  start : VirtAddr
  stop : VirtAddr
deriving DecidableEq

/-- An address space. -/
structure AddressSpace where
  id : SpaceId
  /-- The frame of the page directory. -/
  directory : Frame
  /-- The regions in the order of their definition. -/
  regions : List Region
  heap : Option Heap
  /-- The first frame of the stack's block, once there is one. -/
  stack : Option Frame
  /-- Whether every region and the stack are backed and mapped. -/
  loaded : Bool
deriving DecidableEq

/-- Why an operation on a space was refused. -/
inductive SpaceError where
  | outOfMemory (e : OutOfMemory)
  | tooManyRegions
  | invalidRegion (address : VirtAddr) (size : Nat)
  | alreadyLoaded
deriving DecidableEq

namespace SpaceError

/-- The words of the error. -/
def message : SpaceError → String
  | .outOfMemory e => e.message
  | .tooManyRegions => "address space already defines two regions"
  | .invalidRegion address size =>
    s!"region at {address} of {size} bytes does not fit in user space"
  | .alreadyLoaded => "address space is already loaded"

/-- The number of the error. -/
def errno : SpaceError → Nat
  | .outOfMemory e => e.errno
  | .tooManyRegions => Layout.notImplemented
  | .invalidRegion _ _ | .alreadyLoaded => Layout.invalidArgument

end SpaceError

namespace AddressSpace

variable {ε : Type}

/-- A space without regions, stack or mappings. -/
def empty (id : SpaceId) (directory : Frame) : AddressSpace :=
  ⟨id, directory, [], none, none, false⟩

/-- The owner of the frames of a space. -/
def owner (space : AddressSpace) : Owner :=
  .space space.id

/-- The segments of a space: what is backed of its regions and its stack. -/
def segments (space : AddressSpace) : SegmentTable where
  first := space.regions[0]?.bind Region.segment?
  second := space.regions[1]?.bind Region.segment?
  stack := space.stack.map fun frame => ⟨stackBase, frame, Layout.stackPages⟩

/-- Where the stack pointer of a new process starts. The stack has to have a
block. -/
def stackPointer (space : AddressSpace) : Except Panic VirtAddr :=
  if space.stack.isSome then .ok (.ofNat Layout.userStack) else .error .stackBeforeLoad

/-- The space that a copy starts from: the same regions and heap, and nothing
backed. -/
def inherit (child parent : AddressSpace) : AddressSpace :=
  { child with regions := parent.regions.map Region.unbacked, heap := parent.heap }

/-! ## Defining regions -/

/-- The end of the pages that `size` bytes at `address` touch, if these bytes
are not empty and end below the stack. -/
def regionEnd? (address : VirtAddr) (size : Nat) : Option VirtAddr := do
  let stop ← (← address.add? size).alignUp
  guard (size ≠ 0 ∧ stop.toNat ≤ stackBase.base.toNat)
  return stop

/-- Define the next region: the pages that `size` bytes at `address` touch. The
second region fixes the heap to begin behind it. -/
def define (address : VirtAddr) (size : Nat) (flags : RegionFlags) :
    Operation SpaceError AddressSpace Unit := do
  let space ← Operation.read fun space => space
  let name := space.id
  let slot := space.regions.length
  if space.loaded then Operation.fail .alreadyLoaded
  else if Layout.maxRegions ≤ slot then
    Operation.log .warn s!"{name}: rejecting third region at {address}"
    Operation.fail .tooManyRegions
  else
    match regionEnd? address size with
    | none => Operation.fail (.invalidRegion address size)
    | some stop =>
      let first := address.page
      let pages := stop.page.number - first.number
      if space.regions.any fun region => region.overlaps first stop.page then
        Operation.log .warn s!"{name}: region at {address} overlaps an existing region"
        Operation.fail (.invalidRegion address size)
      else
        Operation.change fun space =>
          { space with
            regions := space.regions ++ [⟨first, pages, flags, none⟩]
            heap := if slot + 1 = Layout.maxRegions then some ⟨stop, stop⟩ else space.heap }
        Operation.log .debug s!"{name}: region {slot} at {first}, {pages} pages"

end AddressSpace

end PagedMemory
