import PagedMemory.Address

/-!
# What the kernel reserves at boot

The descriptors of all frames are kept in RAM, right behind the memory that the
kernel has occupied so far. A reservation says where they lie. It covers the
occupied frames and the frames that hold the descriptors, and is of use only if
it leaves a frame to allocate.
-/

namespace PagedMemory

/-- The physical memory handed to the memory system at boot. -/
structure RamLayout where
  /-- Everything below is occupied by the kernel. -/
  firstFree : PhysAddr
  /-- Where RAM ends. -/
  lastAddr : PhysAddr
deriving DecidableEq

/-- How many whole frames lie below the end of RAM. -/
def RamLayout.frameCount (layout : RamLayout) : Nat :=
  layout.lastAddr.toNat / 4096

/-- Where the descriptors of all frames are kept. -/
structure Reservation where
  /-- How many frames are described. -/
  frameCount : Nat
  /-- Where the first descriptor lies. -/
  storage : PhysAddr
deriving DecidableEq

namespace Reservation

/-- Bytes of RAM that one descriptor takes. -/
abbrev descriptorSize : Nat := 40

/-- Where the descriptor of frame `i` lies. -/
def descriptorAddr (reservation : Reservation) (i : Nat) : Nat :=
  reservation.storage.toNat + descriptorSize * i

/-- How many frames hold descriptors. -/
def storagePages (reservation : Reservation) : Nat :=
  (reservation.frameCount * descriptorSize + 4095) / 4096

/-- The number of the first frame past the reservation. -/
def firstAllocatable (reservation : Reservation) : Nat :=
  reservation.storage.page.number + reservation.storagePages

/-- Whether a frame is left to allocate. -/
def leavesRoom (reservation : Reservation) : Bool :=
  reservation.firstAllocatable < reservation.frameCount

theorem leavesRoom_iff {reservation : Reservation} :
    reservation.leavesRoom = true ↔ reservation.firstAllocatable < reservation.frameCount :=
  decide_eq_true_iff

end Reservation

/-- The reservation for a layout; `none` if no page boundary follows what is
occupied. -/
def RamLayout.reservation? (layout : RamLayout) : Option Reservation :=
  layout.firstFree.alignUp.map fun storage => ⟨layout.frameCount, storage⟩

end PagedMemory
