import PagedMemory.Coremap.Basic

/-!
# The descriptors in RAM

The descriptors that a coremap works with are kept in the RAM that it describes, one after
another from the start of its reservation. How a descriptor is laid out in its bytes is
open; how many bytes it takes is not.
-/

namespace PagedMemory

/-- How descriptors are laid out in RAM. -/
structure Encoding where
  bytes : Descriptor → List UInt8
  length_bytes : ∀ descriptor, (bytes descriptor).length = Reservation.descriptorSize

/-- RAM with descriptors written one after another, the first of them for frame `i`. -/
def Reservation.store (reservation : Reservation) (encoding : Encoding) :
    Nat → List Descriptor → Ram → Ram
  | _, [], ram => ram
  | i, descriptor :: rest, ram =>
    reservation.store encoding (i + 1) rest
      (ram.splice (reservation.descriptorAddr i) (encoding.bytes descriptor))

/-- Build the coremap for a layout, and write its descriptors where the reservation keeps
them. -/
def Coremap.bootstrapStoring {π : Type} (encoding : Encoding) (layout : RamLayout) (policy : π) :
    Operation CoremapTooLarge Ram (Coremap π) := do
  let coremap ← bootstrap layout policy
  Operation.change (coremap.reservation.store encoding 0 coremap.frames.toList)
  return coremap

end PagedMemory
