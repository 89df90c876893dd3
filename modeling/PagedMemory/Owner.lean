/-!
# Owners of frames

A frame belongs to the kernel or to one address space. Spaces are named by
numbers handed out in order, so that frame bookkeeping needs no reference to
the space itself.
-/

namespace PagedMemory

/-- The identity of an address space. -/
structure SpaceId where
  number : Nat
deriving DecidableEq

namespace SpaceId

/-- The identity handed out after `id`; the counter has 32 bits. -/
def succ (id : SpaceId) : SpaceId :=
  ⟨(id.number + 1) % 0x100000000⟩

instance : ToString SpaceId where
  toString id := "as#" ++ toString id.number

end SpaceId

/-- Who a frame is allocated to. -/
inductive Owner where
  /-- Kernel buffers, and what the kernel occupies from boot on. -/
  | kernel
  /-- The tables and pages of one space. -/
  | space (id : SpaceId)
deriving DecidableEq

instance : ToString Owner where
  toString
    | .kernel => "Kernel"
    | .space id => "Space(" ++ toString id ++ ")"

end PagedMemory
