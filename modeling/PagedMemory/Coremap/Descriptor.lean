import PagedMemory.Owner

/-!
# Frame descriptors

What is recorded about one frame of RAM. A free or a reserved frame carries
nothing else, so no owner, block or size can outlive the allocation that it
described. The frames of one allocation carry one block identity.
-/

namespace PagedMemory

/-- The identity of one allocation. -/
structure BlockId where
  number : Nat
deriving DecidableEq

namespace BlockId

/-- The identity recorded on frames reserved at boot. -/
def boot : BlockId := ⟨0⟩

/-- The identity drawn after `id`; the counter has 32 bits and skips `boot`
when it starts over. -/
def succ (id : BlockId) : BlockId :=
  if id.number + 1 < 0x100000000 then ⟨id.number + 1⟩ else ⟨boot.number + 1⟩

instance : ToString BlockId where
  toString id := "blk#" ++ toString id.number

end BlockId

/-- What is recorded about one frame. -/
inductive Descriptor where
  /-- The frame can be allocated. -/
  | free
  /-- The frame was reserved at boot; it is never allocated and never freed. -/
  | fixed
  /-- The frame is one of the `size` frames of an allocation. -/
  | inUse (owner : Owner) (block : BlockId) (size : Nat)
deriving DecidableEq

namespace Descriptor

/-- Whether the frame can be allocated. -/
def isFree : Descriptor → Bool
  | .free => true
  | _ => false

/-- Whether the frame was reserved at boot. -/
def isFixed : Descriptor → Bool
  | .fixed => true
  | _ => false

/-- Whether the frame belongs to an allocation. -/
def isInUse : Descriptor → Bool
  | .inUse .. => true
  | _ => false

/-- Whoever the frame is recorded for; reserved frames are the kernel's. -/
def owner : Descriptor → Option Owner
  | .free => none
  | .fixed => some .kernel
  | .inUse owner _ _ => some owner

/-- The allocation that the frame is part of. -/
def block : Descriptor → Option BlockId
  | .free => none
  | .fixed => some .boot
  | .inUse _ block _ => some block

/-- How many frames were allocated together with this one. -/
def size : Descriptor → Option Nat
  | .inUse _ _ size => some size
  | _ => none

/-- Whether the frame is part of an allocation made for `owner`. -/
def isHeldBy (owner : Owner) : Descriptor → Bool
  | .inUse holder _ _ => holder == owner
  | _ => false

end Descriptor

end PagedMemory
