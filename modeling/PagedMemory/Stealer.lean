import PagedMemory.Coremap.Reservation

/-!
# Stealing RAM at boot

Before there is an allocator the kernel takes pages off the front of free RAM
and never returns them. A request is granted if the taken pages end at or before
the end of RAM. Every number on the way to this comparison is a 32-bit word, and
a request for which one of them would not fit is refused as well. A refused
request changes nothing.
-/

namespace PagedMemory

/-- The RAM that is left to steal from. -/
structure Stealer where
  remaining : RamLayout
deriving DecidableEq

namespace Stealer

/-- `n`, if it fits in 32 bits. -/
def word? (n : Nat) : Option Nat :=
  if n < 0x100000000 then some n else none

/-- The first frame and the new front of free RAM if `pages` pages are taken. -/
def grant? (stealer : Stealer) (pages : Nat) : Option (Frame × PhysAddr) := do
  guard (pages ≠ 0)
  let base ← stealer.remaining.firstFree.alignUp
  let count ← word? pages
  let bytes ← word? (count * 4096)
  let stop ← base.add? bytes
  guard (stop.toNat ≤ stealer.remaining.lastAddr.toNat)
  return (base.page, stop)

/-- Take `pages` adjacent pages and answer the first, if that many are left. -/
def steal (stealer : Stealer) (pages : Nat) : Option Frame × Stealer :=
  match stealer.grant? pages with
  | some (frame, stop) => (some frame, ⟨{ stealer.remaining with firstFree := stop }⟩)
  | none => (none, stealer)

end Stealer

end PagedMemory
