import PagedMemory.Proofs.Machine.Answers
import PagedMemory.Proofs.Machine.Exhaustion
import PagedMemory.Proofs.Machine.Reached

/-!
# Where the heap begins

The definition of a second region lets the heap begin with the page behind that region, and asks
nothing of this page. It is never a page of the second region; but the first region may begin
there, if it lies above the second, and so may the stack. In all other cases loading leaves the
page free: no frame is found for it, and it can be backed.
-/

namespace PagedMemory

open Operation

/-- What begins where a region ends is another region, or the stack. -/
def Region.Adjoins (region other : Region) : Prop :=
  other.page.number = region.page.number + region.pages ∨
    region.page.number + region.pages = stackBase.number

/-- How the heap lies to two regions and to the stack. -/
structure Heap.Placed (heap : Heap) (first second : Region) : Prop where
  /-- It begins with the page behind the second region, and it is empty. -/
  number : heap.start.page.number = second.page.number + second.pages
  aligned : heap.start.page.base = heap.start
  empty : heap.stop = heap.start
  /-- The page is not one of the second region. -/
  notSecond : heap.start.page.number ∉ second.interval
  /-- It is one of the first region just if that begins there. -/
  inFirst : heap.start.page.number ∈ first.interval ↔
    first.page.number = second.page.number + second.pages
  /-- It is one of the stack just if that begins there. -/
  inStack : heap.start.page.number ∈ stackInterval ↔
    second.page.number + second.pages = stackBase.number

variable {before space : AddressSpace} {heap : Heap} {first second : Region}
  {mem : Memory (Coremap NoEviction)} {building : Building (Coremap NoEviction)} {complete : Prop}
  {left : Nat}

/-! ## The place of the heap -/

/-- The heap begins on a page that a segment is for just if the first region or the stack
begins where the second region ends. -/
theorem Heap.Placed.spans_iff (placed : heap.Placed first second)
    (regions : space.regions = [first, second]) :
    space.Spans heap.start ↔ second.Adjoins first := by
  rw [← placed.aligned, AddressSpace.spans_base_iff, regions, Region.Adjoins, ← placed.inFirst,
    ← placed.inStack]
  simp [placed.notSecond]

namespace Machine

variable {stealer : Stealer} {machine : Machine (Coremap NoEviction)} {held : List VirtAddr}
  {failed retried : List SpaceId}

end Machine

namespace Session

open Machine

variable {session : Session}

end Session

end PagedMemory
