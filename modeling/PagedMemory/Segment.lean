import PagedMemory.Address.Checked

/-!
# Segments

A segment is a run of virtual pages that lies linearly on a run of frames. The
segments of a space are few and fixed once it is loaded, so that an address
inside them is translated by arithmetic alone.
-/

namespace PagedMemory

/-- Consecutive pages on consecutive frames. -/
structure Segment where
  /-- The first page. -/
  page : VirtPage
  /-- The frame of the first page. -/
  frame : Frame
  /-- How many pages there are. -/
  pages : Nat
deriving DecidableEq

namespace Segment

/-- Whether an address lies on one of the segment's pages. -/
def contains (segment : Segment) (address : VirtAddr) : Bool :=
  segment.page.base.toNat ≤ address.toNat &&
    (address.toNat - segment.page.base.toNat) / 4096 < segment.pages

/-- Whether a frame is one of the segment's. -/
def backs (segment : Segment) (frame : Frame) : Bool :=
  segment.frame.number ≤ frame.number && frame.number - segment.frame.number < segment.pages

/-- The physical address of an address that the segment contains. It has to lie
within 32 bits. -/
def translate (segment : Segment) (address : VirtAddr) : Except Panic (Option PhysAddr) :=
  if segment.contains address then
    (segment.frame.base.add (address.toNat - segment.page.base.toNat)).map some
  else .ok none

end Segment

/-- The segments of a space. -/
structure SegmentTable where
  /-- The first static region. -/
  first : Option Segment
  /-- The second static region. -/
  second : Option Segment
  /-- The stack. -/
  stack : Option Segment
deriving DecidableEq

namespace SegmentTable

/-- The segments that there are: the regions in order, then the stack. -/
def toList (table : SegmentTable) : List Segment :=
  [table.first, table.second, table.stack].filterMap id

/-- The first segment that contains an address. -/
def find? (table : SegmentTable) (address : VirtAddr) : Option Segment :=
  table.toList.find? fun segment => segment.contains address

/-- The physical address that the first segment containing an address gives it. -/
def translate (table : SegmentTable) (address : VirtAddr) : Except Panic (Option PhysAddr) :=
  match table.find? address with
  | some segment => segment.translate address
  | none => .ok none

/-- Whether a frame belongs to one of the segments. -/
def backs (table : SegmentTable) (frame : Frame) : Bool :=
  table.toList.any fun segment => segment.backs frame

end SegmentTable

end PagedMemory
