import PagedMemory.Layout
import PagedMemory.Operation

/-!
# Frame sources

What the tables and pages of a space are made of comes from a frame source. It
hands frames out in two ways that are not to be mixed: as a block of adjacent
frames, returned by its first frame, or as a single frame.
-/

namespace PagedMemory

/-- No run of `requested` frames is left. -/
structure OutOfMemory where
  requested : Nat
deriving DecidableEq

namespace OutOfMemory

/-- The words of the error. -/
def message (e : OutOfMemory) : String :=
  let requested := e.requested
  s!"out of memory: no run of {requested} free frames"

/-- The number of the error. -/
def errno (_ : OutOfMemory) : Nat :=
  Layout.outOfMemory

end OutOfMemory

/-- A supply of frames with state `σ`. -/
structure FrameSource (σ : Type) where
  /-- Hand out adjacent frames as one block and answer the first. -/
  allocate : Nat → Owner → Operation OutOfMemory σ Frame
  /-- Hand out one frame. -/
  allocateSingle : Owner → Operation OutOfMemory σ Frame
  /-- Take back the block that begins with a frame. -/
  free : Frame → Operation Empty σ Unit
  /-- Take back a frame that was handed out alone. -/
  freeSingle : Frame → Operation Empty σ Unit

end PagedMemory
