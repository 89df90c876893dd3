import PagedMemory.Paging.Tables
import PagedMemory.Space.Basic

/-!
# The memory that spaces are built in

Operations on spaces need a supply of frames, the RAM that those frames are,
and the counter that names new spaces. This module lifts operations on each of
the three, and on a space that is being built, to the memory as a whole.
-/

namespace PagedMemory

/-- Frames from a source in state `σ`, the RAM behind them, and the next space
identity. -/
structure Memory (σ : Type) where
  frames : σ
  ram : Ram
  nextSpace : SpaceId
deriving DecidableEq

namespace Memory

variable {ε σ α : Type}

/-- Run an operation on the RAM. -/
def onRam (op : Operation ε Ram α) : Operation ε (Memory σ) α :=
  op.onPart (fun memory => (memory.ram, (memory.frames, memory.nextSpace)))
    fun ram rest => ⟨rest.1, ram, rest.2⟩

/-- Run an operation on the frame source. -/
def onFrames (op : Operation ε σ α) : Operation ε (Memory σ) α :=
  op.onPart (fun memory => (memory.frames, (memory.ram, memory.nextSpace)))
    fun frames rest => ⟨frames, rest.1, rest.2⟩

/-- Name a new space. -/
def drawSpace : Operation ε (Memory σ) SpaceId := fun memory =>
  ⟨.value memory.nextSpace, { memory with nextSpace := memory.nextSpace.succ }, []⟩

/-! ## Frames for a space -/

/-- Take a block of adjacent frames. -/
def allocate (source : FrameSource σ) (count : Nat) (owner : Owner) :
    Operation SpaceError (Memory σ) Frame :=
  onFrames ((source.allocate count owner).mapError .outOfMemory)

/-- Take a single frame. -/
def allocateSingle (source : FrameSource σ) (owner : Owner) :
    Operation SpaceError (Memory σ) Frame :=
  onFrames ((source.allocateSingle owner).mapError .outOfMemory)

/-- Give a block back. -/
def free (source : FrameSource σ) (base : Frame) : Operation ε (Memory σ) Unit :=
  onFrames ((source.free base).mapError Empty.elim)

/-- Give a single frame back. -/
def freeSingle (source : FrameSource σ) (frame : Frame) : Operation ε (Memory σ) Unit :=
  onFrames ((source.freeSingle frame).mapError Empty.elim)

end Memory

/-- A space while it is being changed, in the memory that it is built in. -/
structure Building (σ : Type) where
  memory : Memory σ
  space : AddressSpace
deriving DecidableEq

namespace Building

variable {ε ε' σ α : Type}

/-- Run an operation on the memory, given the space as it is now. -/
def inMemory (op : AddressSpace → Operation ε (Memory σ) α) : Operation ε (Building σ) α :=
  fun building =>
    match building with
    | ⟨memory, space⟩ =>
      match op space memory with
      | ⟨result, memory, shown⟩ => ⟨result, ⟨memory, space⟩, shown⟩

/-- Change the space. -/
def updateSpace (step : AddressSpace → AddressSpace) : Operation ε (Building σ) Unit :=
  Operation.change fun building => { building with space := step building.space }

/-- Run an operation on a space that exists only for its duration, and answer
how it went together with the space as it is then. -/
def around (space : AddressSpace) (op : Operation ε (Building σ) α) :
    Operation ε' (Memory σ) (Except ε α × AddressSpace) := fun memory =>
  match op ⟨memory, space⟩ with
  | ⟨.value a, ⟨memory, space⟩, shown⟩ => ⟨.value (.ok a, space), memory, shown⟩
  | ⟨.error e, ⟨memory, space⟩, shown⟩ => ⟨.value (.error e, space), memory, shown⟩
  | ⟨.panic cause, ⟨memory, _⟩, shown⟩ => ⟨.panic cause, memory, shown⟩

end Building

end PagedMemory
