import PagedMemory.FrameSupply

/-!
# A running machine

Memory, the spaces that live in it, and two processors that share an interrupt
controller. Spaces are named by their identities. A space that is being loaded
keeps what it has got even if loading is ended by a panic; one that is being
destroyed is gone from the moment this begins.
-/

namespace PagedMemory

/-- The processors of the machine. -/
inductive CpuName where
  | first
  | second
deriving DecidableEq

/-- A machine whose frames come from a source in state `σ`. -/
structure Machine (σ : Type) where
  memory : Memory σ
  /-- The spaces that were not destroyed, oldest first. -/
  spaces : List AddressSpace
  interrupts : Interrupts
  firstTlb : Tlb
  secondTlb : Tlb
  /-- The running thread. -/
  context : Context
deriving DecidableEq

namespace Machine

variable {ε σ α : Type}

/-- A machine that has run nothing yet. -/
def initial (frames : σ) (ram : Ram) : Machine σ where
  memory := ⟨frames, ram, ⟨1⟩⟩
  spaces := []
  interrupts := ⟨true, Interrupts.unmasked⟩
  firstTlb := .idle Layout.tlbSlots
  secondTlb := .idle Layout.tlbSlots
  context := ⟨1, false⟩

/-! ## Parts of the machine -/

/-- Run an operation on the memory. -/
def onMemory (op : Operation ε (Memory σ) α) : Operation ε (Machine σ) α := fun machine =>
  match machine with
  | ⟨memory, spaces, interrupts, firstTlb, secondTlb, context⟩ =>
    match op memory with
    | ⟨result, memory, shown⟩ =>
      ⟨result, ⟨memory, spaces, interrupts, firstTlb, secondTlb, context⟩, shown⟩

/-- Run an operation on the RAM. -/
def onRam (op : Operation ε Ram α) : Operation ε (Machine σ) α :=
  onMemory (Memory.onRam op)

/-- The lookaside buffer of a processor. -/
def tlb (machine : Machine σ) : CpuName → Tlb
  | .first => machine.firstTlb
  | .second => machine.secondTlb

/-- Run an operation on a processor. -/
def onCpu (cpu : CpuName) (op : Operation ε Cpu α) : Operation ε (Machine σ) α := fun machine =>
  match op ⟨machine.interrupts, machine.tlb cpu⟩ with
  | ⟨result, ⟨interrupts, tlb⟩, shown⟩ =>
    match cpu with
    | .first => ⟨result, { machine with interrupts := interrupts, firstTlb := tlb }, shown⟩
    | .second => ⟨result, { machine with interrupts := interrupts, secondTlb := tlb }, shown⟩

/-- The space of a name. -/
def space? (machine : Machine σ) (id : SpaceId) : Option AddressSpace :=
  machine.spaces.find? fun space => space.id == id

/-- The space of a name, which has to exist. -/
def findSpace (id : SpaceId) : Operation ε (Machine σ) AddressSpace := fun machine =>
  match machine.space? id with
  | some space => ⟨.value space, machine, []⟩
  | none => ⟨.panic (.unknownSpace id), machine, []⟩

/-- Let a new space live in the machine. -/
def addSpace (space : AddressSpace) : Operation ε (Machine σ) Unit :=
  Operation.change fun machine => { machine with spaces := machine.spaces ++ [space] }

/-- Let a space live on as it is now. -/
def replaceSpace (space : AddressSpace) (machine : Machine σ) : Machine σ :=
  { machine with
    spaces := machine.spaces.map fun other => if other.id = space.id then space else other }

/-- Let a space be gone. -/
def dropSpace (id : SpaceId) : Operation ε (Machine σ) Unit :=
  Operation.change fun machine =>
    { machine with spaces := machine.spaces.filter fun space => space.id != id }

/-- Change a space together with the memory; both stay as they are when the
change ends, however it ends. -/
def build (id : SpaceId) (op : Operation ε (Building σ) α) : Operation ε (Machine σ) α :=
  fun machine =>
    match machine.space? id with
    | none => ⟨.panic (.unknownSpace id), machine, []⟩
    | some space =>
      match machine with
      | ⟨memory, spaces, interrupts, firstTlb, secondTlb, context⟩ =>
        match op ⟨memory, space⟩ with
        | ⟨result, ⟨memory, space⟩, shown⟩ =>
          ⟨result, replaceSpace space
            ⟨memory, spaces, interrupts, firstTlb, secondTlb, context⟩, shown⟩

/-! ## Spaces -/

/-- Create an empty space. -/
def create (source : FrameSource σ) : Operation SpaceError (Machine σ) AddressSpace := do
  let space ← onMemory (AddressSpace.create source)
  addSpace space
  return space

/-- Define a region of a space. -/
def define (id : SpaceId) (address : VirtAddr) (size : Nat) (flags : RegionFlags) :
    Operation SpaceError (Machine σ) Unit :=
  build id ((AddressSpace.define address size flags).onPart
    (fun building => (building.space, building.memory)) fun space memory => ⟨memory, space⟩)

/-- Back and map the regions and the stack of a space. -/
def prepareLoad (source : FrameSource σ) (id : SpaceId) : Operation SpaceError (Machine σ) Unit :=
  build id (AddressSpace.prepareLoad source)

/-- Find, and create on demand, the table of a space that covers an address. -/
def walk (source : FrameSource σ) (id : SpaceId) (address : VirtAddr) (create : Bool) :
    Operation SpaceError (Machine σ) (Option Frame) := do
  let space ← findSpace id
  onMemory (space.walk source address create)

/-- The frame that a space maps an address to. -/
def lookup (id : SpaceId) (address : VirtAddr) : Operation ε (Machine σ) (Option Frame) := do
  let space ← findSpace id
  onRam (space.lookup address)

/-- The physical address that a space gives an address. -/
def translate (id : SpaceId) (address : VirtAddr) :
    Operation ε (Machine σ) (Option PhysAddr) := do
  let space ← findSpace id
  onRam (space.translate address)

/-- Back the page of an address in a space with a frame of its own. -/
def materialize (source : FrameSource σ) (id : SpaceId) (address : VirtAddr) :
    Operation SpaceError (Machine σ) Frame := do
  let space ← findSpace id
  onMemory (space.materialize source address)

/-- Where the stack pointer of a process starts that runs in a space. -/
def stackPointer (id : SpaceId) : Operation ε (Machine σ) VirtAddr := do
  let space ← findSpace id
  Operation.ofExcept space.stackPointer

/-- Create a copy of a space. -/
def copy (source : FrameSource σ) (id : SpaceId) :
    Operation SpaceError (Machine σ) AddressSpace := do
  let parent ← findSpace id
  let child ← onMemory (parent.copy source)
  addSpace child
  return child

/-- Destroy a space. -/
def destroy (source : FrameSource σ) (id : SpaceId) : Operation ε (Machine σ) Unit := do
  let space ← findSpace id
  dropSpace id
  onMemory (space.destroy source)

/-! ## Processors -/

/-- Make a space current on a processor: nothing of another space is left
in its lookaside buffer. -/
def activate (id : SpaceId) (cpu : CpuName) : Operation ε (Machine σ) Unit := do
  let _ ← findSpace id
  onCpu cpu Cpu.flush

/-- What a thread is known by that runs in a space, or in none. -/
def faultContext (hasProcess : Bool) (id : Option SpaceId) :
    Operation ε (Machine σ) FaultContext := do
  match id with
  | none => return ⟨hasProcess, none⟩
  | some id => return ⟨hasProcess, some (← findSpace id).segments⟩

/-- Resolve a miss of a thread that runs in a space, or in none. -/
def handleFault (cpu : CpuName) (hasProcess : Bool) (id : Option SpaceId) (code : Nat)
    (address : VirtAddr) : Operation FaultError (Machine σ) Frame := do
  let context ← faultContext hasProcess id
  onCpu cpu (Cpu.handleFault context code address)

/-- Resolve a miss on behalf of the trap layer, and note a failure in the log. -/
def fault (cpu : CpuName) (hasProcess : Bool) (id : Option SpaceId) (code : Nat)
    (address : VirtAddr) : Operation VmError (Machine σ) Frame := do
  match ← (handleFault cpu hasProcess id code address).attempt with
  | .ok frame => return frame
  | .error e => do
    let reason := e.message
    Operation.log .debug s!"vm: fault type {code} at {address} failed: {reason}"
    Operation.fail (.fault e)

/-- Enter or leave an interrupt handler. -/
def setInterrupt (value : Bool) : Operation ε (Machine σ) Unit :=
  Operation.change fun machine =>
    { machine with context := { machine.context with inInterrupt := value } }

/-! ## Bytes of a program -/

/-- Read bytes of a space, all on the page of the first; `none` if it is not
mapped. -/
def readBytes (id : SpaceId) (address : VirtAddr) (length : Nat) :
    Operation ε (Machine σ) (Option (List UInt8)) := do
  match ← translate id address with
  | none => return none
  | some physical => return some (← onRam (Ram.load physical length))

/-- Write bytes of a space, all on the page of the first, and answer whether it
is mapped. -/
def writeBytes (id : SpaceId) (address : VirtAddr) (values : List UInt8) :
    Operation ε (Machine σ) Bool := do
  match ← translate id address with
  | none => return false
  | some physical => do
    onRam (Ram.store physical values)
    return true

/-! ## With the kernel's own supply -/

variable {π : Type}

/-- Run an operation that takes its frames from the coremap. Before there is
one, fail with `missing`. -/
def withCoremap (missing : ε) (op : Operation ε (Machine (Coremap π)) α) :
    Operation ε (Machine (FrameSupply π)) α := fun machine =>
  match machine with
  | ⟨⟨⟨stealer, none⟩, ram, nextSpace⟩, spaces, interrupts, firstTlb, secondTlb, context⟩ =>
    ⟨.error missing,
      ⟨⟨⟨stealer, none⟩, ram, nextSpace⟩, spaces, interrupts, firstTlb, secondTlb, context⟩, []⟩
  | ⟨⟨⟨stealer, some coremap⟩, ram, nextSpace⟩, spaces, interrupts, firstTlb, secondTlb,
      context⟩ =>
    match op ⟨⟨coremap, ram, nextSpace⟩, spaces, interrupts, firstTlb, secondTlb, context⟩ with
    | ⟨result, ⟨⟨coremap, ram, nextSpace⟩, spaces, interrupts, firstTlb, secondTlb, context⟩,
        shown⟩ =>
      ⟨result, ⟨⟨⟨stealer, some coremap⟩, ram, nextSpace⟩, spaces, interrupts, firstTlb,
        secondTlb, context⟩, shown⟩

/-- Create an empty space through the memory system. -/
def createSpace [EvictionPolicy π] :
    Operation VmError (Machine (FrameSupply π)) AddressSpace := do
  let context ← Operation.read context
  withCoremap .notBootstrapped ((create (Coremap.source (some context))).mapError .space)

/-- Back the page of an address in a space through the memory system. -/
def allocatePage [EvictionPolicy π] (id : SpaceId) (address : VirtAddr) :
    Operation VmError (Machine (FrameSupply π)) Frame := do
  let context ← Operation.read context
  withCoremap .notBootstrapped
    ((materialize (Coremap.source (some context)) id address).mapError .space)

/-- Build the coremap. -/
def bootstrap (policy : π) : Operation VmError (Machine (FrameSupply π)) Unit :=
  onMemory (Memory.bootstrap policy)

/-- Run an operation on the supply of frames. -/
def onFrames (op : Operation ε σ α) : Operation ε (Machine σ) α :=
  onMemory (Memory.onFrames op)

/-- Let another eviction policy decide from now on. -/
def setPolicy (policy : π) : Operation ε (Machine (FrameSupply π)) Unit :=
  onFrames (Operation.change fun supply => supply.setPolicy policy)

/-- Allocate adjacent pages for the kernel and answer where the kernel sees
them. -/
def allocPages [EvictionPolicy π] (pages : Nat) :
    Operation VmError (Machine (FrameSupply π)) VirtAddr := do
  let context ← Operation.read context
  onFrames (FrameSupply.allocPages (some context) pages)

/-- Free kernel pages by the address of the first. -/
def freePages (address : VirtAddr) : Operation VmError (Machine (FrameSupply π)) Unit := do
  let context ← Operation.read context
  onFrames (FrameSupply.freePages (some context) address)

end Machine

end PagedMemory
