import PagedMemory.Coremap.Allocate
import PagedMemory.DirectMap
import PagedMemory.Fault
import PagedMemory.Space.Lifecycle
import PagedMemory.Stealer

/-!
# The kernel's supply of frames

Until it is bootstrapped the kernel steals its pages off the front of free RAM;
afterwards every request goes to the coremap, in which the stolen pages are
reserved. Kernel pages are named by their addresses in the direct map.
-/

namespace PagedMemory

/-- Where the kernel gets frames from. -/
structure FrameSupply (π : Type) where
  stealer : Stealer
  /-- The coremap, from bootstrap on. -/
  coremap : Option (Coremap π)
deriving DecidableEq

/-- Why the memory system refused a request. -/
inductive VmError where
  | frames (e : OutOfMemory)
  | space (e : SpaceError)
  | fault (e : FaultError)
  | stealExhausted (requested : Nat)
  | coremapTooLarge (e : CoremapTooLarge)
  | notBootstrapped
  | alreadyBootstrapped
deriving DecidableEq

namespace VmError

/-- The words of the error. -/
def message : VmError → String
  | .frames e => e.message
  | .space e => e.message
  | .fault e => e.message
  | .stealExhausted requested => s!"cannot steal {requested} pages before bootstrap"
  | .coremapTooLarge ⟨count⟩ => s!"coremap for {count} frames leaves no allocatable memory"
  | .notBootstrapped => "VM system not bootstrapped"
  | .alreadyBootstrapped => "VM system already bootstrapped"

/-- The number of the error. -/
def errno : VmError → Nat
  | .frames e => e.errno
  | .space e => e.errno
  | .fault e => e.errno
  | .stealExhausted _ | .coremapTooLarge _ => Layout.outOfMemory
  | .notBootstrapped | .alreadyBootstrapped => Layout.invalidArgument

end VmError

namespace FrameSupply

variable {ε π α : Type}

/-- The supply before bootstrap. -/
def ofLayout (layout : RamLayout) : FrameSupply π :=
  ⟨⟨layout⟩, none⟩

/-- Whether there is a coremap. -/
def isBootstrapped (supply : FrameSupply π) : Bool :=
  supply.coremap.isSome

/-- The supply with another eviction policy. -/
def setPolicy (supply : FrameSupply π) (policy : π) : FrameSupply π :=
  { supply with coremap := supply.coremap.map fun coremap => { coremap with policy := policy } }

/-- Run an operation on the coremap. Before there is one, fail with `missing`. -/
def onCoremap (missing : ε) (op : Operation ε (Coremap π) α) :
    Operation ε (FrameSupply π) α := fun supply =>
  match supply with
  | ⟨stealer, none⟩ => ⟨.error missing, ⟨stealer, none⟩, []⟩
  | ⟨stealer, some coremap⟩ =>
    match op coremap with
    | ⟨result, coremap, shown⟩ => ⟨result, ⟨stealer, some coremap⟩, shown⟩

/-- Steal pages before bootstrap. -/
def steal (pages : Nat) : Operation VmError (FrameSupply π) Frame := fun supply =>
  match supply.stealer.steal pages with
  | (some frame, stealer) => ⟨.value frame, { supply with stealer := stealer }, []⟩
  | (none, stealer) =>
    ⟨.error (.stealExhausted pages), { supply with stealer := stealer }, []⟩

/-- Allocate adjacent pages for the kernel and answer where the kernel sees
them. -/
def allocPages [EvictionPolicy π] (context : Option Context) (pages : Nat) :
    Operation VmError (FrameSupply π) VirtAddr := do
  let frame ←
    if ← Operation.read isBootstrapped then
      onCoremap .notBootstrapped ((Coremap.allocate context pages .kernel).mapError .frames)
    else steal pages
  Operation.ofExcept frame.base.toKernel

/-- Free kernel pages by the address of the first. Pages stolen at boot stay
where they are. -/
def freePages (context : Option Context) (address : VirtAddr) :
    Operation VmError (FrameSupply π) Unit := do
  match Address.ofKernel address with
  | none => Operation.abort (.notKernelAddress address)
  | some physical => do
    Operation.require physical.isPageAligned (.kernelAddressNotAligned address)
    if ← Operation.read isBootstrapped then
      if ← onCoremap .notBootstrapped (Coremap.isFixed context physical.page) then
        Operation.log .trace s!"free_kpages: {address} was stolen at boot, ignored"
      else
        onCoremap .notBootstrapped (Coremap.releaseBlock context physical.page false)
    else Operation.log .trace s!"free_kpages: {address} before bootstrap, leaked"

end FrameSupply

namespace Memory

variable {π : Type}

/-- Build the coremap over the RAM that was not stolen. -/
def bootstrap (policy : π) : Operation VmError (Memory (FrameSupply π)) Unit := do
  if ← Operation.read fun memory => memory.frames.isBootstrapped then
    Operation.fail .alreadyBootstrapped
  else
    let layout ← Operation.read fun memory => memory.frames.stealer.remaining
    let coremap ← onRam ((Coremap.bootstrap layout policy).mapError .coremapTooLarge)
    Operation.change fun memory =>
      { memory with frames := { memory.frames with coremap := some coremap } }

end Memory

end PagedMemory
