import PagedMemory.Interrupts
import PagedMemory.Tlb.Entry

/-!
# The lookaside buffer

A processor holds a few page mappings in the slots of its lookaside buffer and
refills them by software. Every access to a slot is shown as an event, so that
what is said about masking can speak of the accesses themselves.
-/

namespace PagedMemory

/-- The slots of a lookaside buffer. -/
structure Tlb where
  slots : Array TlbEntry
deriving DecidableEq

/-- What handling a miss needs of a processor. -/
structure Cpu where
  interrupts : Interrupts
  tlb : Tlb
deriving DecidableEq

namespace Tlb

/-- A buffer none of whose slots has been used. -/
def idle (size : Nat) : Tlb :=
  ⟨Array.ofFn fun slot : Fin size => .idle slot.val⟩

/-- How many slots are valid. -/
def validCount (tlb : Tlb) : Nat :=
  tlb.slots.countP fun entry => entry.lo.isValid

end Tlb

namespace Cpu

variable {ε α : Type}

/-- How many slots there are. -/
def slotCount (cpu : Cpu) : Nat :=
  cpu.tlb.slots.size

/-- What a slot holds. -/
def readSlot (slot : Nat) : Operation ε Cpu TlbEntry := fun cpu =>
  match cpu.tlb.slots[slot]? with
  | some entry => ⟨.value entry, cpu, [.slotRead slot]⟩
  | none => ⟨.panic (.indexOutOfBounds cpu.slotCount slot), cpu, []⟩

/-- Overwrite a slot. -/
def writeSlot (slot : Nat) (entry : TlbEntry) : Operation ε Cpu Unit := fun cpu =>
  if slot < cpu.slotCount then
    ⟨.value (), { cpu with tlb := ⟨cpu.tlb.slots.setIfInBounds slot entry⟩ },
      [.slotWritten slot]⟩
  else ⟨.panic (.indexOutOfBounds cpu.slotCount slot), cpu, []⟩

/-- The first of some slots whose entry is as wanted; later ones are not read. -/
def firstSlot (wanted : TlbEntry → Bool) : List Nat → Operation ε Cpu (Option Nat)
  | [] => pure none
  | slot :: rest => do
    if wanted (← readSlot slot) then return some slot
    else firstSlot wanted rest

/-- The first slot that translates `page`. -/
def probe (page : VirtPage) : Operation ε Cpu (Option Nat) := do
  let size ← Operation.read slotCount
  firstSlot (fun entry => entry.translates page) (List.range size)

/-- The first slot that is not valid. -/
def firstFree : Operation ε Cpu (Option Nat) := do
  let size ← Operation.read slotCount
  firstSlot (fun entry => !entry.lo.isValid) (List.range size)

/-- Make every slot unused. -/
def invalidateAll : Operation ε Cpu Unit := do
  let size ← Operation.read slotCount
  (List.range size).forM fun slot => do
    writeSlot slot (← Operation.ofExcept (TlbEntry.unused slot))

/-- The interrupt level of the processor. -/
def onInterrupts (op : Operation ε Interrupts α) : Operation ε Cpu α :=
  op.onPart (fun cpu => (cpu.interrupts, cpu.tlb)) fun interrupts tlb => ⟨interrupts, tlb⟩

/-- Run `body` with interrupts masked, and set the level back however `body`
ends. -/
def masked (body : Operation ε Cpu α) : Operation ε Cpu α := do
  let previous ← onInterrupts Interrupts.mask
  body.ensuring (onInterrupts (Interrupts.restore previous))

/-- Forget every mapping, as a switch to another space requires. -/
def flush : Operation ε Cpu Unit :=
  masked invalidateAll

end Cpu

end PagedMemory
