import PagedMemory.Segment
import PagedMemory.Tlb

/-!
# Lookaside buffer misses

A miss is resolved from the segments of the current space alone. The first
reason that applies is reported, in this order: an unknown code, no process, no
space, an address outside every segment, no slot left. The code for a store to
a read-only page can only come from a broken machine, since every page is
mapped writable, and ends in a panic.
-/

namespace PagedMemory

/-- What kind of access missed. -/
inductive FaultKind where
  | read
  | write
  | readOnly
deriving DecidableEq

/-- Why a miss could not be resolved. -/
inductive FaultError where
  | unknownKind (code : Nat)
  | noProcess
  | noSpace
  | badAddress (address : VirtAddr)
  | tlbFull
deriving DecidableEq

namespace FaultKind

/-- The kind of access that a code of the trap layer stands for. -/
def ofCode? : Nat → Option FaultKind
  | 0 => some .read
  | 1 => some .write
  | 2 => some .readOnly
  | _ => none

/-- The name of the kind. -/
def name : FaultKind → String
  | .read => "Read"
  | .write => "Write"
  | .readOnly => "ReadOnly"

end FaultKind

namespace FaultError

/-- The words of the error. -/
def message : FaultError → String
  | .unknownKind code => s!"unknown fault type {code}"
  | .noProcess => "fault with no current process"
  | .noSpace => "fault with no current address space"
  | .badAddress address => s!"{address} is outside every segment"
  | .tlbFull => "ran out of TLB entries"

/-- The number of the error. -/
def errno : FaultError → Nat
  | .unknownKind _ => Layout.invalidArgument
  | .noProcess | .noSpace | .badAddress _ | .tlbFull => Layout.badReference

end FaultError

/-- What is known about the thread that missed. -/
structure FaultContext where
  /-- Whether a process is current. -/
  hasProcess : Bool
  /-- The segments of its space, if it has one. -/
  segments : Option SegmentTable
deriving DecidableEq

namespace Cpu

/-- Put a mapping into the slot that already translates its page, or else
into the first slot that is not valid. -/
def refill (address : VirtAddr) (frame : Frame) : Operation FaultError Cpu Unit := do
  let page := address.page
  let slot? ← match ← probe page with
    | some slot => pure (some slot)
    | none => firstFree
  match slot? with
  | none =>
    Operation.log .warn s!"ran out of TLB entries, cannot handle fault at {address}"
    Operation.fail .tlbFull
  | some slot =>
    writeSlot slot (.mapping page frame)
    Operation.log .trace s!"fault: {page} -> {frame} in slot {slot}"

/-- Resolve a miss at `address` and answer the frame that its page now
translates to. -/
def handleFault (context : FaultContext) (code : Nat) (address : VirtAddr) :
    Operation FaultError Cpu Frame := do
  match FaultKind.ofCode? code with
  | none => Operation.fail (.unknownKind code)
  | some kind =>
    let kindName := kind.name
    Operation.log .debug s!"fault: {address} ({kindName})"
    if kind = .readOnly then Operation.abort (.readOnlyFault address)
    else if context.hasProcess then
      match context.segments with
      | none => Operation.fail .noSpace
      | some segments =>
        match ← Operation.ofExcept (segments.translate address.page.base) with
        | none => Operation.fail (.badAddress address)
        | some target => do
          masked (refill address target.page)
          return target.page
    else Operation.fail .noProcess

end Cpu

end PagedMemory
