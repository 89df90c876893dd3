import PagedMemory.Address.Text
import PagedMemory.Coremap.Descriptor

/-!
# Panics

A panic ends the operation that meets it and says why. Each constructor is one
cause; `Panic.message` is the only place that words them.
-/

namespace PagedMemory

/-- Why an operation was ended. -/
inductive Panic where
  /-- A sum does not fit its word. -/
  | addOverflow
  /-- A difference would be negative. -/
  | subOverflow
  /-- A number is no index into a page directory. -/
  | directoryIndexTooLarge
  /-- A number is no index into a second-level table. -/
  | tableIndexTooLarge
  /-- A number is no offset within a page. -/
  | offsetTooLarge
  /-- A value does not fit the field of a word whose largest value is `max`. -/
  | fieldTooWide (max : Nat)
  /-- An element past the end of a sequence was named. -/
  | indexOutOfBounds (length index : Nat)
  /-- A part of a sequence was named that reaches past its end. -/
  | rangeOutOfBounds (length stop : Nat)
  /-- An access reaches past the last byte of RAM. -/
  | pastEndOfRam (address : PhysAddr) (length ram : Nat)
  /-- Physical memory is named that the direct map does not show. -/
  | outsideDirectMap
  /-- A frame was to be copied onto itself. -/
  | copyOntoItself
  /-- A store was refused although every page is writable. -/
  | readOnlyFault (address : VirtAddr)
  /-- A page was to be mapped twice. -/
  | alreadyMapped (page : VirtPage)
  /-- The stack of a space was asked for before it had one. -/
  | stackBeforeLoad
  /-- RAM does not end on a page boundary. -/
  | endNotAligned (address : PhysAddr)
  /-- No frames at all were asked for. -/
  | zeroFrames
  /-- A frame past the end of RAM was freed. -/
  | freePastEnd (frame : Frame)
  /-- A frame that is part of no allocation was freed. -/
  | freeUnallocated (frame : Frame)
  /-- A frame of a larger allocation was freed as a single frame. -/
  | singleFreeOfBlock (frame : Frame) (size : Nat)
  /-- An allocation was freed by a frame that is not its first. -/
  | freeInsideBlock (frame : Frame) (block : BlockId)
  /-- The frames of an allocation do not all carry its identity. -/
  | tornBlock (frame : Frame) (block : BlockId)
  /-- A policy that never gives up a frame was asked to evict one. -/
  | evictionRefused (frame : Frame)
  /-- A pool frame that starts no multi-frame allocation was freed as one. -/
  | poolFreeOfNoBlock (frame : Frame)
  /-- A pool allocation was freed by a frame that is not its first. -/
  | poolFreeInsideBlock (frame : Frame)
  /-- A pool frame that was not allocated alone was freed as a single frame. -/
  | poolFreeOfNoSingle (frame : Frame)
  /-- Kernel pages were freed by an address outside the direct map. -/
  | notKernelAddress (address : VirtAddr)
  /-- Kernel pages were freed by an address that starts no page. -/
  | kernelAddressNotAligned (address : VirtAddr)
  /-- A sleeping lock was acquired where nothing may sleep. -/
  | sleepInInterrupt
  /-- A sleeping lock was acquired by the thread that holds it. -/
  | sleepLockRecursion
  /-- A sleeping lock was released by a thread that does not hold it. -/
  | sleepLockNotHeld
  /-- A spinning lock was released while free. -/
  | spinLockNotHeld
  /-- A thread yields and nothing else is left to run. -/
  | scriptExhausted
  /-- A scripted thread gave up, in its own words. -/
  | scripted (text : String)
  /-- A space is named that does not exist. -/
  | unknownSpace (id : SpaceId)
deriving DecidableEq

/-- The words of a panic. -/
def Panic.message : Panic → String
  | .addOverflow => "attempt to add with overflow"
  | .subOverflow => "attempt to subtract with overflow"
  | .directoryIndexTooLarge => "assertion failed: (v as usize) < PD_ENTRIES"
  | .tableIndexTooLarge => "assertion failed: (v as usize) < PT_ENTRIES"
  | .offsetTooLarge => "offset must be < page size"
  | .fieldTooWide max => s!"value out of bounds [0, {max}]"
  | .indexOutOfBounds length index =>
    s!"index out of bounds: the len is {length} but the index is {index}"
  | .rangeOutOfBounds length stop =>
    s!"range end index {stop} out of range for slice of length {length}"
  | .pastEndOfRam address length ram =>
    s!"{address} + 0x" ++ Text.Hex.plain length ++ " is past the end of 0x" ++
      Text.Hex.plain ram ++ " bytes of RAM"
  | .outsideDirectMap => "physical address outside KSEG0"
  | .copyOntoItself => "copy_frame onto itself"
  | .readOnlyFault address => s!"read-only fault at {address}: all user pages are writable"
  | .alreadyMapped page => s!"{page} is already mapped"
  | .stackBeforeLoad => "define_stack before prepare_load"
  | .endNotAligned address => s!"end of RAM {address} is not page aligned"
  | .zeroFrames => "allocation of zero frames"
  | .freePastEnd frame => s!"free of {frame} past the end of RAM"
  | .freeUnallocated frame => s!"free of {frame} which is not allocated"
  | .singleFreeOfBlock frame size => s!"single free of {frame} in a {size}-frame block"
  | .freeInsideBlock frame block => s!"free of {frame} which is not the first frame of {block}"
  | .tornBlock frame block => s!"{block} at {frame} is torn"
  | .evictionRefused frame =>
    s!"internal error: entered unreachable code: NoEviction asked to evict {frame}"
  | .poolFreeOfNoBlock frame => s!"block free of {frame}"
  | .poolFreeInsideBlock frame => s!"{frame} is not a block base"
  | .poolFreeOfNoSingle frame => s!"single free of {frame}"
  | .notKernelAddress address => s!"free_kpages: {address} is not a KSEG0 address"
  | .kernelAddressNotAligned address => s!"free_kpages: {address} is not page aligned"
  | .sleepInInterrupt => "sleeping lock acquired in interrupt context"
  | .sleepLockRecursion => "sleeping lock acquired recursively"
  | .sleepLockNotHeld => "sleeping lock released by a thread that does not hold it"
  | .spinLockNotHeld => "spin lock released while free"
  | .scriptExhausted => "yield script exhausted"
  | .scripted text => text
  | .unknownSpace id => s!"no space {id}"

end PagedMemory
