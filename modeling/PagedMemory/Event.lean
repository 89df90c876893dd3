import PagedMemory.Address
import PagedMemory.Coremap.Descriptor

/-!
# Events

What an operation shows to the outside while it runs, in the order in which it
happens: log records, changes of the interrupt level, accesses to the slots of
the lookaside buffer, lock traffic of the coremap, evictions and yields. Events
never influence what an operation does.
-/

namespace PagedMemory

/-- How important a log record is. -/
inductive LogLevel where
  | trace
  | debug
  | info
  | warn
deriving DecidableEq

/-- The word that a record is marked with. -/
def LogLevel.name : LogLevel → String
  | .trace => "TRACE"
  | .debug => "DEBUG"
  | .info => "INFO"
  | .warn => "WARN"

/-- The three sleeping locks of the coremap. -/
inductive CoremapLock where
  /-- Guards the counter of block identities. -/
  | identity
  /-- Guards the cursor from which a search starts. -/
  | cursor
  /-- Guards the descriptors. -/
  | frames
deriving DecidableEq

/-- An interrupt level: which interrupts are masked. -/
abbrev InterruptLevel := UInt8

/-- One thing that an operation lets be seen. -/
inductive Event where
  /-- A log record was written. -/
  | logged (level : LogLevel) (text : String)
  /-- Interrupts were masked; the level before was `previous`. -/
  | masked (previous : InterruptLevel)
  /-- The interrupt level was set back. -/
  | restored (level : InterruptLevel)
  /-- A slot of the lookaside buffer was read. -/
  | slotRead (slot : Nat)
  /-- A slot of the lookaside buffer was overwritten. -/
  | slotWritten (slot : Nat)
  /-- A lock of the coremap was acquired. -/
  | acquired (lock : CoremapLock)
  /-- A lock of the coremap was released. -/
  | released (lock : CoremapLock)
  /-- A whole allocation was handed to the eviction policy. -/
  | evicted (base : Frame) (size : Nat) (victim : Descriptor)
  /-- The running thread offered the processor to others. -/
  | yielded
deriving DecidableEq

end PagedMemory
