/-!
# Execution context

Which thread runs, and whether it runs in an interrupt handler. Before a
context is installed every caller counts as one anonymous thread outside any
handler.
-/

namespace PagedMemory

/-- The identity of a thread. -/
abbrev ThreadId := UInt64

/-- What is known about the running thread. -/
structure Context where
  thread : ThreadId
  inInterrupt : Bool
deriving DecidableEq

namespace Context

/-- The thread that runs before a context is installed. -/
def anonymous : ThreadId := 18446744073709551614

/-- The running thread. -/
def currentThread : Option Context → ThreadId
  | some context => context.thread
  | none => anonymous

/-- Whether an interrupt handler runs. -/
def handlesInterrupt : Option Context → Bool
  | some context => context.inInterrupt
  | none => false

end Context

end PagedMemory
