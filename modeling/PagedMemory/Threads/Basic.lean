import PagedMemory.Interrupts
import PagedMemory.Lock.SetOnce
import PagedMemory.Lock.Sleep
import PagedMemory.Lock.Spin

/-!
# Kernel threads and what they share

One processor plays several kernel threads by turns. They share locks, some of
which protect a number, guards that stand for an acquired lock or a masked
level, and cells that are set once. Guards and cells are known by name. What
the other threads do while one waits is a script, whose actions may bring
scripts of their own.
-/

namespace PagedMemory

/-- A lock without what it protects. -/
inductive RawLock where
  | sleep (lock : SleepLock)
  | spin (lock : SpinLock)
deriving DecidableEq

/-- A lock that the threads share. -/
structure SharedLock where
  raw : RawLock
  /-- The number that the lock protects, if any. -/
  value : Option Int
deriving DecidableEq

/-- What ends when a guard is dropped. -/
inductive Guard where
  /-- A lock is released. -/
  | lock (index : Nat)
  /-- The interrupt level is set back. -/
  | level (previous : Option InterruptLevel)
deriving DecidableEq

/-- What a thread can tell others when it yields. -/
inductive ContextKind where
  /-- No context is installed. -/
  | absent
  /-- Other threads run when the running one yields. -/
  | scripted
  /-- Yielding does nothing. -/
  | plain
deriving DecidableEq

/-- Values under names. -/
abbrev Names (α : Type) := List (String × α)

namespace Names

variable {α : Type}

/-- The value under a name. -/
def get? (names : Names α) (name : String) : Option α :=
  names.lookup name

/-- The values without the one under a name. -/
def erase (names : Names α) (name : String) : Names α :=
  names.filter fun entry => entry.1 != name

/-- The values with another one under a name. -/
def insert (names : Names α) (name : String) (value : α) : Names α :=
  (name, value) :: erase names name

end Names

/-- One thing that a thread does. Locks, guards and cells are given by name. -/
inductive Command where
  /-- Ask for the running thread. -/
  | currentThread
  /-- Ask whether an interrupt handler runs. -/
  | handlesInterrupt
  /-- Ask whether a context is installed. -/
  | hasContext
  /-- Install a context, unless there is one. -/
  | installContext (kind : ContextKind)
  /-- Install an interrupt controller, unless there is one. -/
  | installInterrupts
  /-- Offer the processor to other threads. -/
  | yield
  /-- Let another thread run. -/
  | setThread (thread : ThreadId)
  /-- Enter or leave an interrupt handler. -/
  | setInterrupt (value : Bool)
  /-- Set the interrupt level without the controller. -/
  | setLevel (level : InterruptLevel)
  /-- Ask for the interrupt level. -/
  | level
  /-- Ask how two interrupt levels compare. -/
  | compareLevels (a b : InterruptLevel)
  /-- Mask interrupts until the guard is dropped. -/
  | mask (guard : String)
  /-- Create a lock that nobody holds. -/
  | newLock (lock : String) (raw : RawLock) (value : Option Int)
  /-- Acquire a lock, waiting if need be. -/
  | lock (lock guard : String)
  /-- Acquire a lock if nobody holds it. -/
  | tryLock (lock guard : String)
  /-- Drop a guard. -/
  | drop (guard : String)
  /-- Release a lock, whoever holds it. -/
  | release (lock : String)
  /-- Read the number behind a guard. -/
  | get (guard : String)
  /-- Overwrite the number behind a guard. -/
  | set (guard : String) (value : Int)
  /-- Add to the number behind a guard. -/
  | add (guard : String) (amount : Int)
  /-- Add to the number of a lock while it is held, and perhaps give up then. -/
  | withLock (lock : String) (amount : Int) (giveUp : Option String)
  /-- Ask whether the running thread holds a sleeping lock. -/
  | doIHold (lock : String)
  /-- Ask whether a thread holds a sleeping lock. -/
  | heldBy (lock : String) (thread : ThreadId)
  /-- Create a cell without a value, in the place of an older one of its name. -/
  | onceNew (once : String)
  /-- Read a cell. -/
  | onceGet (once : String)
  /-- Set a cell. -/
  | onceSet (once : String) (value : Int)
  /-- Give a cell up, and ask how many values were given up with their cells. -/
  | onceDrop (once : String)
deriving DecidableEq

/-- A command, with what others do meanwhile if it brings a script of its own.
A script is a list of turns, and each time the running thread yields the next
turn is played. -/
inductive Action where
  /-- A command under the script that is being played. -/
  | plain (command : Command)
  /-- A command with a script that takes the place of the one being played. -/
  | scripted (command : Command) (script : List (List Action))

/-- What others do while the running thread has yielded once. -/
abbrev Turn := List Action

/-- The turns to come. -/
abbrev Script := List Turn

mutual

/-- How many turns there are in the script of an action, and in those of the
actions within. -/
def Action.turnCount : Action → Nat
  | .plain _ => 0
  | .scripted _ script => Script.turnCount script

/-- How many turns the actions of a turn bring. -/
def Turn.turnCount : Turn → Nat
  | [] => 0
  | action :: rest => action.turnCount + Turn.turnCount rest

/-- How many turns there are in a script, and in those of the actions within. -/
def Script.turnCount : Script → Nat
  | [] => 0
  | turn :: rest => 1 + Turn.turnCount turn + Script.turnCount rest

end

/-- What a thread learns from a command. -/
inductive Reply where
  | nothing
  | flag (value : Bool)
  | number (value : Int)
  | thread (id : ThreadId)
  | order (order : Ordering)
  /-- The command would wait for ever and was not tried. -/
  | blocked
  /-- The cell accepted the value. -/
  | installed
  /-- The cell handed the value back. -/
  | rejected (value : Int)
  /-- Something is named that does not exist. -/
  | unknown
deriving DecidableEq

/-- What the threads share, and who runs. -/
structure Threads where
  contextKind : ContextKind
  thread : ThreadId
  inInterrupt : Bool
  interrupts : Interrupts
  /-- Every lock created so far. -/
  locks : Array SharedLock
  /-- Which lock a name stands for. -/
  lockNames : Names Nat
  guards : Names Guard
  onces : Names (SetOnce Int)
  /-- How many values were given up with their cells. -/
  dropped : Nat
  /-- What others will do when the running thread yields. -/
  script : Script

namespace Threads

/-- The threads before anything has run. A fresh kernel has installed nothing
yet. -/
def initial (fresh : Bool) : Threads where
  contextKind := if fresh then .absent else .scripted
  thread := 1
  inInterrupt := false
  interrupts := ⟨!fresh, Interrupts.unmasked⟩
  locks := Array.empty
  lockNames := []
  guards := []
  onces := []
  dropped := 0
  script := []

/-- The execution context, if one is installed. -/
def context (threads : Threads) : Option Context :=
  if threads.contextKind = .absent then none
  else some ⟨threads.thread, threads.inInterrupt⟩

/-- The lock of a name. -/
def findLock (threads : Threads) (name : String) : Option (Nat × SharedLock) := do
  let index ← threads.lockNames.get? name
  let lock ← threads.locks[index]?
  return (index, lock)

/-- The threads with a lock changed. -/
def setRaw (threads : Threads) (index : Nat) (raw : RawLock) : Threads :=
  { threads with locks := threads.locks.modify index fun lock => { lock with raw := raw } }

/-- The threads with the number of a lock changed. -/
def setValue (threads : Threads) (index : Nat) (value : Int) : Threads :=
  { threads with
    locks := threads.locks.modify index fun lock => { lock with value := some value } }

end Threads

end PagedMemory
