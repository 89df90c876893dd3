import PagedMemory.Lock.Context
import PagedMemory.Panic

/-!
# Sleeping locks

A sleeping lock records which thread holds it. It may not be acquired in an
interrupt handler, nor by its holder a second time, and only its holder may
release it. Acquiring is split into its atomic steps: `acquirer` checks the
caller, and `claim` is the exchange that a waiting thread repeats until it
succeeds.
-/

namespace PagedMemory

/-- A lock that a waiting thread sleeps on. -/
structure SleepLock where
  /-- The holder, or `nobody`. -/
  owner : ThreadId
deriving DecidableEq

namespace SleepLock

/-- The identity that stands for no holder. -/
def nobody : ThreadId := 18446744073709551615

/-- A lock that nobody holds. -/
def free : SleepLock := ⟨nobody⟩

/-- Whether a thread holds the lock. -/
def heldBy (lock : SleepLock) (thread : ThreadId) : Bool :=
  lock.owner == thread

/-- Whether the running thread holds the lock. -/
def heldByCurrent (lock : SleepLock) (context : Option Context) : Bool :=
  lock.heldBy (Context.currentThread context)

/-- Refuse a caller that may not wait for the lock; otherwise answer the thread
for which it is to be claimed. -/
def acquirer (lock : SleepLock) (context : Option Context) : Except Panic ThreadId :=
  if Context.handlesInterrupt context then .error .sleepInInterrupt
  else if context.isSome && lock.heldByCurrent context then .error .sleepLockRecursion
  else .ok (Context.currentThread context)

/-- Take the lock for a thread if nobody holds it. -/
def claim (lock : SleepLock) (thread : ThreadId) : Option SleepLock :=
  if lock.owner = nobody then some ⟨thread⟩ else none

/-- Take the lock for the running thread if nobody holds it, without waiting. -/
def tryAcquire (lock : SleepLock) (context : Option Context) : Except Panic (Option SleepLock) :=
  if Context.handlesInterrupt context then .error .sleepInInterrupt
  else .ok (lock.claim (Context.currentThread context))

/-- Give the lock up. -/
def release (lock : SleepLock) (context : Option Context) : Except Panic SleepLock :=
  if lock.heldByCurrent context then .ok free else .error .sleepLockNotHeld

end SleepLock

end PagedMemory
