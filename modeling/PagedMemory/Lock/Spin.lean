import PagedMemory.Panic

/-!
# Spinning locks

A spinning lock only records whether it is taken. A thread that finds it taken
tries again at once, and whoever runs may release it.
-/

namespace PagedMemory

/-- A lock that a waiting thread keeps trying. -/
structure SpinLock where
  taken : Bool
deriving DecidableEq

namespace SpinLock

/-- A lock that nobody has taken. -/
def free : SpinLock := ⟨false⟩

/-- Take the lock if it is not taken. -/
def claim (lock : SpinLock) : Option SpinLock :=
  if lock.taken then none else some ⟨true⟩

/-- Give the lock up. -/
def release (lock : SpinLock) : Except Panic SpinLock :=
  if lock.taken then .ok free else .error .spinLockNotHeld

end SpinLock

end PagedMemory
