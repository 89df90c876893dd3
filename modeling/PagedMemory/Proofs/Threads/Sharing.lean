import PagedMemory.Operation.Lemmas
import PagedMemory.Proofs.PartialMaps
import PagedMemory.Threads.Run

/-!
# Threads that share sleeping locks

Any number of threads acquire sleeping locks, wait for them, try them, drop the guards that
stand for them and begin or end the handling of an interrupt, each in steps of its own
between which any other thread may run. Whatever the order, a lock that a live guard stands
for names the thread that acquired the guard, so that no lock has two of them. Only this
thread gives the lock back; a guard that another thread drops is lost in a panic, and the lock
is then held on. A thread that is refused a lock has changed nothing.
-/

namespace PagedMemory.Threads

/-! ## The threads and their steps -/

/-- What a thread gets with a lock that it acquires. -/
structure LockGuard where
  index : Nat
  acquirer : ThreadId
deriving DecidableEq

/-- Threads that share locks. -/
structure Sharing where
  threads : Threads
  /-- Which threads handle an interrupt. -/
  handling : ThreadId → Bool
  /-- The threads that were let in to wait for a lock and have not taken it yet. -/
  waiting : List (ThreadId × Nat)
  /-- The guards that have not been dropped. -/
  guards : List LockGuard
  /-- Which thread was the last one to acquire a lock, unless it has given the lock back. -/
  holder : Nat → Option ThreadId

namespace Sharing

/-- The threads while one of them runs. -/
def runBy (p : Sharing) (thread : ThreadId) : Threads :=
  { p.threads with thread := thread, inInterrupt := p.handling thread }

/-- The threads after one of them has acquired a lock. -/
def acquired (p : Sharing) (threads : Threads) (index : Nat) (thread : ThreadId) : Sharing :=
  { p with
    threads := threads
    guards := ⟨index, thread⟩ :: p.guards
    holder := Function.update p.holder index (some thread) }

/-- The threads after one of them has dropped a guard. The lock is given back if it is the
thread that acquired the lock. -/
def dropped (p : Sharing) (threads : Threads) (guard : LockGuard) (thread : ThreadId) : Sharing :=
  { p with
    threads := threads
    guards := p.guards.erase guard
    holder :=
      if thread = guard.acquirer then Function.update p.holder guard.index none else p.holder }

/-- One step of one thread, whose identity is not the one that stands for nobody. -/
inductive Step (p : Sharing) : Sharing → Prop where
  /-- A thread asks for a lock and is let in to wait. -/
  | arrive (thread : ThreadId) (index : Nat) {lock : SleepLock} {value : Option Int}
      (isThread : thread ≠ SleepLock.nobody)
      (found : p.threads.locks[index]? = some ⟨.sleep lock, value⟩)
      (passes : lock.acquirer (p.runBy thread).context = .ok thread) :
      Step p { p with waiting := (thread, index) :: p.waiting }
  /-- A thread that waits takes the lock. -/
  | claim (thread : ThreadId) (index : Nat) {threads : Threads} {shown : List Event}
      (waits : (thread, index) ∈ p.waiting)
      (run : (Threads.claim index thread : Operation Empty Threads Bool).run (p.runBy thread) =
        ⟨.value true, threads, shown⟩) :
      Step p ({ p with waiting := p.waiting.erase (thread, index) }.acquired threads index thread)
  /-- A thread that waits does not get the lock yet. -/
  | retry (thread : ThreadId) (index : Nat) {threads : Threads} {shown : List Event}
      (waits : (thread, index) ∈ p.waiting)
      (run : (Threads.claim index thread : Operation Empty Threads Bool).run (p.runBy thread) =
        ⟨.value false, threads, shown⟩) :
      Step p { p with threads := threads }
  /-- A thread tries a lock and gets it. -/
  | tryLock (thread : ThreadId) (index : Nat) {lock : SleepLock} {value : Option Int}
      {threads : Threads} {shown : List Event} (isThread : thread ≠ SleepLock.nobody)
      (found : p.threads.locks[index]? = some ⟨.sleep lock, value⟩)
      (run : (tryAcquire index (.sleep lock) : Operation Empty Threads Bool).run (p.runBy thread) =
        ⟨.value true, threads, shown⟩) :
      Step p (p.acquired threads index thread)
  /-- A thread tries a lock and does not get it. -/
  | miss (thread : ThreadId) (index : Nat) {lock : SleepLock} {value : Option Int}
      {result : Result Empty Bool} {threads : Threads} {shown : List Event}
      (isThread : thread ≠ SleepLock.nobody)
      (found : p.threads.locks[index]? = some ⟨.sleep lock, value⟩)
      (run : (tryAcquire index (.sleep lock) : Operation Empty Threads Bool).run (p.runBy thread) =
        ⟨result, threads, shown⟩) (isMissed : result ≠ .value true) :
      Step p { p with threads := threads }
  /-- A thread asks for a lock and is refused. -/
  | refuse (thread : ThreadId) (index : Nat) {lock : SleepLock} {value : Option Int}
      {cause : Panic} {yield : Operation Empty Threads Unit} {patience : Nat}
      {result : Result Empty Unit} {threads : Threads} {shown : List Event}
      (isThread : thread ≠ SleepLock.nobody)
      (found : p.threads.locks[index]? = some ⟨.sleep lock, value⟩)
      (refuses : lock.acquirer (p.runBy thread).context = .error cause)
      (run : (acquire yield patience index (.sleep lock)).run (p.runBy thread) =
        ⟨result, threads, shown⟩) :
      Step p { p with threads := threads }
  /-- A thread drops a guard, perhaps one that another thread acquired. -/
  | drop (thread : ThreadId) (guard : LockGuard) {result : Result Empty Unit} {threads : Threads}
      {shown : List Event} (isThread : thread ≠ SleepLock.nobody) (live : guard ∈ p.guards)
      (run : (endGuard (.lock guard.index) : Operation Empty Threads Unit).run (p.runBy thread) =
        ⟨result, threads, shown⟩) :
      Step p (p.dropped threads guard thread)
  /-- The number of a lock is overwritten behind a guard. -/
  | store (guard : LockGuard) (value : Int) (live : guard ∈ p.guards) :
      Step p { p with threads := p.threads.setValue guard.index value }
  /-- A thread begins or ends to handle an interrupt. -/
  | interrupt (thread : ThreadId) (value : Bool) :
      Step p { p with handling := Function.update p.handling thread value }

/-- What threads can reach. -/
inductive Reachable (start : Sharing) : Sharing → Prop where
  | start : Reachable start start
  | step {p q : Sharing} (reached : Reachable start p) (next : Step p q) : Reachable start q

/-- A context is installed, every lock is a sleeping lock that nobody holds, and nothing has
happened yet. -/
structure Fresh (p : Sharing) : Prop where
  installed : p.threads.contextKind ≠ .absent
  free : ∀ (index : Nat) (lock : SharedLock), p.threads.locks[index]? = some lock →
    lock.raw = .sleep .free
  waiting : p.waiting = []
  guards : p.guards = []
  holder : p.holder = fun _ => none

end Sharing

/-! ## What a thread does to a lock -/

section Locks

variable {ε : Type} {threads : Threads} {index : Nat} {lock : SleepLock} {value : Option Int}

theorem locks_setRaw_congr {other : Threads} {raw : RawLock} (same : threads.locks = other.locks) :
    (threads.setRaw index raw).locks = (other.setRaw index raw).locks := by
  simp only [setRaw, same]

theorem getElem?_locks_setRaw (threads : Threads) (index other : Nat) (raw : RawLock) :
    (threads.setRaw index raw).locks[other]? =
      if index = other then threads.locks[other]?.map fun lock => { lock with raw := raw }
      else threads.locks[other]? :=
  Array.getElem?_modify

theorem getElem?_locks_setValue (threads : Threads) (index other : Nat) (value : Int) :
    (threads.setValue index value).locks[other]? =
      if index = other then threads.locks[other]?.map fun lock => { lock with value := some value }
      else threads.locks[other]? :=
  Array.getElem?_modify

theorem run_claim (found : threads.locks[index]? = some ⟨.sleep lock, value⟩) (thread : ThreadId) :
    (claim index thread : Operation ε Threads Bool).run threads =
      if lock.owner = SleepLock.nobody then
        ⟨.value true, threads.setRaw index (.sleep ⟨thread⟩), []⟩
      else ⟨.value false, threads, []⟩ := by
  simp only [Operation.run, claim, found, SleepLock.claim]
  split <;> simp_all

theorem run_tryAcquire (index : Nat) (lock : SleepLock) (threads : Threads) :
    (tryAcquire index (.sleep lock) : Operation ε Threads Bool).run threads =
      if Context.handlesInterrupt threads.context then ⟨.panic .sleepInInterrupt, threads, []⟩
      else if lock.owner = SleepLock.nobody then
        ⟨.value true,
          threads.setRaw index (.sleep ⟨Context.currentThread threads.context⟩), []⟩
      else ⟨.value false, threads, []⟩ := by
  rw [tryAcquire, Operation.run_read_bind]
  simp only [SleepLock.tryAcquire, SleepLock.claim]
  split
  · rfl
  · split <;> rfl

theorem run_acquire_of_refused {yield : Operation ε Threads Unit} {patience : Nat} {cause : Panic}
    (refuses : lock.acquirer threads.context = .error cause) :
    (acquire yield patience index (.sleep lock)).run threads = ⟨.panic cause, threads, []⟩ := by
  rw [acquire, Operation.run_read_bind]
  simp only [refuses]
  rfl

theorem run_wait_of_claimed {yield : Operation ε Threads Unit} {patience : Nat}
    {thread : ThreadId} {taken : Threads}
    (claimed : (claim index thread : Operation ε Threads Bool).run threads =
      ⟨.value true, taken, []⟩) :
    (wait yield index thread (patience + 1)).run threads = ⟨.value (), taken, []⟩ := by
  rw [wait, Operation.run_bind_of_value claimed]
  rfl

theorem run_wait_of_not_claimed {yield : Operation ε Threads Unit} {patience : Nat}
    {thread : ThreadId}
    (missed : (claim index thread : Operation ε Threads Bool).run threads =
      ⟨.value false, threads, []⟩) :
    (wait yield index thread (patience + 1)).run threads =
      (yield >>= fun _ => wait yield index thread patience).run threads := by
  rw [wait, Operation.run_bind_of_value missed]
  rfl

theorem run_acquire_of_passes {yield : Operation ε Threads Unit} {patience : Nat}
    {thread : ThreadId} (passes : lock.acquirer threads.context = .ok thread) :
    (acquire yield patience index (.sleep lock)).run threads =
      (wait yield index thread patience).run threads := by
  rw [acquire, Operation.run_read_bind]
  simp only [passes]
  exact congrArg (fun op => Operation.run op threads) (Operation.pure_bind thread _)

theorem run_endGuard (found : threads.locks[index]? = some ⟨.sleep lock, value⟩) :
    (endGuard (.lock index) : Operation ε Threads Unit).run threads =
      if lock.owner = Context.currentThread threads.context then
        ⟨.value (), threads.setRaw index (.sleep .free), []⟩
      else ⟨.panic .sleepLockNotHeld, threads, []⟩ := by
  by_cases mine : lock.owner = Context.currentThread threads.context <;>
    simp [Operation.run, endGuard, unlock, found, SleepLock.release, SleepLock.heldByCurrent,
      SleepLock.heldBy, mine]

end Locks

namespace Sharing

variable {p q : Sharing} {thread : ThreadId} {index : Nat}

/-! ## The invariant -/

@[simp]
theorem locks_runBy (p : Sharing) (thread : ThreadId) : (p.runBy thread).locks = p.threads.locks :=
  rfl

theorem context_runBy (installed : p.threads.contextKind ≠ .absent) (thread : ThreadId) :
    (p.runBy thread).context = some ⟨thread, p.handling thread⟩ :=
  if_neg installed

/-- The lock that is held by a thread, or by nobody. -/
def lockOf (holder : Option ThreadId) : SleepLock :=
  ⟨holder.getD SleepLock.nobody⟩

/-- What every step keeps: a lock names the thread that holds it, and a guard stands for a
lock that its acquirer holds. -/
structure Consistent (p : Sharing) : Prop where
  installed : p.threads.contextKind ≠ .absent
  owned : ∀ (index : Nat) (lock : SharedLock), p.threads.locks[index]? = some lock →
    lock.raw = .sleep (lockOf (p.holder index))
  held : ∀ index thread, p.holder index = some thread →
    thread ≠ SleepLock.nobody ∧ index < p.threads.locks.size
  waiters : ∀ waiter ∈ p.waiting, waiter.1 ≠ SleepLock.nobody
  guarded : ∀ guard ∈ p.guards, p.holder guard.index = some guard.acquirer
  apart : p.guards.Pairwise fun guard other => guard.index ≠ other.index

namespace Consistent

theorem of_fresh (fresh : p.Fresh) : p.Consistent where
  installed := fresh.installed
  owned := by
    intro index lock found
    rw [fresh.holder]
    exact fresh.free index lock found
  held := by simp [fresh.holder]
  waiters := by simp [fresh.waiting]
  guarded := by simp [fresh.guards]
  apart := by simp [fresh.guards]

theorem lock_eq (consistent : p.Consistent) {lock : SleepLock} {value : Option Int}
    (found : p.threads.locks[index]? = some ⟨.sleep lock, value⟩) :
    lock = lockOf (p.holder index) := by
  simpa using consistent.owned index _ found

theorem found_of_lt (consistent : p.Consistent) (within : index < p.threads.locks.size) :
    ∃ value, p.threads.locks[index]? = some ⟨.sleep (lockOf (p.holder index)), value⟩ := by
  have found := Array.getElem?_eq_getElem within
  refine ⟨p.threads.locks[index].value, ?_⟩
  rw [found, ← consistent.owned index _ found]

/-- Only a lock that nobody holds names nobody. -/
theorem owner_eq_nobody_iff (consistent : p.Consistent) :
    (lockOf (p.holder index)).owner = SleepLock.nobody ↔ p.holder index = none := by
  rcases held : p.holder index with _ | thread
  · simp [lockOf]
  · simpa [lockOf] using (consistent.held index thread held).1

/-- A lock names a thread just when it holds the lock. -/
theorem owner_eq_iff (isThread : thread ≠ SleepLock.nobody) :
    (lockOf (p.holder index)).owner = thread ↔ p.holder index = some thread := by
  rcases p.holder index with _ | holder
  · simpa [lockOf] using Ne.symm isThread
  · simp [lockOf]

/-- A step that changes no lock, no holder and no guard. -/
theorem congr (consistent : p.Consistent) (installed : q.threads.contextKind ≠ .absent)
    (locks : q.threads.locks = p.threads.locks) (holder : q.holder = p.holder)
    (guards : q.guards = p.guards) (waiters : ∀ waiter ∈ q.waiting, waiter.1 ≠ SleepLock.nobody) :
    q.Consistent where
  installed := installed
  owned := by
    rw [locks, holder]
    exact consistent.owned
  held := by
    rw [locks, holder]
    exact consistent.held
  waiters := waiters
  guarded := by
    rw [guards, holder]
    exact consistent.guarded
  apart := guards ▸ consistent.apart

/-- A thread runs and changes nothing. -/
theorem idle (consistent : p.Consistent) (thread : ThreadId) :
    Consistent { p with threads := p.runBy thread } :=
  consistent.congr consistent.installed rfl rfl rfl consistent.waiters

/-- A lock gets another holder, or none, and guards still stand for what their acquirers
hold. -/
theorem update (consistent : p.Consistent) (runner : ThreadId) (owner : Option ThreadId)
    {guards : List LockGuard}
    (names : ∀ thread, owner = some thread →
      thread ≠ SleepLock.nobody ∧ index < p.threads.locks.size)
    (guarded : ∀ guard ∈ guards,
      Function.update p.holder index owner guard.index = some guard.acquirer)
    (apart : guards.Pairwise fun guard other => guard.index ≠ other.index) :
    Consistent { p with
      threads := (p.runBy runner).setRaw index (.sleep (lockOf owner))
      guards := guards
      holder := Function.update p.holder index owner } where
  installed := consistent.installed
  owned := by
    intro other lock found
    change lock.raw = .sleep (lockOf (Function.update p.holder index owner other))
    rw [getElem?_locks_setRaw] at found
    by_cases same : index = other
    · subst same
      rw [if_pos rfl] at found
      obtain ⟨_, _, rfl⟩ := Option.map_eq_some_iff.mp found
      rw [Function.update_self]
    · rw [if_neg same] at found
      rw [Function.update_of_ne (Ne.symm same)]
      exact consistent.owned other lock found
  held := by
    intro other holder found
    change _ ∧ other < (Array.modify _ _ _).size
    rw [Array.size_modify]
    rcases update_eq_some_iff.mp found with ⟨rfl, isOwner⟩ | ⟨_, older⟩
    · exact names holder isOwner
    · exact consistent.held other holder older
  waiters := consistent.waiters
  guarded := guarded
  apart := apart

/-- A lock that nobody holds is acquired. -/
theorem acquired (consistent : p.Consistent) (isThread : thread ≠ SleepLock.nobody)
    (free : p.holder index = none) (within : index < p.threads.locks.size) :
    (p.acquired ((p.runBy thread).setRaw index (.sleep ⟨thread⟩)) index thread).Consistent := by
  -- A guard stands for a lock that somebody holds, so none stands for this one yet.
  have others {guard : LockGuard} (older : guard ∈ p.guards) : guard.index ≠ index := by
    intro same
    have holds := consistent.guarded guard older
    rw [same, free] at holds
    cases holds
  refine consistent.update thread (some thread) ?_ ?_ ?_
  · rintro _ ⟨⟩
    exact ⟨isThread, within⟩
  · intro guard mem
    rcases List.mem_cons.mp mem with rfl | older
    · exact Function.update_self ..
    · rw [Function.update_of_ne (others older)]
      exact consistent.guarded guard older
  · exact List.pairwise_cons.mpr ⟨fun guard older => (others older).symm, consistent.apart⟩

/-- A lock is given back by the thread that holds it. -/
theorem released (consistent : p.Consistent) {guard : LockGuard} (live : guard ∈ p.guards) :
    (p.dropped ((p.runBy guard.acquirer).setRaw guard.index (.sleep .free)) guard
      guard.acquirer).Consistent := by
  have split : p.guards.Perm (guard :: p.guards.erase guard) := List.perm_cons_erase live
  obtain ⟨others, apart⟩ := List.pairwise_cons.mp
    ((split.pairwise_iff fun different => Ne.symm different).mp consistent.apart)
  rw [dropped, if_pos rfl]
  refine consistent.update guard.acquirer none nofun ?_ apart
  intro other mem
  rw [Function.update_of_ne (others other mem).symm]
  exact consistent.guarded other (List.mem_of_mem_erase mem)

/-- A guard that another thread drops is lost, and nothing else changes. -/
theorem lost (consistent : p.Consistent) {guard : LockGuard} (other : thread ≠ guard.acquirer) :
    (p.dropped (p.runBy thread) guard thread).Consistent where
  installed := consistent.installed
  owned := by
    simp only [dropped, if_neg other]
    exact consistent.owned
  held := by
    simp only [dropped, if_neg other]
    exact consistent.held
  waiters := consistent.waiters
  guarded := by
    simp only [dropped, if_neg other]
    exact fun guard mem => consistent.guarded guard (List.mem_of_mem_erase mem)
  apart := consistent.apart.sublist List.erase_sublist

/-- The number of a lock is no matter of who holds it. -/
theorem stored (consistent : p.Consistent) (index : Nat) (value : Int) :
    Consistent { p with threads := p.threads.setValue index value } where
  installed := consistent.installed
  owned := by
    intro other lock found
    rw [getElem?_locks_setValue] at found
    split at found
    · obtain ⟨older, before, rfl⟩ := Option.map_eq_some_iff.mp found
      exact consistent.owned other older before
    · exact consistent.owned other lock found
  held := by
    intro other holder found
    change _ ∧ other < (Array.modify _ _ _).size
    rw [Array.size_modify]
    exact consistent.held other holder found
  waiters := consistent.waiters
  guarded := consistent.guarded
  apart := consistent.apart

/-- The running thread holds a lock just when the lock names it. -/
theorem heldByCurrent_iff (consistent : p.Consistent) (isThread : thread ≠ SleepLock.nobody) :
    (lockOf (p.holder index)).heldByCurrent (p.runBy thread).context = true ↔
      p.holder index = some thread := by
  rw [context_runBy consistent.installed, ← owner_eq_iff isThread]
  exact beq_iff_eq

theorem found_of_holder (consistent : p.Consistent) (holds : p.holder index = some thread) :
    ∃ value, p.threads.locks[index]? = some ⟨.sleep ⟨thread⟩, value⟩ := by
  have found := consistent.found_of_lt (consistent.held index thread holds).2
  rwa [holds] at found

/-- A lock is claimed just when nobody holds it, whoever runs. -/
theorem run_claim (consistent : p.Consistent) {threads : Threads}
    (same : threads.locks = p.threads.locks) (thread : ThreadId) (index : Nat) :
    (Threads.claim index thread : Operation Empty Threads Bool).run threads =
      if index < p.threads.locks.size ∧ p.holder index = none then
        ⟨.value true, threads.setRaw index (.sleep ⟨thread⟩), []⟩
      else ⟨.value false, threads, []⟩ := by
  by_cases within : index < p.threads.locks.size
  · obtain ⟨value, found⟩ := consistent.found_of_lt within
    rw [← same] at found
    rw [Threads.run_claim found thread]
    simp only [within, true_and, consistent.owner_eq_nobody_iff]
  · simp [Operation.run, Threads.claim, same, within]

/-- A lock that is tried is acquired just when nobody holds it, outside of interrupts. -/
theorem run_tryAcquire (consistent : p.Consistent) {lock : SleepLock} {value : Option Int}
    (found : p.threads.locks[index]? = some ⟨.sleep lock, value⟩) (thread : ThreadId) :
    (tryAcquire index (.sleep lock) : Operation Empty Threads Bool).run (p.runBy thread) =
      if p.handling thread then ⟨.panic .sleepInInterrupt, p.runBy thread, []⟩
      else if p.holder index = none then
        ⟨.value true, (p.runBy thread).setRaw index (.sleep ⟨thread⟩), []⟩
      else ⟨.value false, p.runBy thread, []⟩ := by
  rw [Threads.run_tryAcquire, context_runBy consistent.installed, consistent.lock_eq found]
  simp only [consistent.owner_eq_nobody_iff]
  rfl

/-- Who may wait for a lock: a thread that handles no interrupt and does not hold the lock. -/
theorem acquirer_eq (consistent : p.Consistent) {lock : SleepLock} {value : Option Int}
    (isThread : thread ≠ SleepLock.nobody)
    (found : p.threads.locks[index]? = some ⟨.sleep lock, value⟩) :
    lock.acquirer (p.runBy thread).context =
      if p.handling thread then .error .sleepInInterrupt
      else if p.holder index = some thread then .error .sleepLockRecursion
      else .ok thread := by
  have holds : (lockOf (p.holder index)).heldByCurrent (p.runBy thread).context = true ↔
      p.holder index = some thread := consistent.heldByCurrent_iff isThread
  rw [context_runBy consistent.installed] at holds ⊢
  rw [consistent.lock_eq found]
  simp only [SleepLock.acquirer, Option.isSome_some, Bool.true_and, holds]
  rfl

/-- A guard gives its lock back if it is dropped by its acquirer, and panics otherwise. -/
theorem run_endGuard (consistent : p.Consistent) {guard : LockGuard} (live : guard ∈ p.guards)
    (thread : ThreadId) :
    (endGuard (.lock guard.index) : Operation Empty Threads Unit).run (p.runBy thread) =
      if thread = guard.acquirer then
        ⟨.value (), (p.runBy thread).setRaw guard.index (.sleep .free), []⟩
      else ⟨.panic .sleepLockNotHeld, p.runBy thread, []⟩ := by
  obtain ⟨value, found⟩ := consistent.found_of_holder (consistent.guarded guard live)
  have atRun : (p.runBy thread).locks[guard.index]? = _ := found
  rw [Threads.run_endGuard atRun, context_runBy consistent.installed]
  simp only [Context.currentThread, eq_comm]

/-! ## Steps and runs -/

theorem step (consistent : p.Consistent) (next : Step p q) : q.Consistent := by
  cases next with
  | arrive thread index isThread found passes =>
    refine consistent.congr consistent.installed rfl rfl rfl ?_
    exact List.forall_mem_cons.mpr ⟨isThread, consistent.waiters⟩
  | claim thread index waits run =>
    rw [consistent.run_claim (locks_runBy p thread)] at run
    split at run
    · next isFree =>
      cases run
      have unwaited : Consistent { p with waiting := p.waiting.erase (thread, index) } :=
        consistent.congr consistent.installed rfl rfl rfl fun waiter mem =>
          consistent.waiters waiter (List.mem_of_mem_erase mem)
      exact unwaited.acquired (consistent.waiters _ waits) isFree.2 isFree.1
    · cases run
  | retry thread index waits run =>
    rw [consistent.run_claim (locks_runBy p thread)] at run
    split at run
    · cases run
    · cases run
      exact consistent.idle thread
  | tryLock thread index isThread found run =>
    rw [consistent.run_tryAcquire found] at run
    split at run
    · cases run
    · split at run
      · next isFree =>
        cases run
        exact consistent.acquired isThread isFree (Array.getElem?_eq_some_iff.mp found).1
      · cases run
  | miss thread index isThread found run isMissed =>
    rw [consistent.run_tryAcquire found] at run
    split at run
    · cases run
      exact consistent.idle thread
    · split at run
      · cases run
        exact absurd rfl isMissed
      · cases run
        exact consistent.idle thread
  | refuse thread index isThread found refuses run =>
    rw [run_acquire_of_refused refuses] at run
    cases run
    exact consistent.idle thread
  | drop thread guard isThread live run =>
    rw [consistent.run_endGuard live] at run
    split at run
    · next isAcquirer =>
      cases run
      subst isAcquirer
      exact consistent.released live
    · next isOther =>
      cases run
      exact consistent.lost isOther
  | store guard value live => exact consistent.stored guard.index value
  | interrupt thread value =>
    exact consistent.congr consistent.installed rfl rfl rfl consistent.waiters

theorem of_reachable (consistent : p.Consistent) (reached : Reachable p q) : q.Consistent := by
  induction reached with
  | start => exact consistent
  | step _ next ih => exact ih.step next

end Consistent

/-! ## Asking for a lock -/

theorem Reachable.trans {r : Sharing} (first : Reachable p q) (second : Reachable q r) :
    Reachable p r := by
  induction second with
  | start => exact first
  | step _ next ih => exact ih.step next

/-- While a thread has yielded, the threads make steps, and none of them takes the lock in its
name. -/
def Yields (yield : Operation Empty Threads Unit) (thread : ThreadId) (index : Nat) : Prop :=
  ∀ (p : Sharing) (threads : Threads), p.Consistent → threads.locks = p.threads.locks →
    (thread, index) ∈ p.waiting → ∃ q, Reachable p q ∧
      (yield.run threads).state.locks = q.threads.locks ∧ (thread, index) ∈ q.waiting

/-- A thread that waits makes steps as the others do, and if it returns it has the lock. -/
theorem exists_reachable_wait {yield : Operation Empty Threads Unit} {threads : Threads}
    (yields : Yields yield thread index) (patience : Nat) (consistent : p.Consistent)
    (same : threads.locks = p.threads.locks) (waits : (thread, index) ∈ p.waiting) :
    ∃ q, Reachable p q ∧
      ((wait yield index thread patience).run threads).state.locks = q.threads.locks ∧
      (((wait yield index thread patience).run threads).result = .value () →
        ⟨index, thread⟩ ∈ q.guards) := by
  -- One try and one yield lead to threads that still wait, with one try less to go.
  induction patience generalizing p threads with
  | zero => exact ⟨p, .start, same, nofun⟩
  | succ patience ih =>
    have tries := consistent.run_claim same thread index
    by_cases free : index < p.threads.locks.size ∧ p.holder index = none
    · rw [if_pos free] at tries
      have stepped := consistent.run_claim (locks_runBy p thread) thread index
      rw [if_pos free] at stepped
      rw [run_wait_of_claimed tries]
      refine ⟨_, .step .start (.claim thread index waits stepped), ?_, fun _ => List.mem_cons_self⟩
      exact locks_setRaw_congr same
    · rw [if_neg free] at tries
      rw [run_wait_of_not_claimed tries]
      obtain ⟨q, first, reached, still⟩ := yields p threads consistent same waits
      rcases ran : yield.run threads with ⟨_ | e | cause, after, shown⟩
      · rw [ran] at reached
        rw [Operation.run_bind_of_value ran]
        obtain ⟨r, second, locks, guards⟩ := ih (consistent.of_reachable first) reached still
        exact ⟨r, first.trans second, locks, guards⟩
      · cases e
      · rw [ran] at reached
        rw [Operation.run_bind_of_panic ran]
        exact ⟨q, first, reached, nofun⟩

/-- A thread that asks for a lock makes steps as the others do while it waits. If it returns
it has the lock. -/
theorem exists_reachable_acquire {lock : SleepLock} {value : Option Int}
    {yield : Operation Empty Threads Unit} (yields : Yields yield thread index) (patience : Nat)
    (consistent : p.Consistent) (isThread : thread ≠ SleepLock.nobody)
    (found : p.threads.locks[index]? = some ⟨.sleep lock, value⟩) :
    let outcome := (acquire yield patience index (.sleep lock)).run (p.runBy thread)
    ∃ q, Reachable p q ∧ outcome.state.locks = q.threads.locks ∧
      (outcome.result = .value () → ⟨index, thread⟩ ∈ q.guards) := by
  rcases asked : lock.acquirer (p.runBy thread).context with cause | acquirer
  · rw [run_acquire_of_refused asked]
    exact ⟨p, .start, rfl, nofun⟩
  · have isAsker : acquirer = thread := by
      rw [consistent.acquirer_eq isThread found] at asked
      split at asked
      · cases asked
      · split at asked
        · cases asked
        · exact (Except.ok.inj asked).symm
    subst isAsker
    have arrives : Reachable p { p with waiting := (acquirer, index) :: p.waiting } :=
      .step .start (.arrive acquirer index isThread found asked)
    rw [run_acquire_of_passes asked]
    obtain ⟨q, later, locks, guards⟩ := exists_reachable_wait yields patience
      (consistent.of_reachable arrives) (locks_runBy p acquirer) List.mem_cons_self
    exact ⟨q, arrives.trans later, locks, guards⟩

/-! ## Exclusion -/

/-- What is promised to threads that share locks. -/
structure Excludes (p : Sharing) : Prop where
  /-- A lock that a guard stands for names the thread that acquired the guard. -/
  owned : ∀ guard ∈ p.guards, p.holder guard.index = some guard.acquirer ∧
    ∃ value, p.threads.locks[guard.index]? = some ⟨.sleep ⟨guard.acquirer⟩, value⟩
  /-- No two guards stand for one lock. -/
  one : p.guards.Pairwise fun guard other => guard.index ≠ other.index
  /-- A thread is told that it holds a lock just when it acquired the lock last and has not
  given it back. -/
  told : ∀ (thread : ThreadId) (index : Nat) (lock : SleepLock) (value : Option Int),
    thread ≠ SleepLock.nobody → p.threads.locks[index]? = some ⟨.sleep lock, value⟩ →
    (lock.heldByCurrent (p.runBy thread).context = true ↔ p.holder index = some thread)
  /-- Asking for a lock, whatever the others do meanwhile, comes to steps of the threads, and
  it returns with a guard if at all. -/
  asks : ∀ (thread : ThreadId) (index : Nat) (lock : SleepLock) (value : Option Int)
    (yield : Operation Empty Threads Unit) (patience : Nat),
    thread ≠ SleepLock.nobody → p.threads.locks[index]? = some ⟨.sleep lock, value⟩ →
    Yields yield thread index →
    let outcome := (acquire yield patience index (.sleep lock)).run (p.runBy thread)
    ∃ q, Reachable p q ∧ outcome.state.locks = q.threads.locks ∧
      (outcome.result = .value () → ⟨index, thread⟩ ∈ q.guards)
  /-- A lock that nobody holds is taken by the first who asks for it or tries it. -/
  takes : ∀ (thread : ThreadId) (index : Nat) (lock : SleepLock) (value : Option Int),
    thread ≠ SleepLock.nobody → p.threads.locks[index]? = some ⟨.sleep lock, value⟩ →
    p.handling thread = false → p.holder index = none →
    let taken := (p.runBy thread).setRaw index (.sleep ⟨thread⟩)
    (tryAcquire index (.sleep lock) : Operation Empty Threads Bool).run (p.runBy thread) =
        ⟨.value true, taken, []⟩ ∧
      ∀ (yield : Operation Empty Threads Unit) patience,
        (acquire yield (patience + 1) index (.sleep lock)).run (p.runBy thread) =
          ⟨.value (), taken, []⟩
  /-- Trying a lock that is held changes nothing. -/
  refusesHeld : ∀ (thread holder : ThreadId) (index : Nat) (lock : SleepLock) (value : Option Int),
    p.threads.locks[index]? = some ⟨.sleep lock, value⟩ → p.handling thread = false →
    p.holder index = some holder →
    (tryAcquire index (.sleep lock) : Operation Empty Threads Bool).run (p.runBy thread) =
      ⟨.value false, p.runBy thread, []⟩
  /-- Asking for a lock that one holds is a panic and changes nothing. -/
  refusesHolder : ∀ (thread : ThreadId) (index : Nat) (lock : SleepLock) (value : Option Int)
    (yield : Operation Empty Threads Unit) (patience : Nat),
    p.threads.locks[index]? = some ⟨.sleep lock, value⟩ → p.handling thread = false →
    p.holder index = some thread →
    (acquire yield patience index (.sleep lock)).run (p.runBy thread) =
      ⟨.panic .sleepLockRecursion, p.runBy thread, []⟩
  /-- Asking for a lock, or trying one, while handling an interrupt is a panic and changes
  nothing. -/
  refusesInterrupt : ∀ (thread : ThreadId) (index : Nat) (lock : SleepLock) (value : Option Int)
    (yield : Operation Empty Threads Unit) (patience : Nat),
    p.threads.locks[index]? = some ⟨.sleep lock, value⟩ → p.handling thread = true →
    (acquire yield patience index (.sleep lock)).run (p.runBy thread) =
        ⟨.panic .sleepInInterrupt, p.runBy thread, []⟩ ∧
      (tryAcquire index (.sleep lock) : Operation Empty Threads Bool).run (p.runBy thread) =
        ⟨.panic .sleepInInterrupt, p.runBy thread, []⟩
  /-- A guard that its acquirer drops gives the lock back. -/
  frees : ∀ guard ∈ p.guards,
    (endGuard (.lock guard.index) : Operation Empty Threads Unit).run (p.runBy guard.acquirer) =
      ⟨.value (), (p.runBy guard.acquirer).setRaw guard.index (.sleep .free), []⟩
  /-- A guard that another thread drops panics, and the lock stays as it is. -/
  keeps : ∀ guard ∈ p.guards, ∀ thread, thread ≠ guard.acquirer →
    (endGuard (.lock guard.index) : Operation Empty Threads Unit).run (p.runBy thread) =
      ⟨.panic .sleepLockNotHeld, p.runBy thread, []⟩

/-- Whatever threads do that share locks, a lock is held by one of them at a time. -/
theorem excludes_of_reachable (fresh : p.Fresh) (reached : Reachable p q) : q.Excludes := by
  have consistent := (Consistent.of_fresh fresh).of_reachable reached
  have context (thread : ThreadId) : (q.runBy thread).context = some ⟨thread, q.handling thread⟩ :=
    context_runBy consistent.installed thread
  constructor
  case owned =>
    intro guard live
    have holds := consistent.guarded guard live
    exact ⟨holds, consistent.found_of_holder holds⟩
  case one => exact consistent.apart
  case told =>
    intro thread index lock value isThread found
    rw [consistent.lock_eq found]
    exact consistent.heldByCurrent_iff isThread
  case asks =>
    intro thread index lock value yield patience isThread found yields
    exact exists_reachable_acquire yields patience consistent isThread found
  case takes =>
    intro thread index lock value isThread found awake free
    refine ⟨?_, fun yield patience => ?_⟩
    · rw [consistent.run_tryAcquire found]
      simp [awake, free]
    · have passes : lock.acquirer (q.runBy thread).context = .ok thread := by
        rw [consistent.acquirer_eq isThread found]
        simp [awake, free]
      rw [run_acquire_of_passes passes]
      refine run_wait_of_claimed ?_
      rw [consistent.run_claim (locks_runBy q thread),
        if_pos ⟨(Array.getElem?_eq_some_iff.mp found).1, free⟩]
  case refusesHeld =>
    intro thread holder index lock value found awake holds
    rw [consistent.run_tryAcquire found]
    simp [awake, holds]
  case refusesHolder =>
    intro thread index lock value yield patience found awake holds
    refine run_acquire_of_refused ?_
    rw [consistent.acquirer_eq (consistent.held index thread holds).1 found]
    simp [awake, holds]
  case refusesInterrupt =>
    intro thread index lock value yield patience found handles
    refine ⟨run_acquire_of_refused ?_, ?_⟩
    · simp [SleepLock.acquirer, context, Context.handlesInterrupt, handles]
    · rw [consistent.run_tryAcquire found, if_pos handles]
  case frees =>
    intro guard live
    rw [consistent.run_endGuard live, if_pos rfl]
  case keeps =>
    intro guard live thread isOther
    rw [consistent.run_endGuard live, if_neg isOther]

/-- Threads with two locks that nobody holds. -/
def pair : Sharing where
  threads := { Threads.initial false with
    locks := #[⟨.sleep .free, some 7⟩, ⟨.sleep .free, some 0⟩] }
  handling := fun _ => false
  waiting := []
  guards := []
  holder := fun _ => none

/-- Two threads ask for a lock, and one of them gets it. The other one has tried the second
lock before, and its guard is dropped by the wrong thread, so that it holds this lock on. -/
theorem excludes_of_pair : ∃ q, Reachable pair q ∧ q.guards = [⟨0, 1⟩] ∧ q.waiting = [(2, 0)] ∧
    q.holder 1 = some 2 ∧ q.Excludes := by
  have free (index : Nat) (lock : SharedLock) (found : pair.threads.locks[index]? = some lock) :
      lock.raw = .sleep .free := by
    have isOne : lock = ⟨.sleep .free, some 7⟩ ∨ lock = ⟨.sleep .free, some 0⟩ := by
      simpa [pair] using Array.mem_of_getElem? found
    rcases isOne with rfl | rfl <;> rfl
  have fresh : pair.Fresh := ⟨nofun, free, rfl, rfl, rfl⟩
  have first : Reachable pair _ := .step .start (.arrive 1 0 (by decide) rfl rfl)
  have second := first.step (.tryLock 2 1 (by decide) rfl rfl)
  have third := second.step (.arrive 2 0 (by decide) rfl rfl)
  have fourth := third.step (.claim 1 0 (by decide) rfl)
  have fifth := fourth.step (.retry 2 0 (by decide) rfl)
  have sixth := fifth.step (.drop 1 ⟨1, 2⟩ (by decide) (by decide) rfl)
  exact ⟨_, sixth, by decide, by decide, by decide, excludes_of_reachable fresh sixth⟩

end Sharing

end PagedMemory.Threads
