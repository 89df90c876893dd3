import PagedMemory.Threads.Basic

/-!
# Running commands of kernel threads

A command that has to wait yields until the lock is free. Each yield lets the
next turn of the script be played, whose actions may bring scripts of their own;
when no turn is left the wait ends in a panic, so no wait is longer than the
number of turns. A wait that nobody could end is not begun:
for a taken spinning lock, and for a held sleeping lock if yielding lets nobody
else run.
-/

namespace PagedMemory.Threads

variable {ε α : Type}

/-- The sum of two 64-bit numbers. -/
def addInt64 (a b : Int) : Except Panic Int :=
  if -0x8000000000000000 ≤ a + b ∧ a + b < 0x8000000000000000 then .ok (a + b)
  else .error .addOverflow

/-! ## Locks -/

/-- Take the lock at an index for a thread if nobody holds it, and answer
whether it was taken. -/
def claim (index : Nat) (thread : ThreadId) : Operation ε Threads Bool := fun threads =>
  match threads.locks[index]? with
  | none => ⟨.value false, threads, []⟩
  | some ⟨.sleep lock, _⟩ =>
    match lock.claim thread with
    | some lock => ⟨.value true, threads.setRaw index (.sleep lock), []⟩
    | none => ⟨.value false, threads, []⟩
  | some ⟨.spin lock, _⟩ =>
    match lock.claim with
    | some lock => ⟨.value true, threads.setRaw index (.spin lock), []⟩
    | none => ⟨.value false, threads, []⟩

/-- Release the lock at an index. -/
def unlock (index : Nat) : Operation ε Threads Unit := fun threads =>
  match threads.locks[index]? with
  | none => ⟨.value (), threads, []⟩
  | some ⟨.sleep lock, _⟩ =>
    match lock.release threads.context with
    | .ok lock => ⟨.value (), threads.setRaw index (.sleep lock), []⟩
    | .error cause => ⟨.panic cause, threads, []⟩
  | some ⟨.spin lock, _⟩ =>
    match lock.release with
    | .ok lock => ⟨.value (), threads.setRaw index (.spin lock), []⟩
    | .error cause => ⟨.panic cause, threads, []⟩

/-- Whether acquiring a lock would wait for something that nobody does. -/
def wouldBlock (threads : Threads) (raw : RawLock) : Bool :=
  match raw with
  | .spin lock => lock.taken
  | .sleep lock =>
    threads.contextKind != .scripted && lock.owner != SleepLock.nobody &&
      (lock.acquirer threads.context).isOk

/-- Claim a lock, yielding after each failure, at most `patience` times. -/
def wait (yield : Operation ε Threads Unit) (index : Nat) (thread : ThreadId) :
    (patience : Nat) → Operation ε Threads Unit
  | 0 => Operation.abort .scriptExhausted
  | patience + 1 => do
    if ← claim index thread then pure ()
    else do
      yield
      wait yield index thread patience

/-- Acquire a lock, waiting if need be. -/
def acquire (yield : Operation ε Threads Unit) (patience index : Nat) (raw : RawLock) :
    Operation ε Threads Unit := do
  let context ← Operation.read context
  match raw with
  | .sleep lock => wait yield index (← Operation.ofExcept (lock.acquirer context)) patience
  | .spin _ => wait yield index (Context.currentThread context) patience

/-- Acquire a lock if nobody holds it, and answer whether it was acquired. -/
def tryAcquire (index : Nat) (raw : RawLock) : Operation ε Threads Bool := do
  let context ← Operation.read context
  match raw with
  | .sleep lock => do
    match ← Operation.ofExcept (lock.tryAcquire context) with
    | none => return false
    | some held => do
      Operation.change fun threads => threads.setRaw index (.sleep held)
      return true
  | .spin _ => claim index (Context.currentThread context)

/-! ## Guards -/

/-- Run an operation on the interrupt controller. -/
def onInterrupts (op : Operation ε Interrupts α) : Operation ε Threads α :=
  op.onPart (fun threads => (threads.interrupts, threads))
    fun interrupts threads => { threads with interrupts := interrupts }

/-- End what a guard stands for. -/
def endGuard : Guard → Operation ε Threads Unit
  | .lock index => unlock index
  | .level previous => onInterrupts (Interrupts.restore previous)

/-- Drop the guard of a name, if there is one. The name is free even if dropping
it panics. -/
def dropGuard (name : String) : Operation ε Threads Unit := do
  match ← Operation.read fun threads => threads.guards.get? name with
  | none => pure ()
  | some guard => do
    Operation.change fun threads => { threads with guards := threads.guards.erase name }
    endGuard guard

/-- Keep a guard under a name. An older guard of this name is dropped. -/
def keepGuard (name : String) (guard : Guard) : Operation ε Threads Unit := do
  let older ← Operation.read fun threads => threads.guards.get? name
  Operation.change fun threads => { threads with guards := threads.guards.insert name guard }
  match older with
  | none => pure ()
  | some older => endGuard older

/-- The lock behind a guard, with the number that it protects. -/
def guarded (name : String) (threads : Threads) : Option (Nat × Int) :=
  match threads.guards.get? name with
  | some (.lock index) => do
    let lock ← threads.locks[index]?
    return (index, ← lock.value)
  | _ => none

/-- What the protected number of a lock tells. -/
def valueReply : Option Int → Reply
  | some value => .number value
  | none => .nothing

/-! ## Cells -/

/-- Give up the cell of a name, if there is one, and its value with it. -/
def discardOnce (name : String) : Operation ε Threads Unit :=
  Operation.change fun threads =>
    let filled := (threads.onces.get? name).any fun once => once.get?.isSome
    { threads with
      onces := threads.onces.erase name
      dropped := threads.dropped + filled.toNat }

/-! ## Commands -/

/-- Let others run, if they can: `turn` is what they do. -/
def yieldTo (turn : Operation ε Threads Unit) : Operation ε Threads Unit := do
  match ← Operation.read contextKind with
  | .scripted => turn
  | .absent | .plain => pure ()

/-- Run a command. `turn` is what others do when the thread yields, and
`patience` how often a wait may yield. -/
def exec (turn : Operation ε Threads Unit) (patience : Nat) : Command → Operation ε Threads Reply
  | .currentThread =>
    Operation.read fun threads => .thread (Context.currentThread threads.context)
  | .handlesInterrupt =>
    Operation.read fun threads => .flag (Context.handlesInterrupt threads.context)
  | .hasContext => Operation.read fun threads => .flag threads.context.isSome
  | .installContext kind => do
    if ← Operation.read fun threads => threads.contextKind == .absent then
      Operation.change fun threads => { threads with contextKind := kind }
      return .flag true
    else return .flag false
  | .installInterrupts => do
    if ← Operation.read fun threads => threads.interrupts.installed then return .flag false
    else
      Operation.change fun threads =>
        { threads with interrupts := { threads.interrupts with installed := true } }
      return .flag true
  | .yield => do
    let installed ← Operation.read fun threads => threads.context.isSome
    yieldTo turn
    return .flag installed
  | .setThread thread => do
    Operation.change fun threads => { threads with thread := thread }
    return .nothing
  | .setInterrupt value => do
    Operation.change fun threads => { threads with inInterrupt := value }
    return .nothing
  | .setLevel level => do
    onInterrupts (Interrupts.setLevel level)
    return .nothing
  | .level => Operation.read fun threads => .number threads.interrupts.level.toNat
  | .compareLevels a b => return .order (compare a b)
  | .mask guard => do
    let previous ← onInterrupts Interrupts.mask
    keepGuard guard (.level previous)
    return valueReply (previous.map fun level => (level.toNat : Int))
  | .newLock name raw value => do
    Operation.change fun threads =>
      { threads with
        locks := threads.locks.push ⟨raw, value⟩
        lockNames := threads.lockNames.insert name threads.locks.size }
    return .nothing
  | .lock name guard => do
    match ← Operation.read fun threads => threads.findLock name with
    | none => return .unknown
    | some (index, ⟨raw, _⟩) => do
      if ← Operation.read fun threads => threads.wouldBlock raw then return .blocked
      else
        acquire (yieldTo turn) patience index raw
        let value ← Operation.read fun threads => (threads.locks[index]?.bind SharedLock.value)
        if value.isSome then keepGuard guard (.lock index) else pure ()
        return valueReply value
  | .tryLock name guard => do
    match ← Operation.read fun threads => threads.findLock name with
    | none => return .unknown
    | some (index, ⟨raw, value⟩) => do
      let taken ← tryAcquire index raw
      if taken && value.isSome then keepGuard guard (.lock index) else pure ()
      return .flag taken
  | .drop guard => do
    dropGuard guard
    return .nothing
  | .release name => do
    match ← Operation.read fun threads => threads.findLock name with
    | none => return .unknown
    | some (index, _) => do
      unlock index
      return .nothing
  | .get guard => do
    match ← Operation.read (guarded guard) with
    | none => return .unknown
    | some (_, value) => return .number value
  | .set guard value => do
    match ← Operation.read (guarded guard) with
    | none => return .unknown
    | some (index, _) => do
      Operation.change fun threads => threads.setValue index value
      return .number value
  | .add guard amount => do
    match ← Operation.read (guarded guard) with
    | none => return .unknown
    | some (index, value) => do
      let sum ← Operation.ofExcept (addInt64 value amount)
      Operation.change fun threads => threads.setValue index sum
      return .number sum
  | .withLock name amount giveUp => do
    match ← Operation.read fun threads => threads.findLock name with
    | none => return .unknown
    | some (index, ⟨raw, _⟩) => do
      if ← Operation.read fun threads => threads.wouldBlock raw then return .blocked
      else
        acquire (yieldTo turn) patience index raw
        Operation.ensuring
          (do
            let value ← Operation.read fun threads =>
              (threads.locks[index]?.bind SharedLock.value).getD 0
            let sum ← Operation.ofExcept (addInt64 value amount)
            Operation.change fun threads => threads.setValue index sum
            match giveUp with
            | none => return .number sum
            | some text => Operation.abort (.scripted text))
          (unlock index)
  | .doIHold name => do
    let threads ← Operation.read fun threads => threads
    match threads.findLock name with
    | some (_, ⟨.sleep lock, _⟩) => return .flag (lock.heldByCurrent threads.context)
    | _ => return .unknown
  | .heldBy name thread => do
    match ← Operation.read fun threads => threads.findLock name with
    | some (_, ⟨.sleep lock, _⟩) => return .flag (lock.heldBy thread)
    | _ => return .unknown
  | .onceNew name => do
    discardOnce name
    Operation.change fun threads => { threads with onces := threads.onces.insert name .empty }
    return .nothing
  | .onceGet name => do
    match ← Operation.read fun threads => threads.onces.get? name with
    | none => return .unknown
    | some once => return valueReply once.get?
  | .onceSet name value => do
    match ← Operation.read fun threads => threads.onces.get? name with
    | none => return .unknown
    | some once =>
      match once.set? value with
      | none => return .rejected value
      | some once => do
        Operation.change fun threads => { threads with onces := threads.onces.insert name once }
        return .installed
  | .onceDrop name => do
    match ← Operation.read fun threads => threads.onces.get? name with
    | none => return .unknown
    | some _ => do
      discardOnce name
      Operation.read fun threads => .number threads.dropped

/-! ## Turns -/

/-- Run a command, under its own script if it brings one. `turn` and `patience`
are as for `exec`. -/
def perform (turn : Operation ε Threads Unit) (patience : Nat) :
    Action → Operation ε Threads Reply
  | .plain command => exec turn patience command
  | .scripted command script => do
    Operation.change fun threads => { threads with script := script }
    exec turn patience command

/-- The next turn of the script. -/
def nextTurn : Operation ε Threads (Option Turn) := fun threads =>
  match threads.script with
  | [] => ⟨.value none, threads, [.yielded]⟩
  | turn :: rest => ⟨.value (some turn), { threads with script := rest }, [.yielded]⟩

/-- Let the next turn of the script be played, where at most `turns` turns are
left, those that the actions to come bring among them. With none left this is a
panic. -/
def takeTurn : (turns : Nat) → Operation ε Threads Unit
  | 0 => do
    let _ ← nextTurn
    Operation.abort .scriptExhausted
  | turns + 1 => do
    match ← nextTurn with
    | none => Operation.abort .scriptExhausted
    | some turn => turn.forM fun action => do
      let _ ← perform (takeTurn turns) (turns + 1) action

/-- Perform an action from the outside. What is left of the script afterwards is
dropped. A turn is played at most once, so the turns of the action are enough. -/
def step (action : Action) : Operation Empty Threads Reply :=
  (perform (takeTurn action.turnCount) (action.turnCount + 1) action).ensuring
    (Operation.change fun threads => { threads with script := [] })

end PagedMemory.Threads
