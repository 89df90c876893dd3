import PagedMemory.Proofs.Coremap.Locks
import PagedMemory.Proofs.Operation.Regime

/-!
# The order of the locks of a coremap

The three locks of a coremap are taken in one order and given back in the opposite one: the
counter's lock is held alone, and the descriptors' lock is taken inside the cursor's or
alone. What a call shows of the locks obeys this order on every way through it, also where
it panics inside a section, and nobody holds a lock when it has ended. So a call never meets
a lock that its own thread holds, and never gives one back that it does not hold. A caller
that may not sleep is refused before anything has happened.
-/

namespace PagedMemory

/-! ## What events say about the locks -/

/-- The locks that are held, the one taken last first, and the order in which they may be
taken and given back. -/
def lockOrder : Discipline (List CoremapLock) where
  admits held
    | .acquired .identity => held = []
    | .acquired .cursor => held = []
    | .acquired .frames => held = [] ∨ held = [.cursor]
    | .released which => held.head? = some which
    | _ => True
  next held
    | .acquired which => which :: held
    | .released which => held.erase which
    | _ => held

/-- The locks held after some events that began while nobody held one, the one taken last
first. -/
def heldAfter (events : List Event) : List CoremapLock :=
  lockOrder.after [] events

/-- The locks that can be held together. -/
def Compatible (held : List CoremapLock) : Prop :=
  held ∈ [[], [.identity], [.cursor], [.frames], [.frames, .cursor]]

theorem Compatible.next {held : List CoremapLock} {event : Event} (compatible : Compatible held)
    (admits : lockOrder.admits held event) : Compatible (lockOrder.next held event) := by
  cases event with
  | acquired which => cases which <;> simp_all [lockOrder, Compatible]
  | released which =>
    obtain ⟨rest, rfl⟩ := List.head?_eq_some_iff.mp admits
    change Compatible ((which :: rest).erase which)
    rw [List.erase_cons_head]
    simp only [Compatible, List.mem_cons, List.cons.injEq, List.not_mem_nil, or_false,
      reduceCtorEq, false_or] at compatible ⊢
    rcases compatible with ⟨_, rfl⟩ | ⟨_, rfl⟩ | ⟨_, rfl⟩ | ⟨_, rfl⟩ <;> simp
  | _ => exact compatible

/-! ## Calls made while nobody holds a lock -/

/-- A panic that is about locks: one may not be waited for, or not be given back. -/
def Panic.IsAboutLocks (cause : Panic) : Prop :=
  cause ∈ [.sleepInInterrupt, .sleepLockRecursion, .sleepLockNotHeld, .scriptExhausted]

namespace Coremap

variable {ε π α : Type} {context : Option Context} {locks : CoremapLocks}
  {held : List CoremapLock}

/-- A policy may panic in this way when it gives up a block. -/
def PolicyPanics (π : Type) [EvictionPolicy π] (cause : Panic) : Prop :=
  ∃ (policy : π) (base : Frame) (size : Nat) (victim : Descriptor),
    (EvictionPolicy.evict policy base size victim).1 = .error cause

/-- What becomes of the locks in a call that is made by a thread while nobody holds one. -/
structure KeepsLockOrder [EvictionPolicy π] (context : Option Context)
    (op : Operation ε (Coremap π) α) : Prop where
  /-- However the call ends, nobody holds a lock then. -/
  free : ∀ c, c.locks = .free → (op.run c).state.locks = .free
  /-- What is shown of the locks ends with none of them held. -/
  closed : ∀ c, c.locks = .free → heldAfter (op.run c).events = []
  /-- A panic that is about locks is the policy's own. -/
  panics : ∀ c cause, c.locks = .free → CanSleep context →
    (op.run c).result = .panic cause → cause.IsAboutLocks → PolicyPanics π cause
  /-- No lock is taken that is held already. -/
  once : ∀ c, c.locks = .free → ∀ before which after,
    (op.run c).events = before ++ .acquired which :: after → which ∉ heldAfter before
  /-- The lock that was taken last is given back first. -/
  nested : ∀ c, c.locks = .free → ∀ before which after,
    (op.run c).events = before ++ .released which :: after →
      (heldAfter before).head? = some which
  /-- The counter's lock is never held together with another one. -/
  alone : ∀ c, c.locks = .free → ∀ before after, (op.run c).events = before ++ after →
    .identity ∈ heldAfter before → heldAfter before = [.identity]
  /-- The cursor's lock is only taken while the descriptors' lock is not held. -/
  cursorFirst : ∀ c, c.locks = .free → ∀ before after,
    (op.run c).events = before ++ .acquired .cursor :: after → .frames ∉ heldAfter before
  /-- A caller that may not sleep is refused before anything has happened. -/
  refused : ∀ c, c.locks = .free → ¬ CanSleep context →
    ∃ cause, op.run c = ⟨.panic cause, c, []⟩

/-- What a body keeps to that runs with some locks held: it leaves them as they are and
gives back whatever it takes. -/
def lockRegime (π : Type) [EvictionPolicy π] (locks : CoremapLocks) (held : List CoremapLock) :
    Regime (Coremap π) where
  state c := c.locks = locks
  shows := lockOrder.Closes held
  panics cause := cause.IsAboutLocks → PolicyPanics π cause
  shows_nil := Discipline.closes_nil
  shows_append := .append

variable [EvictionPolicy π]

/-! ## Inside a section -/

theorem keepsTo_log (level : LogLevel) (text : String) :
    (Operation.log level text : Operation ε (Coremap π) Unit).KeepsTo (lockRegime π locks held) :=
  .emit (Discipline.closes_single trivial rfl)

theorem keepsTo_drawBlock :
    (drawBlock : Operation ε (Coremap π) BlockId).KeepsTo (lockRegime π locks held) :=
  fun _ kept => ⟨kept, (lockRegime π locks held).shows_nil, nofun⟩

theorem keepsTo_search (wanted : Nat) :
    (search wanted : Operation ε (Coremap π) (Option Nat)).KeepsTo (lockRegime π locks held) :=
  fun _ kept => ⟨kept, (lockRegime π locks held).shows_nil, nofun⟩

/-- A policy may panic, in whatever way. -/
theorem keepsTo_surrender (base : Frame) (size : Nat) (victim : Descriptor) :
    (surrender base size victim : Operation ε (Coremap π) Unit).KeepsTo
      (lockRegime π locks held) := by
  intro c kept
  have shown : (lockRegime π locks held).shows [.evicted base size victim] :=
    Discipline.closes_single trivial rfl
  unfold Operation.run surrender
  rcases told : EvictionPolicy.evict c.policy base size victim with ⟨cause | _, policy⟩
  · refine ⟨kept, shown, ?_⟩
    rintro _ ⟨⟩ _
    exact ⟨c.policy, base, size, victim, by rw [told]⟩
  · exact ⟨kept, shown, nofun⟩

theorem keepsTo_vacate (base : Frame) (block : BlockId) (size : Nat) :
    (vacate base block size : Operation ε (Coremap π) Unit).KeepsTo (lockRegime π locks held) := by
  have other {cause : Panic} (notAbout : ¬ cause.IsAboutLocks) :
      (lockRegime π locks held).panics cause := fun about => absurd about notAbout
  have each (index : Nat) : (vacateFrom base block size index :
      Operation ε (Coremap π) Unit).KeepsTo (lockRegime π locks held) := by
    induction size generalizing index with
    | zero => exact .pure ()
    | succ size ih =>
      exact .bind (.read _) fun _ => .bind (.require (other (by simp [Panic.IsAboutLocks])))
        fun _ => .bind (.change fun _ => id) fun _ => ih _
  exact .bind (.read _) fun _ =>
    .bind (.require (other (by simp [Panic.IsAboutLocks]))) fun _ => each _

theorem keepsTo_evictRun (stop fuel index : Nat) :
    (evictRun stop fuel index : Operation ε (Coremap π) Unit).KeepsTo
      (lockRegime π locks held) := by
  induction fuel generalizing index with
  | zero => exact .pure ()
  | succ fuel ih =>
    unfold evictRun
    split
    · refine .bind (.read _) fun found => ?_
      split
      · refine .bind ?_ fun next => ih next
        refine .bind (.read _) fun start => .bind (keepsTo_surrender _ _ _) fun _ => ?_
        exact .bind (keepsTo_vacate _ _ _) fun _ => .bind (keepsTo_log _ _) fun _ => .pure _
      · exact ih (index + 1)
    · exact .pure ()

theorem keepsTo_claim (wanted : Nat) (owner : Owner) (block : BlockId) :
    (claim wanted owner block : Operation ε (Coremap π) (Option Frame)).KeepsTo
      (lockRegime π locks held) := by
  refine .bind (keepsTo_search wanted) fun found => ?_
  split
  · exact .pure _
  · exact .bind (.read _) fun _ => .bind (keepsTo_evictRun _ _ _) fun _ =>
      .bind (.change fun _ => id) fun _ => .pure _

theorem keepsTo_reclaim (base : Frame) (single : Bool) :
    (reclaim base single : Operation ε (Coremap π) Nat).KeepsTo (lockRegime π locks held) := by
  have other {cause : Panic} (notAbout : ¬ cause.IsAboutLocks) :
      (lockRegime π locks held).panics cause := fun about => absurd about notAbout
  refine .bind (.read _) fun found => ?_
  split
  · exact .abort (other (by simp [Panic.IsAboutLocks]))
  · refine .bind (.require (other (by simp [Panic.IsAboutLocks]))) fun _ => .bind (.read _) fun _ =>
      .bind (.require (other (by simp [Panic.IsAboutLocks]))) fun _ => ?_
    exact .bind (keepsTo_vacate _ _ _) fun _ => .bind (.change fun _ => id) fun _ => .pure _
  · exact .abort (other (by simp [Panic.IsAboutLocks]))

/-! ## Whole calls -/

/-- A section takes a lock that the order admits and gives it back. -/
theorem keepsTo_holding {which : CoremapLock} {body : Operation ε (Coremap π) α}
    (canSleep : CanSleep context) (free : locks.get which = .free)
    (admits : lockOrder.admits held (.acquired which))
    (kept : body.KeepsTo
      (lockRegime π (locks.set which ⟨Context.currentThread context⟩) (which :: held))) :
    (holding context which body).KeepsTo (lockRegime π locks held) := by
  refine .enclosed kept ?_ fun _ => id
  rintro c (rfl : c.locks = locks)
  refine ⟨(), _, _, [.released which], run_acquire free canSleep, rfl, ?_, ?_⟩
  · intro u (taken : u.locks = _)
    refine ⟨_, run_release (by rw [taken, CoremapLocks.get_set]), ?_⟩
    change u.locks.set which .free = c.locks
    rw [taken, ← free, CoremapLocks.set_set_get]
  · intro shown inside
    have closes : lockOrder.Closes held (.acquired which :: (shown ++ [.released which])) :=
      .enclosed inside admits rfl (List.erase_cons_head which held)
    exact closes

theorem keepsTo_holdingCursorAndFrames {body : Operation ε (Coremap π) α}
    (canSleep : CanSleep context)
    (kept : ∀ locks held, body.KeepsTo (lockRegime π locks held)) :
    (holdingCursorAndFrames context body).KeepsTo (lockRegime π .free []) :=
  keepsTo_holding canSleep rfl rfl (keepsTo_holding canSleep rfl (.inr rfl) (kept _ _))

/-- A call of which every way through keeps to the order of the locks, and which takes a lock
before it does anything else. -/
theorem KeepsLockOrder.of_keepsTo {op : Operation ε (Coremap π) α}
    (kept : CanSleep context → op.KeepsTo (lockRegime π .free []))
    (refused : ∀ c, c.locks = .free → ¬ CanSleep context →
      ∃ cause, op.run c = ⟨.panic cause, c, []⟩) :
    KeepsLockOrder context op := by
  have traced (c : Coremap π) (free : c.locks = .free) :
      (op.run c).state.locks = .free ∧ lockOrder.Closes [] (op.run c).events := by
    by_cases canSleep : CanSleep context
    · have done := kept canSleep c free
      exact ⟨done.state, done.shows⟩
    · obtain ⟨cause, run⟩ := refused c free canSleep
      rw [run]
      exact ⟨free, Discipline.closes_nil⟩
  have orderly {c : Coremap π} (free : c.locks = .free) {events : List Event}
      (shown : (op.run c).events = events) : lockOrder.Obeyed [] events :=
    shown ▸ (traced c free).2.obeyed
  constructor
  case free => exact fun c free => (traced c free).1
  case closed => exact fun c free => (traced c free).2.back
  case panics => exact fun c cause free canSleep => (kept canSleep c free).panics cause
  case once =>
    intro c free before which after shown
    have admits := (orderly free shown).admits
    cases which with
    | identity | cursor => simp [show heldAfter before = [] from admits]
    | frames =>
      rcases show heldAfter before = [] ∨ heldAfter before = [.cursor] from admits with
        none | cursor
      · simp [none]
      · simp [cursor]
  case nested => exact fun c free before which after shown => (orderly free shown).admits
  case alone =>
    intro c free before after shown held
    have compatible : Compatible (heldAfter before) :=
      (Discipline.obeyed_append.mp (orderly free shown)).1.keeps (fun _ _ => Compatible.next)
        (by simp [Compatible])
    simp only [Compatible, List.mem_cons, List.not_mem_nil, or_false] at compatible
    rcases compatible with same | same | same | same | same <;> simp_all
  case cursorFirst =>
    intro c free before after shown
    simp [show heldAfter before = [] from (orderly free shown).admits]
  case refused => exact refused

theorem keepsLockOrder_allocate (wanted : Nat) (owner : Owner) :
    KeepsLockOrder context (allocate context wanted owner : Operation _ (Coremap π) Frame) := by
  refine .of_keepsTo (fun canSleep => ?_) fun c free cannotSleep => ?_
  · refine .bind (.require fun about => ?_) fun _ =>
      .bind (keepsTo_holding canSleep rfl rfl keepsTo_drawBlock) fun block => ?_
    · simp [Panic.IsAboutLocks] at about
    refine .bind (keepsTo_holdingCursorAndFrames canSleep fun _ _ => keepsTo_claim _ _ _)
      fun _ => ?_
    split
    · exact .bind (keepsTo_log _ _) fun _ => .pure _
    · exact .bind (keepsTo_log _ _) fun _ => .fail _
  · rw [allocate, Operation.run_require_bind]
    split
    · exact run_holding_bind_of_refused free cannotSleep
    · exact ⟨_, rfl⟩

theorem keepsLockOrder_releaseBlock (base : Frame) (single : Bool) :
    KeepsLockOrder context (releaseBlock context base single : Operation ε (Coremap π) Unit) := by
  refine .of_keepsTo (fun canSleep => ?_) fun c free cannotSleep => ?_
  · exact .bind (keepsTo_holdingCursorAndFrames canSleep fun _ _ => keepsTo_reclaim _ _) fun _ =>
      keepsTo_log _ _
  · exact run_holding_bind_of_refused free cannotSleep

theorem keepsTo_inspect (look : Array Descriptor → α) (canSleep : CanSleep context) :
    (inspect context look : Operation ε (Coremap π) α).KeepsTo (lockRegime π .free []) :=
  keepsTo_holding canSleep rfl (.inl rfl) (.read _)

theorem keepsLockOrder_inspect (look : Array Descriptor → α) :
    KeepsLockOrder context (inspect context look : Operation ε (Coremap π) α) :=
  .of_keepsTo (keepsTo_inspect look) fun _ => run_holding_of_refused

theorem keepsLockOrder_isFixed (frame : Frame) :
    KeepsLockOrder context (isFixed context frame : Operation ε (Coremap π) Bool) := by
  refine .of_keepsTo (fun canSleep => ?_) fun c free cannotSleep => ?_
  · exact .bind (keepsTo_inspect _ canSleep) fun _ => .pure _
  · exact run_holding_bind_of_refused free cannotSleep

/-- Every call keeps to the order of the locks, whoever makes it. A thread may sleep unless it
handles an interrupt, since the identity that stands for nobody is never given to a thread. -/
theorem keepsLockOrder_of_calls (π : Type) [EvictionPolicy π] (context : Option Context) :
    (∀ wanted owner, KeepsLockOrder context
      ((source context : FrameSource (Coremap π)).allocate wanted owner)) ∧
    (∀ owner, KeepsLockOrder context
      ((source context : FrameSource (Coremap π)).allocateSingle owner)) ∧
    (∀ base, KeepsLockOrder context ((source context : FrameSource (Coremap π)).free base)) ∧
    (∀ frame, KeepsLockOrder context
      ((source context : FrameSource (Coremap π)).freeSingle frame)) ∧
    KeepsLockOrder context (frameCount context : Operation Empty (Coremap π) Nat) ∧
    (∀ frame, KeepsLockOrder context
      (descriptor context frame : Operation Empty (Coremap π) (Option Descriptor))) ∧
    (∀ frame, KeepsLockOrder context (isFixed context frame : Operation Empty (Coremap π) Bool)) ∧
    (∀ owner, KeepsLockOrder context (heldBy context owner : Operation Empty (Coremap π) Nat)) ∧
    KeepsLockOrder context (stats context : Operation Empty (Coremap π) FrameCounts) := by
  exact ⟨fun _ _ => keepsLockOrder_allocate _ _, fun _ => keepsLockOrder_allocate _ _,
    fun _ => keepsLockOrder_releaseBlock _ _, fun _ => keepsLockOrder_releaseBlock _ _,
    keepsLockOrder_inspect _, fun _ => keepsLockOrder_inspect _,
    fun _ => keepsLockOrder_isFixed _, fun _ => keepsLockOrder_inspect _,
    keepsLockOrder_inspect _⟩

end Coremap

end PagedMemory
