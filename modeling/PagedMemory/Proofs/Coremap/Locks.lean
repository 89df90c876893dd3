import Mathlib.Tactic.ByContra
import PagedMemory.Coremap.Allocate
import PagedMemory.Proofs.Operation.Ends

/-!
# Critical sections

A critical section is entered by a thread that may sleep, when nobody holds the
lock; it then runs with the lock taken and leaves it free again, however it
ends. A thread that may not sleep is refused before anything has changed.
-/

namespace PagedMemory

/-- The running thread may wait for a sleeping lock: it is no interrupt handler,
and its identity is that of a thread. -/
def CanSleep (context : Option Context) : Prop :=
  Context.handlesInterrupt context = false ∧ Context.currentThread context ≠ SleepLock.nobody

instance (context : Option Context) : Decidable (CanSleep context) :=
  inferInstanceAs (Decidable (_ ∧ _))

namespace SleepLock

variable {context : Option Context}

theorem acquirer_free (canSleep : CanSleep context) :
    SleepLock.free.acquirer context = .ok (Context.currentThread context) := by
  have notHeld : SleepLock.free.heldByCurrent context = false := by
    simpa [heldByCurrent, heldBy, free] using Ne.symm canSleep.2
  simp [acquirer, canSleep.1, notHeld]

theorem acquirer_free_eq_error (cannotSleep : ¬ CanSleep context) :
    ∃ cause, SleepLock.free.acquirer context = .error cause := by
  by_cases handles : Context.handlesInterrupt context = true
  · exact ⟨.sleepInInterrupt, by simp [acquirer, handles]⟩
  · have isNobody : Context.currentThread context = nobody := by
      by_contra someone
      exact cannotSleep ⟨by simpa using handles, someone⟩
    cases context with
    | none => cases isNobody
    | some context =>
      refine ⟨.sleepLockRecursion, ?_⟩
      simp [acquirer, handles, heldByCurrent, heldBy, free, isNobody]

end SleepLock

namespace CoremapLocks

@[simp]
theorem get_set (locks : CoremapLocks) (which : CoremapLock) (lock : SleepLock) :
    (locks.set which lock).get which = lock := by
  cases which <;> rfl

theorem set_set_get (locks : CoremapLocks) (which : CoremapLock) (lock : SleepLock) :
    (locks.set which lock).set which (locks.get which) = locks := by
  cases which <;> rfl

end CoremapLocks

namespace Coremap

variable {ε π α : Type} {c t : Coremap π} {context : Option Context} {left : Nat}

theorem ends_acquire {which : CoremapLock} {post : Post ε (Coremap π) Unit}
    (free : c.locks.get which = .free)
    (refused : ¬ CanSleep context → ∀ cause, post.panic cause c)
    (acquired : CanSleep context → ∀ left', left = left' + draws [.acquired which] →
      post.value ()
        { c with locks := c.locks.set which ⟨Context.currentThread context⟩ } left') :
    (acquire context which).Ends left c post := by
  unfold Operation.Ends Operation.run acquire
  by_cases canSleep : CanSleep context
  · have claimed : SleepLock.free.claim (Context.currentThread context) =
        some ⟨Context.currentThread context⟩ := if_pos rfl
    simp only [free, SleepLock.acquirer_free canSleep, claimed]
    intro few
    exact acquired canSleep _ (Nat.sub_add_cancel few).symm
  · obtain ⟨cause, refusal⟩ := SleepLock.acquirer_free_eq_error canSleep
    simp only [free, refusal]
    exact fun _ => refused canSleep cause

theorem ends_release {which : CoremapLock} {post : Post Empty (Coremap π) Unit}
    (mine : (c.locks.get which).owner = Context.currentThread context) :
    (release context which).Ends left c post ↔
      post.value () { c with locks := c.locks.set which .free } left := by
  have given : (c.locks.get which).release context = .ok .free := by
    simp [SleepLock.release, SleepLock.heldByCurrent, SleepLock.heldBy, mine]
  simp only [Operation.Ends, Operation.run, release, given, Outcome.Meets]
  simp [draws]

/-- The rule for a critical section: it begins once the lock is taken, ends when
the lock is given back, and does not begin if the caller may not sleep. -/
theorem ends_holding {which : CoremapLock} {body : Operation ε (Coremap π) α}
    {post : Post ε (Coremap π) α} (free : c.locks.get which = .free)
    (refused : ¬ CanSleep context → ∀ cause, post.panic cause c)
    (held : CanSleep context → ∀ left', left = left' + draws [.acquired which] →
      let taken := c.locks.set which ⟨Context.currentThread context⟩
      body.Ends left' { c with locks := taken }
        ⟨fun a t left => t.locks = taken ∧ post.value a { t with locks := c.locks } left,
          fun e t left => t.locks = taken ∧ post.error e { t with locks := c.locks } left,
          fun cause t => t.locks = taken ∧ post.panic cause { t with locks := c.locks }⟩) :
    (holding context which body).Ends left c post := by
  have mine (t : Coremap π)
      (kept : t.locks = c.locks.set which ⟨Context.currentThread context⟩) :
      (t.locks.get which).owner = Context.currentThread context := by
    rw [kept, CoremapLocks.get_set]
  have back (t : Coremap π)
      (kept : t.locks = c.locks.set which ⟨Context.currentThread context⟩) :
      t.locks.set which .free = c.locks := by
    rw [kept, ← free, CoremapLocks.set_set_get]
  unfold holding
  rw [Operation.ends_bind]
  refine ends_acquire free refused ?_
  intro canSleep left' enough
  refine ((held canSleep left' enough).mono ?_ ?_ ?_).ensuring
  · rintro a t left ⟨kept, done⟩
    refine (ends_release (mine t kept)).mpr ?_
    rw [back t kept]
    exact done
  · rintro e t left ⟨kept, done⟩
    refine (ends_release (mine t kept)).mpr ?_
    rw [back t kept]
    exact done
  · rintro cause t ⟨kept, done⟩ left
    refine (ends_release (mine t kept)).mpr ?_
    rw [back t kept]
    exact done

/-- The rule for a section in which the cursor and the descriptors are locked. -/
theorem ends_holdingCursorAndFrames {body : Operation ε (Coremap π) α}
    {post : Post ε (Coremap π) α} (free : c.locks = .free)
    (refused : ¬ CanSleep context → ∀ cause, post.panic cause c)
    (held : CanSleep context →
      let taken : CoremapLocks :=
        ⟨.free, ⟨Context.currentThread context⟩, ⟨Context.currentThread context⟩⟩
      body.Ends left { c with locks := taken }
        ⟨fun a t left => t.locks = taken ∧ post.value a { t with locks := .free } left,
          fun e t left => t.locks = taken ∧ post.error e { t with locks := .free } left,
          fun cause t => t.locks = taken ∧ post.panic cause { t with locks := .free }⟩) :
    (holdingCursorAndFrames context body).Ends left c post := by
  refine ends_holding (by rw [free]; rfl) refused ?_
  intro canSleep left' enough
  obtain rfl : left = left' := by simpa [draws] using enough
  refine ends_holding (by rw [free]; rfl) (fun cannot => absurd canSleep cannot) ?_
  intro _ left' enough
  obtain rfl : left = left' := by simpa [draws] using enough
  simp only [free, CoremapLocks.set, CoremapLocks.free] at held ⊢
  refine (held canSleep).mono ?_ ?_ ?_
  · exact fun a t left done => ⟨done.1, trivial, done.2⟩
  · exact fun e t left done => ⟨done.1, trivial, done.2⟩
  · exact fun cause t done => ⟨done.1, trivial, done.2⟩

/-- A free lock is taken. -/
theorem run_acquire {which : CoremapLock} (free : c.locks.get which = .free)
    (canSleep : CanSleep context) :
    (acquire context which : Operation ε (Coremap π) Unit).run c =
      ⟨.value (), { c with locks := c.locks.set which ⟨Context.currentThread context⟩ },
        [.acquired which]⟩ := by
  have claimed : SleepLock.free.claim (Context.currentThread context) =
      some ⟨Context.currentThread context⟩ := if_pos rfl
  simp only [Operation.run, acquire, free, SleepLock.acquirer_free canSleep, claimed]

/-- A lock that the thread holds is given back. -/
theorem run_release {which : CoremapLock}
    (mine : c.locks.get which = ⟨Context.currentThread context⟩) :
    (release context which).run c =
      ⟨.value (), { c with locks := c.locks.set which .free }, [.released which]⟩ := by
  have given : (c.locks.get which).release context = .ok .free := by
    simp [mine, SleepLock.release, SleepLock.heldByCurrent, SleepLock.heldBy]
  simp only [Operation.run, release, given]

/-- The run of a critical section: what its body does, between taking the lock and
giving it back. -/
theorem run_holding {which : CoremapLock} {body : Operation ε (Coremap π) α}
    {result : Result ε α} {shown : List Event} (free : c.locks.get which = .free)
    (canSleep : CanSleep context)
    (inside : body.run
      { c with locks := c.locks.set which ⟨Context.currentThread context⟩ } = ⟨result, t, shown⟩)
    (kept : t.locks = c.locks.set which ⟨Context.currentThread context⟩) :
    (holding context which body).run c =
      ⟨result, { t with locks := c.locks }, .acquired which :: shown ++ [.released which]⟩ := by
  have released : (release context which).run t =
      ⟨.value (), { t with locks := c.locks }, [.released which]⟩ := by
    rw [run_release (by rw [kept, CoremapLocks.get_set]), kept, ← free,
      CoremapLocks.set_set_get]
  rw [holding, Operation.run_bind_of_value (run_acquire free canSleep)]
  unfold Operation.run at inside released ⊢
  rw [Operation.ensuring, inside]
  simp only [released]
  rfl

/-- A caller that may not sleep is refused before the section begins. -/
theorem run_holding_of_refused {which : CoremapLock} {body : Operation ε (Coremap π) α}
    (free : c.locks = .free) (cannotSleep : ¬ CanSleep context) :
    ∃ cause, (holding context which body).run c = ⟨.panic cause, c, []⟩ := by
  have unheld : c.locks.get which = .free := by
    rw [free]
    cases which <;> rfl
  obtain ⟨cause, refusal⟩ := SleepLock.acquirer_free_eq_error cannotSleep
  have refused : (acquire context which : Operation ε (Coremap π) Unit).run c =
      ⟨.panic cause, c, []⟩ := by
    simp only [Operation.run, acquire, unheld, refusal]
  exact ⟨cause, Operation.run_bind_of_panic refused⟩

theorem run_holding_bind_of_refused {β : Type} {which : CoremapLock}
    {body : Operation ε (Coremap π) α} {next : α → Operation ε (Coremap π) β}
    (free : c.locks = .free) (cannotSleep : ¬ CanSleep context) :
    ∃ cause, (holding context which body >>= next).run c = ⟨.panic cause, c, []⟩ := by
  obtain ⟨cause, refused⟩ := run_holding_of_refused free cannotSleep
  exact ⟨cause, Operation.run_bind_of_panic refused⟩

/-- The run of a section in which the cursor and the descriptors are locked. -/
theorem run_holdingCursorAndFrames {body : Operation ε (Coremap π) α} {result : Result ε α}
    {shown : List Event} (free : c.locks = .free) (canSleep : CanSleep context)
    (inside : body.run { c with locks :=
        ⟨.free, ⟨Context.currentThread context⟩, ⟨Context.currentThread context⟩⟩ } =
      ⟨result, t, shown⟩)
    (kept : t.locks =
      ⟨.free, ⟨Context.currentThread context⟩, ⟨Context.currentThread context⟩⟩) :
    (holdingCursorAndFrames context body).run c =
      ⟨result, { t with locks := .free },
        .acquired .cursor :: .acquired .frames :: shown ++ [.released .frames, .released .cursor]⟩
    := by
  have entered : (⟨.free, ⟨Context.currentThread context⟩, .free⟩ : CoremapLocks) =
      c.locks.set .cursor ⟨Context.currentThread context⟩ := by
    rw [free]
    rfl
  have inner : (holding context .frames body).run
      { c with locks := ⟨.free, ⟨Context.currentThread context⟩, .free⟩ } = _ :=
    run_holding rfl canSleep inside kept
  rw [entered] at inner
  have outer : (holding context .cursor (holding context .frames body)).run c = _ :=
    run_holding (by rw [free]; rfl) canSleep inner rfl
  rw [holdingCursorAndFrames, outer, free]
  simp

/-- A frame is looked up while the descriptors are locked. -/
theorem ends_isFixed {frame : Frame} {post : Post ε (Coremap π) Bool} (free : c.locks = .free)
    (refused : ¬ CanSleep context → ∀ cause, post.panic cause c)
    (found : post.value (c.frames[frame.number]?.any Descriptor.isFixed) c left) :
    (isFixed context frame).Ends left c post := by
  refine Operation.ends_bind.mpr (ends_holding (by rw [free]; rfl) refused ?_)
  intro _ left' enough
  obtain rfl : left = left' := by simpa [draws] using enough
  refine Operation.ends_read.mpr ⟨rfl, ?_⟩
  exact Operation.ends_pure.mpr found

end Coremap

end PagedMemory
