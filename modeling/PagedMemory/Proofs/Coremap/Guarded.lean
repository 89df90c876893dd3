import PagedMemory.Proofs.Coremap.Locks
import PagedMemory.Proofs.Coremap.Sections
import PagedMemory.Proofs.Operation.Preserves

/-!
# What every call of the coremap preserves

Between two calls nobody holds a lock, there are no more descriptors than frames
that an address can name, and no frame in use is recorded as one of none. This
needs no assumption on the blocks, on the policy or on how far the identities
have come: whatever a critical section does, it leaves the locks as it found them
and the number of descriptors alone, and the section gives back what it took.
-/

namespace PagedMemory

open Operation

namespace Coremap

variable {ε π α : Type} {context : Option Context} {locks : CoremapLocks}

/-- No frame is recorded as part of an allocation of no frames. -/
def Sized (frames : Array Descriptor) : Prop :=
  ∀ (i : Nat) owner block size, frames[i]? = some (.inUse owner block size) → 0 < size

theorem Sized.fill {frames : Array Descriptor} (sized : Sized frames) {descriptor : Descriptor}
    (positive : ∀ owner block size, descriptor = .inUse owner block size → 0 < size)
    (start n : Nat) : Sized (fill descriptor frames start n) := by
  intro i owner block size recorded
  rw [getElem?_fill] at recorded
  split at recorded
  · exact positive owner block size (Option.some.inj recorded)
  · exact sized i owner block size recorded

/-- The locks are held as said, every frame can be named, and allocations have frames. -/
structure Guarded (locks : CoremapLocks) (c : Coremap π) : Prop where
  held : c.locks = locks
  few : c.frames.size ≤ 0x100000
  sized : Sized c.frames

/-- A run of frames is freed. -/
theorem Guarded.fill_free {c : Coremap π} (guarded : c.Guarded locks) (start n : Nat) :
    Guarded locks { c with frames := fill .free c.frames start n } where
  held := guarded.held
  few := (size_fill _ _ _ _).symm ▸ guarded.few
  sized := guarded.sized.fill (fun _ _ _ => Descriptor.noConfusion) start n

theorem guarded_initial (layout : RamLayout) {reservation : Reservation} (policy : π)
    (count : reservation.frameCount = layout.frameCount) :
    (initial reservation policy).Guarded .free where
  held := rfl
  few := by
    have size : (initial reservation policy).frames.size = layout.frameCount := by
      simp [initial, count]
    have := layout.lastAddr.lt
    unfold RamLayout.frameCount at size
    omega
  sized i owner block size recorded := by
    obtain ⟨inRange, isInUse⟩ := Array.getElem?_eq_some_iff.mp recorded
    simp only [initial, Array.getElem_ofFn] at isInUse
    split at isInUse <;> cases isInUse

/-! ## Inside a critical section -/

theorem preserves_search [EvictionPolicy π] (wanted : Nat) :
    (search wanted : Operation ε (Coremap π) (Option Nat)).Preserves (Guarded locks) :=
  fun _ guarded => ⟨guarded.held, guarded.few, guarded.sized⟩

theorem preserves_surrender [EvictionPolicy π] (base : Frame) (size : Nat) (victim : Descriptor) :
    (surrender base size victim : Operation ε (Coremap π) Unit).Preserves (Guarded locks) := by
  intro c guarded
  unfold Operation.run surrender
  split <;> exact ⟨guarded.held, guarded.few, guarded.sized⟩

theorem preserves_vacate (base : Frame) (block : BlockId) (size : Nat) :
    (vacate base block size : Operation ε (Coremap π) Unit).Preserves (Guarded locks) := by
  have each (index : Nat) :
      (vacateFrom base block size index : Operation ε (Coremap π) Unit).Preserves
        (Guarded locks) := by
    induction size generalizing index with
    | zero => exact .pure ()
    | succ size ih =>
      refine .bind (.read _) fun _ => .bind (.require _ _) fun _ => .bind (.change ?_) fun _ => ih _
      exact fun c guarded => guarded.fill_free _ 1
  exact .bind (.read _) fun _ => .bind (.require _ _) fun _ => each _

theorem preserves_evictBlock [EvictionPolicy π] (index : Nat) (owner : Owner) (block : BlockId)
    (size : Nat) :
    (evictBlock index owner block size : Operation ε (Coremap π) Nat).Preserves
      (Guarded locks) := by
  refine .bind (.read _) fun start => .bind (preserves_surrender _ _ _) fun _ => ?_
  exact .bind (preserves_vacate _ _ _) fun _ => .bind (.log _ _) fun _ => .pure _

theorem preserves_evictRun [EvictionPolicy π] (stop fuel index : Nat) :
    (evictRun stop fuel index : Operation ε (Coremap π) Unit).Preserves (Guarded locks) := by
  induction fuel generalizing index with
  | zero => exact .pure ()
  | succ fuel ih =>
    unfold evictRun
    split
    · refine .bind (.read _) fun found => ?_
      split
      · exact .bind (preserves_evictBlock _ _ _ _) fun next => ih next
      · exact ih (index + 1)
    · exact .pure ()

theorem preserves_claim [EvictionPolicy π] {wanted : Nat} (positive : 0 < wanted) (owner : Owner)
    (block : BlockId) :
    (claim wanted owner block : Operation ε (Coremap π) (Option Frame)).Preserves
      (Guarded locks) := by
  refine .bind (preserves_search wanted) fun found => ?_
  split
  · exact .pure _
  · refine .bind (.read _) fun _ => .bind (preserves_evictRun _ _ _) fun _ =>
      .bind (.change fun c guarded => ?_) fun _ => .pure _
    refine ⟨guarded.held, (size_fill _ _ _ _).symm ▸ guarded.few, guarded.sized.fill ?_ _ _⟩
    rintro _ _ _ ⟨⟩
    exact positive

theorem preserves_reclaim (base : Frame) (single : Bool) :
    (reclaim base single : Operation ε (Coremap π) Nat).Preserves (Guarded locks) := by
  refine .bind (.read _) fun found => ?_
  split
  · exact .abort _
  · refine .bind (.require _ _) fun _ => .bind (.read _) fun _ => .bind (.require _ _) fun _ => ?_
    refine .bind (preserves_vacate _ _ _) fun _ => .bind (.change fun c guarded => ?_) fun _ =>
      .pure _
    exact ⟨guarded.held, guarded.few, guarded.sized⟩
  · exact .abort _

/-! ## Whole calls -/

/-- A critical section gives back the lock that it took. -/
theorem preserves_holding {which : CoremapLock} {body : Operation ε (Coremap π) α}
    (free : locks.get which = .free)
    (kept : ∀ taken, body.Preserves (Guarded taken)) :
    (holding context which body).Preserves (Guarded locks) := by
  refine preserves_of_ends fun c guarded left => ?_
  refine ends_holding (guarded.held ▸ free) (fun _ _ => guarded) ?_
  intro _ left' _ taken
  have entered : Guarded taken { c with locks := taken } :=
    ⟨rfl, guarded.few, guarded.sized⟩
  refine ((kept taken).ends entered).mono ?_ ?_ ?_
  · exact fun _ t _ after => ⟨after.held, guarded.held, after.few, after.sized⟩
  · exact fun _ t _ after => ⟨after.held, guarded.held, after.few, after.sized⟩
  · exact fun _ t after => ⟨after.held, guarded.held, after.few, after.sized⟩

/-- The section in which the cursor and the descriptors are locked. -/
theorem preserves_holdingCursorAndFrames {body : Operation ε (Coremap π) α}
    (kept : ∀ taken, body.Preserves (Guarded taken)) :
    (holdingCursorAndFrames context body).Preserves (Guarded .free) := by
  refine preserves_of_ends fun c guarded left => ?_
  refine ends_holdingCursorAndFrames guarded.held (fun _ _ => guarded) ?_
  intro _ taken
  have entered : Guarded taken { c with locks := taken } :=
    ⟨rfl, guarded.few, guarded.sized⟩
  refine ((kept taken).ends entered).mono ?_ ?_ ?_
  · exact fun _ t _ after => ⟨after.held, rfl, after.few, after.sized⟩
  · exact fun _ t _ after => ⟨after.held, rfl, after.few, after.sized⟩
  · exact fun _ t after => ⟨after.held, rfl, after.few, after.sized⟩

theorem preserves_allocate [EvictionPolicy π] (wanted : Nat) (owner : Owner) :
    (allocate context wanted owner : Operation _ (Coremap π) Frame).Preserves
      (Guarded .free) := by
  have drawn : (holding context .identity drawBlock :
      Operation OutOfMemory (Coremap π) BlockId).Preserves (Guarded .free) :=
    preserves_holding rfl fun _ _ guarded => ⟨guarded.held, guarded.few, guarded.sized⟩
  rcases Nat.eq_zero_or_pos wanted with rfl | positive
  · exact .still fun _ => rfl
  refine .bind (.require _ _) fun _ => drawn.bind fun block => ?_
  refine .bind (preserves_holdingCursorAndFrames fun _ => preserves_claim positive _ _) ?_
  intro found
  split
  · exact .bind (.log _ _) fun _ => .pure _
  · exact .bind (.log _ _) fun _ => .fail _

theorem preserves_releaseBlock (base : Frame) (single : Bool) :
    (releaseBlock context base single : Operation ε (Coremap π) Unit).Preserves (Guarded .free) :=
  .bind (preserves_holdingCursorAndFrames fun _ => preserves_reclaim _ _) fun _ => .log _ _

theorem preserves_isFixed (frame : Frame) :
    (isFixed context frame : Operation ε (Coremap π) Bool).Preserves (Guarded .free) :=
  .bind (preserves_holding rfl fun _ => .read _) fun _ => .pure _

/-! ## What a call gets -/

section NoEviction

variable {c : Coremap NoEviction} {left wanted : Nat} {owner : Owner}

/-- The run of frames that an allocation would get, by its first frame. -/
def grant? (c : Coremap NoEviction) (wanted : Nat) : Option Frame :=
  (findRunFrom c.frames c.cursor wanted c.policy).1.map .ofNumber

/-- The section of an allocation claims the run that the search finds, all of it free
until then, or it finds none and changes nothing. -/
theorem ends_claim_section_of_guarded {block : BlockId} (guarded : c.Guarded .free)
    (canSleep : CanSleep context) :
    (holdingCursorAndFrames context (claim wanted owner block) :
        Operation ε (Coremap NoEviction) (Option Frame)).Ends left c
      ⟨fun base t _ => c.grant? wanted = base ∧ match base with
        | none => t = c
        | some base =>
          (∀ i, base.number ≤ i → i < base.number + wanted → c.frames[i]? = some .free) ∧
            t.frames = fill (.inUse owner block wanted) c.frames base.number wanted,
        fun _ _ _ => False,
        fun _ _ => False⟩ := by
  refine ends_holdingCursorAndFrames guarded.held (fun cannot => absurd canSleep cannot) ?_
  intro _ taken
  rcases found : findRunFrom c.frames c.cursor wanted c.policy with ⟨_ | start, policy⟩
  · have run := run_claim_of_missed (ε := ε) (c := { c with locks := taken }) found owner block
    refine (Operation.ends_of_run_value run).mpr ⟨rfl, by simp [grant?, found], ?_⟩
    exact guarded.held ▸ rfl
  · obtain ⟨_, number, free, run⟩ := run_claim_of_some (ε := ε) (c := { c with locks := taken })
      owner block guarded.few found
    refine (Operation.ends_of_run_value run).mpr ⟨rfl, by simp [grant?, found], ?_⟩
    exact ⟨by rwa [number], by rw [number]⟩

/-- Between two calls an allocation gets the run that the search finds, all of it free
until then, or it reports that there is none and leaves the descriptors alone. -/
theorem ends_allocate_of_guarded (guarded : c.Guarded .free) (canSleep : CanSleep context)
    (positive : 0 < wanted) :
    (allocate context wanted owner).Ends left c
      ⟨fun base t _ => c.grant? wanted = some base ∧
          (∀ i, base.number ≤ i → i < base.number + wanted → c.frames[i]? = some .free) ∧
          t.frames = fill (.inUse owner c.nextBlock wanted) c.frames base.number wanted,
        fun _ t _ => c.grant? wanted = none ∧ t.frames = c.frames,
        fun _ _ => False⟩ := by
  have able : (wanted != 0) = true := by
    simpa using Nat.ne_of_gt positive
  refine Operation.ends_bind.mpr (Operation.ends_require.mpr ?_)
  rw [if_pos able]
  refine Operation.ends_bind.mpr (ends_holding (by rw [guarded.held]; rfl)
    (fun cannot => absurd canSleep cannot) fun _ left' _ => ?_)
  refine (Operation.ends_of_run_value (run_drawBlock _)).mpr ⟨rfl, ?_⟩
  have drawn : Guarded .free { c with nextBlock := c.nextBlock.succ } :=
    ⟨guarded.held, guarded.few, guarded.sized⟩
  refine (ends_claim_section_of_guarded drawn canSleep).bind ?_ (fun _ _ _ => False.elim)
    fun _ _ => False.elim
  rintro (_ | base) t _ ⟨granted, claimed⟩
  · refine Operation.ends_bind.mpr (Operation.ends_log.mpr (Operation.ends_fail.mpr ?_))
    obtain rfl : t = { c with nextBlock := c.nextBlock.succ } := claimed
    exact ⟨granted, rfl⟩
  · refine Operation.ends_bind.mpr (Operation.ends_log.mpr (Operation.ends_pure.mpr ?_))
    exact ⟨granted, claimed⟩

end NoEviction

end Coremap

/-! ## Frame sources -/

/-- None of the four ways to use a frame source breaks `inv`. -/
structure FrameSource.Preserves {σ : Type} (source : FrameSource σ) (inv : σ → Prop) : Prop where
  allocate : ∀ count owner, (source.allocate count owner).Preserves inv
  allocateSingle : ∀ owner, (source.allocateSingle owner).Preserves inv
  free : ∀ base, (source.free base).Preserves inv
  freeSingle : ∀ frame, (source.freeSingle frame).Preserves inv

theorem Coremap.preserves_source {π : Type} [EvictionPolicy π] (context : Option Context) :
    (source context : FrameSource (Coremap π)).Preserves (Guarded .free) where
  allocate := preserves_allocate
  allocateSingle := preserves_allocate 1
  free base := preserves_releaseBlock base false
  freeSingle frame := preserves_releaseBlock frame true

end PagedMemory
