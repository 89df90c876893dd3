import Mathlib.Logic.ExistsUnique
import PagedMemory.Proofs.Coremap.Guarded
import PagedMemory.Proofs.Coremap.Sound

/-!
# The coremap after any calls

Calls may be made by any thread, with any arguments and under any policy, and
each may return, report an error or panic. As long as the counter of identities
does not start over, the descriptors are those of disjoint blocks behind the
reserved frames.
-/

namespace PagedMemory.Coremap

variable {π : Type} [EvictionPolicy π]

/-- A call of the allocator. -/
inductive Call where
  | allocate (wanted : Nat) (owner : Owner)
  | allocateSingle (owner : Owner)
  | free (base : Frame)
  | freeSingle (frame : Frame)
deriving DecidableEq

namespace Call

/-- Whether the call asks for frames. -/
def allocates : Call → Bool
  | .allocate _ _ | .allocateSingle _ => true
  | .free _ | .freeSingle _ => false

/-- The coremap after a call by a thread, however the call ends. -/
def after (context : Option Context) (c : Coremap π) : Call → Coremap π
  | .allocate wanted owner => (((source context).allocate wanted owner).run c).state
  | .allocateSingle owner => (((source context).allocateSingle owner).run c).state
  | .free base => (((source context).free base).run c).state
  | .freeSingle frame => (((source context).freeSingle frame).run c).state

end Call

/-- The coremap after calls by some threads, one after the other. -/
def afterCalls (c : Coremap π) : List (Option Context × Call) → Coremap π
  | [] => c
  | (context, call) :: rest => afterCalls (call.after context c) rest

/-- A call leaves the locks free. -/
theorem Call.guarded_after {c : Coremap π} (guarded : c.Guarded .free)
    (context : Option Context) (call : Call) : (call.after context c).Guarded .free := by
  have kept := preserves_source (π := π) context
  cases call with
  | allocate wanted owner => exact kept.allocate wanted owner c guarded
  | allocateSingle owner => exact kept.allocateSingle owner c guarded
  | free base => exact kept.free base c guarded
  | freeSingle frame => exact kept.freeSingle frame c guarded

/-- Calls leave the locks free, however often the counter starts over. -/
theorem guarded_afterCalls {c : Coremap π} (guarded : c.Guarded .free)
    (calls : List (Option Context × Call)) : (afterCalls c calls).Guarded .free := by
  induction calls generalizing c with
  | nil => exact guarded
  | cons first rest ih => exact ih (first.2.guarded_after guarded first.1)

/-- How many of some calls ask for frames. -/
def allocations (calls : List (Option Context × Call)) : Nat :=
  calls.countP fun call => call.2.allocates

theorem advanced_after {c : Coremap π} (sound : c.Sound) (context : Option Context) (call : Call)
    (room : c.Room (if call.allocates then 1 else 0)) :
    Advanced (if call.allocates then 1 else 0) c (call.after context c) := by
  cases call with
  | allocate wanted owner => exact Operation.state_of_ends fun _ => ends_allocate_sound sound room
  | allocateSingle owner => exact Operation.state_of_ends fun _ => ends_allocate_sound sound room
  | free base =>
    exact Operation.state_of_ends fun _ =>
      (ends_releaseBlock_sound sound).mono (fun _ _ _ => id) (fun _ _ _ => False.elim) fun _ _ => id
  | freeSingle frame =>
    exact Operation.state_of_ends fun _ =>
      (ends_releaseBlock_sound sound).mono (fun _ _ _ => id) (fun _ _ _ => False.elim) fun _ _ => id

/-- What is left of the room for some calls once the first of them was made. -/
theorem advanced_cons {c : Coremap π} (sound : c.Sound) (context : Option Context) (call : Call)
    (rest : List (Option Context × Call))
    (room : c.Room (allocations ((context, call) :: rest))) :
    c.Room (if call.allocates then 1 else 0) ∧
      Advanced (if call.allocates then 1 else 0) c (call.after context c) ∧
      (call.after context c).Room (allocations rest) := by
  have count : allocations ((context, call) :: rest) =
      allocations rest + if call.allocates then 1 else 0 :=
    List.countP_cons
  rw [count] at room
  unfold Room at room
  have roomNow : c.Room (if call.allocates then 1 else 0) := by
    unfold Room
    omega
  have advanced := advanced_after sound context call roomNow
  refine ⟨roomNow, advanced, ?_⟩
  have := advanced.nextBlock
  unfold Room
  omega

/-- Calls keep a coremap sound as long as the counter does not start over. -/
theorem sound_afterCalls {c : Coremap π} (sound : c.Sound) (calls : List (Option Context × Call))
    (room : c.Room (allocations calls)) :
    (afterCalls c calls).Sound ∧ (afterCalls c calls).reservation = c.reservation := by
  induction calls generalizing c with
  | nil => exact ⟨sound, rfl⟩
  | cons first rest ih =>
    obtain ⟨_, advanced, roomAfter⟩ := advanced_cons sound first.1 first.2 rest room
    obtain ⟨soundAfter, reservation⟩ := ih advanced.sound roomAfter
    exact ⟨soundAfter, reservation.trans advanced.reservation⟩

/-- After some calls there is room for those that are still to come. -/
theorem ready_afterCalls {c : Coremap π} {earlier later : List (Option Context × Call)}
    (ready : c.Ready (allocations (earlier ++ later))) :
    (afterCalls c earlier).Ready (allocations later) := by
  induction earlier generalizing c with
  | nil => exact ready
  | cons first rest ih =>
    obtain ⟨_, advanced, roomAfter⟩ :=
      advanced_cons ready.sound first.1 first.2 (rest ++ later) ready.room
    exact ih ⟨advanced.sound, roomAfter⟩

omit [EvictionPolicy π] in
/-- A coremap that was built at boot has room for fewer calls than there are
identities. -/
theorem ready_of_built {layout : RamLayout} {policy : π} {ram ram' : Ram} {start : Coremap π}
    {shown : List Event} (built : (bootstrap layout policy).run ram = ⟨.value start, ram', shown⟩)
    {calls : List (Option Context × Call)} (few : allocations calls < 0xFFFFFFFF) :
    start.Ready (allocations calls) := by
  obtain ⟨reservation, reserves, leavesRoom, rfl⟩ := bootstrap_eq_value built
  obtain ⟨storage, _, rfl⟩ := Option.map_eq_some_iff.mp reserves
  refine ⟨sound_initial policy leavesRoom (Nat.le_of_lt (frameCount_lt layout)), ?_⟩
  change 1 + allocations calls < 0x100000000
  omega

/-- After any calls nobody holds a lock, also once identities have come round again. -/
theorem guarded_of_built {layout : RamLayout} {policy : π} {ram ram' : Ram} {start : Coremap π}
    {shown : List Event} (built : (bootstrap layout policy).run ram = ⟨.value start, ram', shown⟩)
    (calls : List (Option Context × Call)) : (afterCalls start calls).Guarded .free := by
  obtain ⟨reservation, reserves, _, rfl⟩ := bootstrap_eq_value built
  obtain ⟨storage, _, rfl⟩ := Option.map_eq_some_iff.mp reserves
  exact guarded_afterCalls (guarded_initial layout policy rfl) calls

/-- After any calls the reserved frames are exactly those reserved at boot, a
free frame carries nothing, every frame in use lies in exactly one block, and
the cursor is frame zero or a free frame. Blocks lie behind the reserved frames
and carry identities that were drawn. -/
theorem representation_afterCalls {layout : RamLayout} {policy : π} {ram ram' : Ram}
    {start : Coremap π} {shown : List Event}
    (built : (bootstrap layout policy).run ram = ⟨.value start, ram', shown⟩)
    (calls : List (Option Context × Call)) (few : allocations calls < 0xFFFFFFFF) :
    let c := afterCalls start calls
    ∃ reservation, layout.reservation? = some reservation ∧
      c.frames.size = layout.frameCount ∧
      (∀ i, c.frames[i]? = some .fixed ↔ i < reservation.firstAllocatable) ∧
      (∀ (i : Nat) (descriptor : Descriptor), c.frames[i]? = some descriptor →
        descriptor.isFree = true →
          descriptor.owner = none ∧ descriptor.block = none ∧ descriptor.size = none) ∧
      (∀ (i : Nat) (descriptor : Descriptor), c.frames[i]? = some descriptor →
        descriptor.isInUse = true → ∃! b : Block, Live c.frames b ∧ b.Covers i) ∧
      (∀ b, Live c.frames b →
        reservation.firstAllocatable ≤ b.base ∧ b.base + b.size ≤ layout.frameCount ∧
          1 ≤ b.id.number ∧ b.id.number < c.nextBlock.number) ∧
      (c.cursor = 0 ∨ c.frames[c.cursor]? = some .free) := by
  intro c
  obtain ⟨reservation, reserves, leavesRoom, rfl⟩ := bootstrap_eq_value built
  have count : reservation.frameCount = layout.frameCount := by
    obtain ⟨_, _, rfl⟩ := Option.map_eq_some_iff.mp reserves
    rfl
  have frameCountLe : reservation.frameCount ≤ 0x100000 :=
    count ▸ Nat.le_of_lt (frameCount_lt layout)
  have roomAtBoot : (initial reservation policy).Room (allocations calls) := by
    change 1 + allocations calls < 0x100000000
    omega
  obtain ⟨sound, same⟩ :=
    sound_afterCalls (sound_initial policy leavesRoom frameCountLe) calls roomAtBoot
  have reservationAfter : c.reservation = reservation := same
  refine ⟨reservation, reserves, ?_, ?_, ?_, ?_, ?_, sound.cursor⟩
  · rw [← count, ← reservationAfter]
    exact sound.size_eq
  · rw [← reservationAfter]
    exact sound.tiled.fixed_iff
  · intro i descriptor _ isFree
    cases descriptor with
    | free => exact ⟨rfl, rfl, rfl⟩
    | fixed => cases isFree
    | inUse owner block size => cases isFree
  · intro i descriptor recorded inUse
    cases descriptor with
    | free => cases inUse
    | fixed => cases inUse
    | inUse owner block size =>
      obtain ⟨base, live, covers⟩ := sound.tiled.covered i owner block size recorded
      exact ⟨_, ⟨live, covers⟩, fun d other => other.1.eq_of_covers live other.2 covers⟩
  · intro b live
    have below : reservation.firstAllocatable ≤ b.base :=
      reservationAfter ▸ sound.tiled.reserved_le live
    have size : c.frames.size = layout.frameCount := by
      rw [← count, ← reservationAfter]
      exact sound.size_eq
    obtain ⟨positive, drawn⟩ := sound.drawn b live
    exact ⟨below, size ▸ live.within, positive, drawn⟩

/-- Of eight frames three are reserved, by an image that ends in the second and by the
descriptors behind it. -/
theorem exists_bootstrap {π : Type} (policy : π) (bytes : ByteArray) :
    ∃ shown, (bootstrap ⟨.ofNat 0x1800, .ofNat 0x8000⟩ policy).run ⟨.directMap, bytes⟩ =
      ⟨.value (initial ⟨8, .ofNat 0x2000⟩ policy), ⟨.directMap, bytes⟩, shown⟩ :=
  ⟨_, rfl⟩

/-- Five calls on eight frames, three of them reserved: two frames, three frames,
a release of the wrong kind, a release in an interrupt handler, and two frames
for which a block of two is evicted. -/
theorem representation_afterCalls_evicting :
    let layout : RamLayout := ⟨.ofNat 0x1800, .ofNat 0x8000⟩
    let policy : EvictionRules := ⟨true, none, none, some 3⟩
    let ram : Ram := ⟨.directMap, .empty⟩
    let start : Coremap EvictionRules := initial ⟨8, .ofNat 0x2000⟩ policy
    let calls : List (Option Context × Call) :=
      [(none, .allocate 2 .kernel), (none, .allocate 3 (.space ⟨1⟩)),
        (none, .freeSingle (.ofNumber 3)), (some ⟨7, true⟩, .free (.ofNumber 3)),
        (some ⟨7, false⟩, .allocate 2 (.space ⟨2⟩))]
    (∃ shown, (bootstrap layout policy).run ram = ⟨.value start, ram, shown⟩) ∧
      allocations calls < 0xFFFFFFFF ∧
      (afterCalls start calls).frames =
        #[.fixed, .fixed, .fixed, .inUse (.space ⟨2⟩) ⟨3⟩ 2, .inUse (.space ⟨2⟩) ⟨3⟩ 2,
          .inUse (.space ⟨1⟩) ⟨2⟩ 3, .inUse (.space ⟨1⟩) ⟨2⟩ 3, .inUse (.space ⟨1⟩) ⟨2⟩ 3] ∧
      ∃! b : Block, Live (afterCalls start calls).frames b ∧ b.Covers 4 := by
  intro layout policy ram start calls
  obtain ⟨_, built⟩ := exists_bootstrap policy .empty
  have few : allocations calls < 0xFFFFFFFF := by
    decide
  have frames : (afterCalls start calls).frames =
      #[.fixed, .fixed, .fixed, .inUse (.space ⟨2⟩) ⟨3⟩ 2, .inUse (.space ⟨2⟩) ⟨3⟩ 2,
        .inUse (.space ⟨1⟩) ⟨2⟩ 3, .inUse (.space ⟨1⟩) ⟨2⟩ 3, .inUse (.space ⟨1⟩) ⟨2⟩ 3] := by
    decide +kernel
  refine ⟨⟨_, built⟩, few, frames, ?_⟩
  obtain ⟨_, _, _, _, _, inUse, _⟩ := representation_afterCalls built calls few
  refine inUse 4 (.inUse (.space ⟨2⟩) ⟨3⟩ 2) ?_ rfl
  rw [frames]
  rfl

end PagedMemory.Coremap
