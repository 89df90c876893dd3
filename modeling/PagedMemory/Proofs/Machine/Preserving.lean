import PagedMemory.Proofs.Machine.Run
import PagedMemory.Proofs.Space.Preserving

/-!
# What requests preserve

Whatever every use of the frame source preserves is preserved by everything that is
asked of a machine, by any thread and also if it ends in a panic. No request touches
the lookaside buffers, and a space goes on living unless it is the one that is
destroyed. Only the construction at boot makes a coremap, so nothing else has to be
asked of it.
-/

namespace PagedMemory

open Operation

variable {ε σ π α : Type} {tlbs : CpuName → Tlb} {ids : List SpaceId}

/-- The frame source satisfies `inv`, the lookaside buffers are as said, and spaces of
some identities live. -/
structure Machine.Retains (inv : σ → Prop) (tlbs : CpuName → Tlb) (ids : List SpaceId)
    (machine : Machine σ) : Prop where
  frames : inv machine.memory.frames
  tlb : machine.tlb = tlbs
  live : ∀ id ∈ ids, ∃ space ∈ machine.spaces, space.id = id

namespace Machine

/-! ## Any frame source -/

section Sourced

variable {inv : σ → Prop} {source : FrameSource σ}

theorem preserves_onMemory {op : Operation ε (Memory σ) α}
    (kept : op.Preserves fun memory => inv memory.frames) :
    (onMemory op).Preserves (Retains inv tlbs ids) := by
  rintro ⟨memory, spaces, interrupts, firstTlb, secondTlb, context⟩ ⟨frames, rfl, live⟩
  exact ⟨kept memory frames, rfl, live⟩

theorem preserves_findSpace (id : SpaceId) :
    (findSpace id : Operation ε (Machine σ) AddressSpace).Preserves (Retains inv tlbs ids) := by
  refine .still fun machine => ?_
  unfold Operation.run findSpace
  split <;> rfl

theorem preserves_addSpace (space : AddressSpace) :
    (addSpace space : Operation ε (Machine σ) Unit).Preserves (Retains inv tlbs ids) := by
  refine .change fun machine ⟨frames, tlb, live⟩ => ⟨frames, tlb, fun id isLive => ?_⟩
  obtain ⟨other, inList, same⟩ := live id isLive
  exact ⟨other, List.mem_append_left _ inList, same⟩

/-- A space that is changed lives on under its identity. -/
theorem preserves_build {op : Operation ε (Building σ) α}
    (kept : op.Preserves fun building => inv building.memory.frames) (id : SpaceId) :
    (build id op).Preserves (Retains inv tlbs ids) := by
  rintro ⟨memory, spaces, interrupts, firstTlb, secondTlb, context⟩ ⟨frames, rfl, live⟩
  unfold Operation.run build
  split
  · exact ⟨frames, rfl, live⟩
  · refine ⟨kept _ frames, rfl, fun id isLive => ?_⟩
    obtain ⟨other, inList, same⟩ := live id isLive
    refine ⟨_, List.mem_map_of_mem inList, ?_⟩
    split
    · next changed => exact changed.symm.trans same
    · exact same

theorem preserves_define (id : SpaceId) (address : VirtAddr) (size : Nat) (flags : RegionFlags) :
    (define id address size flags : Operation _ (Machine σ) _).Preserves
      (Retains inv tlbs ids) := by
  refine preserves_build ?_ id
  have anything : (AddressSpace.define address size flags).Preserves fun _ => True :=
    fun _ _ => trivial
  exact anything.onPart (fun _ _ => trivial) fun _ holds _ _ => holds

theorem preserves_writeBytes (id : SpaceId) (address : VirtAddr) (values : List UInt8) :
    (writeBytes id address values : Operation ε (Machine σ) Bool).Preserves
      (Retains inv tlbs ids) := by
  refine .bind ?_ fun found => ?_
  · exact .bind (preserves_findSpace id) fun _ => preserves_onMemory Memory.preserves_onRam
  · split
    · exact .pure _
    · exact .bind (preserves_onMemory Memory.preserves_onRam) fun _ => .pure _

variable (kept : source.Preserves inv)
include kept

theorem preserves_create : (create source).Preserves (Retains inv tlbs ids) := by
  refine .bind (preserves_onMemory (AddressSpace.preserves_create kept)) fun space => ?_
  exact .bind (preserves_addSpace space) fun _ => .pure _

theorem preserves_prepareLoad (id : SpaceId) :
    (prepareLoad source id).Preserves (Retains inv tlbs ids) :=
  preserves_build (AddressSpace.preserves_prepareLoad kept) id

theorem preserves_walk (id : SpaceId) (address : VirtAddr) (make : Bool) :
    (walk source id address make).Preserves (Retains inv tlbs ids) :=
  .bind (preserves_findSpace id) fun space =>
    preserves_onMemory (AddressSpace.preserves_walk kept space address make)

theorem preserves_materialize (id : SpaceId) (address : VirtAddr) :
    (materialize source id address).Preserves (Retains inv tlbs ids) :=
  .bind (preserves_findSpace id) fun space =>
    preserves_onMemory (AddressSpace.preserves_materialize kept space address)

theorem preserves_copy (id : SpaceId) : (copy source id).Preserves (Retains inv tlbs ids) := by
  refine .bind (preserves_findSpace id) fun parent => ?_
  refine .bind (preserves_onMemory (AddressSpace.preserves_copy kept parent)) fun child => ?_
  exact .bind (preserves_addSpace child) fun _ => .pure _

/-- Spaces other than the one that is destroyed live on. -/
theorem preserves_destroy {id : SpaceId} (other : id ∉ ids) :
    (destroy source id : Operation ε _ Unit).Preserves (Retains inv tlbs ids) := by
  refine .bind (preserves_findSpace id) fun space => .bind (.change ?_) fun _ =>
    preserves_onMemory (AddressSpace.preserves_destroy kept space)
  rintro machine ⟨frames, tlb, live⟩
  refine ⟨frames, tlb, fun id' isLive => ?_⟩
  obtain ⟨survivor, inList, rfl⟩ := live id' isLive
  refine ⟨survivor, List.mem_filter.mpr ⟨inList, ?_⟩, rfl⟩
  simpa using fun same : survivor.id = id => other (same ▸ isLive)

end Sourced

end Machine

/-! ## The kernel's own supply -/

/-- The coremap satisfies `inv`, if there is one. -/
def FrameSupply.Meets (inv : Coremap π → Prop) (supply : FrameSupply π) : Prop :=
  ∀ coremap, supply.coremap = some coremap → inv coremap

namespace FrameSupply

variable {inv : Coremap π → Prop}

theorem preserves_onCoremap {op : Operation ε (Coremap π) α} (kept : op.Preserves inv)
    (missing : ε) : (onCoremap missing op).Preserves (Meets inv) := by
  rintro ⟨stealer, _ | coremap⟩ holds
  · exact holds
  · rintro _ ⟨⟩
    exact kept coremap (holds coremap rfl)

theorem preserves_steal (pages : Nat) : (steal pages).Preserves (Meets inv) := by
  intro supply holds
  unfold Operation.run steal
  split <;> exact holds

theorem preserves_allocPages [EvictionPolicy π] {context : Option Context} (pages : Nat) :
    (allocPages context pages).Preserves (Meets (Coremap.Guarded .free : Coremap π → Prop)) := by
  refine .bind (.read _) fun booted => ?_
  split
  · refine .bind (preserves_onCoremap ?_ _) fun _ => .ofExcept _
    exact (Coremap.preserves_allocate pages .kernel).mapError
  · exact .bind (preserves_steal pages) fun _ => .ofExcept _

theorem preserves_freePages {context : Option Context} (address : VirtAddr) :
    (freePages context address).Preserves (Meets (Coremap.Guarded .free : Coremap π → Prop)) := by
  unfold freePages
  split
  · exact .abort _
  · refine .bind (.require _ _) fun _ => .bind (.read _) fun booted => ?_
    split
    · refine .bind (preserves_onCoremap (Coremap.preserves_isFixed _) _) fun stolen => ?_
      split
      · exact .log _ _
      · exact preserves_onCoremap (Coremap.preserves_releaseBlock _ _) _
    · exact .log _ _

end FrameSupply

/-- The coremap that is built at boot has free locks and no more descriptors than frames
can be named. -/
theorem Memory.preserves_bootstrap (policy : π) :
    (bootstrap policy).Preserves fun memory => memory.frames.Meets (Coremap.Guarded .free) := by
  refine preserves_of_ends fun memory holds left => Operation.ends_bind.mpr ?_
  refine Operation.ends_read.mpr ?_
  dsimp only
  split
  · exact Operation.ends_fail.mpr holds
  refine Operation.ends_bind.mpr (Operation.ends_read.mpr (Operation.ends_bind.mpr ?_))
  refine Memory.ends_onRam.mpr (Operation.ends_mapError.mpr (Coremap.ends_bootstrap ?_ ?_ ?_))
  · exact fun _ => holds
  · exact fun _ => holds
  · intro reservation found _
    refine Operation.ends_change.mpr ?_
    rintro _ ⟨⟩
    exact Coremap.guarded_initial _ policy (RamLayout.frameCount_of_reservation? found)

namespace Machine

theorem preserves_withCoremap {inv : Coremap π → Prop} {op : Operation ε (Machine (Coremap π)) α}
    (kept : op.Preserves (Retains inv tlbs ids)) (missing : ε) :
    (withCoremap missing op).Preserves (Retains (FrameSupply.Meets inv) tlbs ids) := by
  rintro ⟨⟨⟨stealer, _ | coremap⟩, ram, nextSpace⟩, spaces, interrupts, firstTlb, secondTlb,
    context⟩ retains
  · exact retains
  · let inner : Machine (Coremap π) :=
      ⟨⟨coremap, ram, nextSpace⟩, spaces, interrupts, firstTlb, secondTlb, context⟩
    have after := kept inner ⟨retains.frames coremap rfl, retains.tlb, retains.live⟩
    refine ⟨?_, after.tlb, after.live⟩
    rintro _ ⟨⟩
    exact after.frames

theorem preserves_sourced
    {op : FrameSource (Coremap NoEviction) → Operation SpaceError (Machine (Coremap NoEviction)) α}
    (kept : ∀ source : FrameSource (Coremap NoEviction), source.Preserves (Coremap.Guarded .free) →
      (op source).Preserves (Retains (Coremap.Guarded .free) tlbs ids)) :
    (sourced op).Preserves (Retains (FrameSupply.Meets (Coremap.Guarded .free)) tlbs ids) := by
  refine .bind (.read _) fun context => preserves_withCoremap ?_ _
  exact (kept _ (Coremap.preserves_source (some context))).mapError

end Machine

/-- Whatever a machine is asked for leaves the locks of its coremap free and the
lookaside buffers alone, and lets every space live but the one that is destroyed. -/
theorem Request.preserves_perform (request : Request)
    (others : ∀ id, request = .destroy id → id ∉ ids) :
    request.perform.Preserves
      (Machine.Retains (FrameSupply.Meets (Coremap.Guarded .free)) tlbs ids) := by
  cases request with
  | create =>
    exact .bind (Machine.preserves_sourced fun _ => Machine.preserves_create) fun _ => .pure _
  | define id address size flags =>
    exact .bind (Machine.preserves_define id address size flags).mapError fun _ => .pure _
  | prepareLoad id =>
    exact .bind (Machine.preserves_sourced fun _ kept => Machine.preserves_prepareLoad kept id)
      fun _ => .pure _
  | walk id address make =>
    exact .bind (Machine.preserves_sourced fun _ kept =>
      Machine.preserves_walk kept id address make) fun _ => .pure _
  | materialize id address =>
    exact .bind (Machine.preserves_sourced fun _ kept =>
      Machine.preserves_materialize kept id address) fun _ => .pure _
  | copy id =>
    exact .bind (Machine.preserves_sourced fun _ kept => Machine.preserves_copy kept id)
      fun _ => .pure _
  | destroy id =>
    exact .bind (Machine.preserves_sourced fun _ kept =>
      Machine.preserves_destroy kept (others id rfl)) fun _ => .pure _
  | allocPages pages =>
    refine .bind (.bind (.read _) fun context => ?_) fun _ => .pure _
    exact Machine.preserves_onMemory
      (Memory.preserves_onFrames (FrameSupply.preserves_allocPages pages))
  | freePages address =>
    refine .bind (.bind (.read _) fun context => ?_) fun _ => .pure _
    exact Machine.preserves_onMemory
      (Memory.preserves_onFrames (FrameSupply.preserves_freePages address))
  | writeBytes id address values =>
    exact .bind (Machine.preserves_writeBytes id address values) fun _ => .pure _

end PagedMemory
