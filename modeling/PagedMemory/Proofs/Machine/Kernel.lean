import PagedMemory.Proofs.Machine.Steps
import PagedMemory.Proofs.Stealer

/-!
# Requests to a machine

A machine that has its coremap is at rest when memory is settled. Regions that
are defined, bytes that are written where a space maps them, and the kernel's own
requests for pages all leave it at rest. A page that was stolen at boot is
reserved, so giving it back changes nothing.
-/

namespace PagedMemory

open Machine

/-- A machine that has a coremap and whose memory is settled. -/
def AtRest (machine : Machine (FrameSupply NoEviction)) (held : List VirtAddr)
    (failed retried : List SpaceId) : Prop :=
  ∃ stealer inner, machine = withStealer stealer inner ∧
    Settled inner.memory inner.spaces held failed retried

/-- What is said of a machine with a coremap of its own, said of that machine over
the kernel's supply. -/
def outer {ε π α : Type} (stealer : Stealer) (post : Post ε (Machine (Coremap π)) α) :
    Post ε (Machine (FrameSupply π)) α where
  value a machine left := ∃ inner, machine = withStealer stealer inner ∧ post.value a inner left
  error e machine left := ∃ inner, machine = withStealer stealer inner ∧ post.error e inner left
  panic cause machine := ∃ inner, machine = withStealer stealer inner ∧ post.panic cause inner

/-- The frame that the kernel sees at an address was reserved at boot. -/
def IsStolen (coremap : Coremap NoEviction) (address : VirtAddr) : Prop :=
  ∃ physical, address.ofKernel = some physical ∧
    coremap.frames[physical.page.number]? = some .fixed

/-! ## Kernel pages -/

/-- The frame of a block that the kernel sees. -/
theorem KernelBlock.first {frames : Array Descriptor} {address : VirtAddr} {b : Block}
    (block : KernelBlock frames address b) {physical : PhysAddr}
    (seen : address.ofKernel = some physical) : physical.page.number = b.base := by
  obtain ⟨frame, seenFrame, first⟩ := block.seen
  rw [Option.some.inj (seen.symm.trans seenFrame), Page.page_base, first]

theorem KernelBlock.recorded {frames : Array Descriptor} {address : VirtAddr} {b : Block}
    (block : KernelBlock frames address b) {physical : PhysAddr}
    (seen : address.ofKernel = some physical) :
    frames[physical.page.number]? = some b.descriptor := by
  rw [block.first seen]
  exact block.live.recorded _ (Block.covers_base block.live.nonempty)

namespace FrameSupply

variable {stealer : Stealer} {coremap : Coremap NoEviction} {context : Option Context}
  {left : Nat}

/-- With a coremap, kernel pages are allocated from it. -/
theorem ends_allocPages {pages : Nat} {post : Post VmError (FrameSupply NoEviction) VirtAddr}
    (allocated : (Coremap.allocate context pages .kernel).Ends left coremap
      ⟨fun frame coremap left =>
          (Operation.ofExcept frame.base.toKernel).Ends left ⟨stealer, some coremap⟩ post,
        fun e coremap => post.error (.frames e) ⟨stealer, some coremap⟩,
        fun cause coremap => post.panic cause ⟨stealer, some coremap⟩⟩) :
    (allocPages context pages).Ends left ⟨stealer, some coremap⟩ post := by
  refine Operation.ends_bind.mpr (Operation.ends_read.mpr ?_)
  simp only [isBootstrapped, Option.isSome_some, if_true]
  exact Operation.ends_bind.mpr (ends_onCoremap.mpr (Operation.ends_mapError.mpr allocated))

theorem isFixed_iff (frames : Array Descriptor) (i : Nat) :
    (frames[i]?.any Descriptor.isFixed) = true ↔ frames[i]? = some .fixed := by
  rcases frames[i]? with _ | _ | _ | _ <;> simp [Descriptor.isFixed]

/-- Pages that do not begin where a page begins are not taken back. -/
theorem ends_freePages_of_unaligned {π : Type} {supply : FrameSupply π} {address : VirtAddr}
    {physical : PhysAddr} {post : Post VmError (FrameSupply π) Unit}
    (seen : address.ofKernel = some physical) (unaligned : physical.isPageAligned = false)
    (refused : ∀ cause, post.panic cause supply) :
    (freePages context address).Ends left supply post := by
  unfold freePages
  rw [seen]
  refine Operation.ends_bind.mpr (Operation.ends_require.mpr ?_)
  rw [unaligned]
  exact refused _

/-- With a coremap, pages that were stolen at boot are kept and others released. -/
theorem ends_freePages {address : VirtAddr} {frame : Frame}
    {post : Post VmError (FrameSupply NoEviction) Unit}
    (seen : address.ofKernel = some frame.base) (unlocked : coremap.locks = .free)
    (refused : ¬ CanSleep context → ∀ cause, post.panic cause ⟨stealer, some coremap⟩)
    (stolen : coremap.frames[frame.number]? = some .fixed →
      post.value () ⟨stealer, some coremap⟩ left)
    (released : coremap.frames[frame.number]? ≠ some .fixed →
      (Coremap.releaseBlock context frame false).Ends left coremap
        ⟨fun a coremap => post.value a ⟨stealer, some coremap⟩,
          fun e coremap => post.error e ⟨stealer, some coremap⟩,
          fun cause coremap => post.panic cause ⟨stealer, some coremap⟩⟩) :
    (freePages context address).Ends left ⟨stealer, some coremap⟩ post := by
  unfold freePages
  rw [seen]
  refine Operation.ends_bind.mpr (Operation.ends_require.mpr ?_)
  rw [if_pos Page.isPageAligned_base]
  refine Operation.ends_bind.mpr (Operation.ends_read.mpr ?_)
  simp only [isBootstrapped, Option.isSome_some, if_true]
  refine Operation.ends_bind.mpr (ends_onCoremap.mpr ?_)
  refine Coremap.ends_isFixed unlocked refused ?_
  dsimp only
  rw [Page.page_base]
  by_cases fixed : coremap.frames[frame.number]? = some .fixed
  · rw [if_pos ((isFixed_iff _ _).mpr fixed)]
    exact Operation.ends_log.mpr (stolen fixed)
  · rw [if_neg (fun isFixed => fixed ((isFixed_iff _ _).mp isFixed))]
    exact ends_onCoremap.mpr (released fixed)

end FrameSupply

namespace Machine

variable {ε : Type} {left : Nat} {id : SpaceId} {context : Context} {stealer : Stealer}
  {machine : Machine (Coremap NoEviction)} {held : List VirtAddr} {failed retried : List SpaceId}
  {address : VirtAddr} {b : Block}

/-- A space that gets one more region is as whole as it was. -/
theorem whole_of_defined {space space' : AddressSpace} {region : Region}
    (defined : space.Defined region space') (whole : space.Whole) : space'.Whole := by
  rcases whole with loaded | unbacked
  · rw [defined.unloaded] at loaded
    cases loaded
  · refine .inr ⟨?_, defined.stack.trans unbacked.stack⟩
    intro other inList
    rw [defined.regions, List.mem_append, List.mem_singleton] at inList
    rcases inList with old | rfl
    · exact unbacked.regions other old
    · exact defined.unbacked

theorem settling_define {size : Nat} {flags : RegionFlags}
    (settled : Settled machine.memory machine.spaces held failed retried) :
    (define id address size flags).Ends left (withStealer stealer machine)
      (outer stealer (settling (.space id) machine held failed (fun _ => failed) retried)) := by
  have replaced {space space' : AddressSpace} (inList : space ∈ machine.spaces)
      (sameId : space'.id = space.id) (sameDirectory : space'.directory = space.directory)
      (unloaded : space.loaded = true → space' = space)
      (holds : Holds (space.id ∉ retried) space' none machine.memory)
      (whole : space.Whole → space'.Whole) :
      Rested space.owner machine held failed retried (replaceSpace space' machine) := by
    have confined := Memory.Confined.refl space.owner machine.memory
    refine ⟨?_, .replace settled.distinct inList confined sameId sameDirectory unloaded⟩
    apply settled.replace inList settled.ready confined sameId sameDirectory unloaded
    · exact sameId.symm ▸ holds
    · exact fun notFailed => whole (settled.whole space inList (sameId ▸ notFailed))
    · exact List.Subset.refl failed
    · exact List.Subset.refl retried
    · exact fun _ => .inr
  apply ends_define
  · exact fun _ => ⟨machine, rfl, .refl _ _ settled.distinct⟩
  · intro space e _ found
    obtain ⟨inList, rfl⟩ := mem_spaces_of_space? found
    exact ⟨_, rfl,
      replaced inList rfl rfl (fun _ => rfl) (settled.holds space inList) fun whole => whole⟩
  · intro space space' region _ found defined
    obtain ⟨inList, rfl⟩ := mem_spaces_of_space? found
    refine ⟨_, rfl, replaced inList defined.id defined.directory ?_
      ((settled.holds space inList).define defined) (whole_of_defined defined),
      clearGains_of_pages_eq settled.distinct inList rfl⟩
    intro isLoaded
    rw [defined.unloaded] at isLoaded
    cases isLoaded

theorem settling_writeBytes {values : List UInt8}
    (settled : Settled machine.memory machine.spaces held failed retried)
    (onPage : address.offset.val + values.length ≤ 4096) :
    (writeBytes id address values : Operation ε _ Bool).Ends left (withStealer stealer machine)
      (outer stealer (settling (.space id) machine held failed (fun _ => failed) retried)) := by
  have same : Rested (.space id) machine held failed retried machine :=
    ⟨settled, .refl _ _ settled.distinct⟩
  apply ends_writeBytes
  · exact fun _ => ⟨machine, rfl, same.worked⟩
  · intro space found
    obtain ⟨inList, rfl⟩ := mem_spaces_of_space? found
    exact ⟨machine, rfl, same, clearGains_of_pages_eq settled.distinct inList rfl⟩
  · intro space frame found mapped
    obtain ⟨inList, rfl⟩ := mem_spaces_of_space? found
    have differ := machine.memory.ram.differOn_splice values
      ((Page.offset_join frame address.offset).symm ▸ onPage)
    rw [Page.page_join] at differ
    obtain ⟨confined, holds, pages⟩ := settled.written inList mapped differ
    refine ⟨{ machine with memory := { machine.memory with
      ram := machine.memory.ram.splice (frame.join address.offset).toNat values } }, rfl,
      ⟨?_, .keep settled.distinct confined⟩, ?_⟩
    · exact settled.keep inList (confined.ready settled.ready.coremap settled.ready) confined holds
    · exact clearGains_of_pages_eq settled.distinct inList pages

/-- No space is the kernel. -/
theorem clearGains_of_kernel {ram ram' : Ram} : ClearGains .kernel machine.spaces ram ram' :=
  clearGains_of_nobody fun _ _ => Owner.noConfusion

/-- What is asked of the end of a request for kernel pages: a block was taken for the kernel
that the kernel sees, or there is no run for it, or nothing was done. Only the direct map
may not reach a block that was taken. -/
def lending (machine : Machine (Coremap NoEviction)) (pages : Nat) :
    Post VmError (Machine (Coremap NoEviction)) VirtAddr where
  value address machine' left := ∃ (frame : Frame) (id : BlockId) (mem' : _),
    machine' = { machine with memory := mem' } ∧
    Memory.Took ⟨frame.number, pages, .kernel, id⟩ machine.memory mem' left ∧
    address.ofKernel = some frame.base
  error _ machine' left := ∃ mem', machine' = { machine with memory := mem' } ∧
    Memory.Unchanged machine.memory mem' left
  panic _ machine' := machine' = machine ∧ (pages = 0 ∨ ¬ CanSleep (some machine.context)) ∨
    ∃ (frame : Frame) (id : BlockId) (mem' : _) (left : Nat),
      machine' = { machine with memory := mem' } ∧
      Memory.Took ⟨frame.number, pages, .kernel, id⟩ machine.memory mem' left ∧
      Layout.directMapSize ≤ frame.base.toNat

theorem ends_allocPages {pages : Nat} (ready : machine.memory.Ready left) :
    (allocPages pages).Ends left (withStealer stealer machine)
      (outer stealer (machine.lending pages)) := by
  refine Operation.ends_bind.mpr (Operation.ends_read.mpr ?_)
  refine ends_onMemory.mpr (Memory.ends_onFrames.mpr ?_)
  refine FrameSupply.ends_allocPages ((Coremap.ends_allocate ready.coremap).mono ?_ ?_ ?_)
  · rintro frame coremap left' ⟨readyAfter, reservation, vacant, frames⟩
    have took := Memory.Took.of_claim ready readyAfter reservation vacant frames
    refine Operation.ends_ofExcept.mpr ?_
    rcases seen : frame.base.toKernel with cause | address
    · exact ⟨_, rfl, .inr ⟨frame, _, _, left', rfl, took, (Address.le_of_toKernel seen).1⟩⟩
    · exact ⟨_, rfl, frame, _, _, rfl, took, Address.toKernel_eq_ok_iff.mp seen⟩
  · rintro e coremap left' ⟨_, _, readyAfter, reservation, frames⟩
    exact ⟨_, rfl, _, rfl, .of_frames_eq ready readyAfter reservation frames⟩
  · rintro cause coremap ⟨because, rfl⟩
    exact ⟨machine, rfl, .inl ⟨rfl, because⟩⟩

theorem settling_allocPages {pages : Nat}
    (settled : Settled machine.memory machine.spaces held failed retried)
    (ready : machine.memory.Ready left) :
    (allocPages pages).Ends left (withStealer stealer machine) (outer stealer
      ⟨fun address machine' _ => Rested .kernel machine (address :: held) failed retried machine',
        fun _ machine' _ => Rested .kernel machine held failed retried machine',
        fun _ machine' =>
          Worked .kernel machine.memory machine.spaces machine'.memory machine'.spaces⟩) := by
  refine (ends_allocPages ready).mono ?_ ?_ ?_
  · rintro address _ left' ⟨_, rfl, frame, id, mem', rfl, took, seen⟩
    exact ⟨_, rfl, settled.lend took rfl seen rfl, .keep settled.distinct took.confined⟩
  · rintro e _ left' ⟨_, rfl, mem', rfl, same⟩
    exact ⟨_, rfl, settled.serve_unchanged same, .keep settled.distinct (same.confined .kernel)⟩
  · rintro cause _ ⟨_, rfl, ⟨rfl, _⟩ | ⟨frame, id, mem', left', rfl, took, _⟩⟩
    · exact ⟨_, rfl, .refl .kernel _ settled.distinct⟩
    · exact ⟨_, rfl, .keep settled.distinct took.confined⟩

/-- A block that the kernel has is given back. -/
theorem ends_freePages_of_block {most : Nat} (ready : machine.memory.Ready most)
    (block : KernelBlock machine.memory.descriptors address b) :
    (freePages address).Ends left (withStealer stealer machine) (outer stealer
      ⟨fun _ machine' _ => ∃ mem', machine' = { machine with memory := mem' } ∧
          Memory.Gave b machine.memory mem' most,
        fun _ _ _ => False,
        fun _ machine' => machine' = machine ∧ ¬ CanSleep (some machine.context)⟩) := by
  obtain ⟨frame, seen, first⟩ := block.seen
  refine Operation.ends_bind.mpr (Operation.ends_read.mpr ?_)
  refine ends_onMemory.mpr (Memory.ends_onFrames.mpr ?_)
  refine FrameSupply.ends_freePages seen ready.coremap.sound.unlocked ?_ ?_ fun _ => ?_
  · exact fun cannot _ => ⟨machine, rfl, rfl, cannot⟩
  · intro fixed
    have recorded := block.live.recorded _ (Block.covers_base block.live.nonempty)
    rw [← first] at recorded
    cases recorded.symm.trans fixed
  · refine (Coremap.ends_releaseBlock ready.coremap block.live first
      Bool.false_ne_true.elim).mono ?_ (fun _ _ _ => False.elim) ?_
    · rintro ⟨⟩ coremap left' ⟨_, readyAfter, reservation, frames⟩
      exact ⟨_, rfl, _, rfl, .of_free ready readyAfter reservation block.live frames⟩
    · rintro cause coremap ⟨cannot, rfl⟩
      exact ⟨machine, rfl, rfl, cannot⟩

/-- Pages that were reserved at boot are kept. -/
theorem ends_freePages_of_fixed {frame : Frame} (unlocked : machine.memory.frames.locks = .free)
    (seen : address.ofKernel = some frame.base)
    (fixed : machine.memory.descriptors[frame.number]? = some .fixed) :
    (freePages address).Ends left (withStealer stealer machine)
      ⟨fun _ machine' _ => machine' = withStealer stealer machine, fun _ _ _ => False,
        fun _ machine' =>
          machine' = withStealer stealer machine ∧ ¬ CanSleep (some machine.context)⟩ := by
  refine Operation.ends_bind.mpr (Operation.ends_read.mpr ?_)
  refine ends_onMemory.mpr (Memory.ends_onFrames.mpr ?_)
  refine FrameSupply.ends_freePages seen unlocked ?_ ?_ fun notFixed => absurd fixed notFixed
  · exact fun cannot _ => ⟨rfl, cannot⟩
  · exact fun _ => rfl

theorem settling_freePages
    (settled : Settled machine.memory machine.spaces held failed retried)
    (ready : machine.memory.Ready left)
    (mine : address ∈ held ∨ IsStolen machine.memory.frames address) :
    (freePages address).Ends left (withStealer stealer machine) (outer stealer
      ⟨fun _ machine' _ => Rested .kernel machine (held.erase address) failed retried machine',
        fun _ machine' _ => Rested .kernel machine held failed retried machine',
        fun _ machine' =>
          Worked .kernel machine.memory machine.spaces machine'.memory machine'.spaces⟩) := by
  have unmoved := Worked.refl .kernel machine.memory settled.distinct
  rcases mine with inHeld | ⟨physical, seen, fixed⟩
  · obtain ⟨b, block⟩ := settled.kernel address inHeld
    refine (ends_freePages_of_block ready block).mono ?_ (fun _ _ _ ⟨_, _, never⟩ => never.elim) ?_
    · rintro _ _ _ ⟨_, rfl, mem', rfl, gave⟩
      exact ⟨_, rfl, settled.takeBack block gave,
        .keep settled.distinct (block.owner ▸ gave.confined)⟩
    · rintro _ _ ⟨_, rfl, rfl, _⟩
      exact ⟨_, rfl, unmoved⟩
  · have notHeld : address ∉ held := by
      intro inHeld
      obtain ⟨b, block⟩ := settled.kernel address inHeld
      rw [block.recorded seen] at fixed
      cases fixed
    rcases aligned : physical.isPageAligned with _ | _
    · refine Operation.ends_bind.mpr (Operation.ends_read.mpr ?_)
      refine ends_onMemory.mpr (Memory.ends_onFrames.mpr ?_)
      exact FrameSupply.ends_freePages_of_unaligned seen aligned fun _ => ⟨machine, rfl, unmoved⟩
    · have base : physical.page.base = physical :=
        Address.base_page (by simpa [Address.isPageAligned] using aligned)
      rw [← base] at seen
      refine (ends_freePages_of_fixed settled.ready.coremap.sound.unlocked seen fixed).mono ?_
        (fun _ _ _ => False.elim) ?_
      · rintro _ _ _ rfl
        exact ⟨machine, rfl, (List.erase_of_not_mem notHeld).symm ▸ settled, unmoved⟩
      · rintro _ _ ⟨rfl, _⟩
        exact ⟨machine, rfl, unmoved⟩

end Machine

end PagedMemory
