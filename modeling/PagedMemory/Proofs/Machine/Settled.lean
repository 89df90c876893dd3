import PagedMemory.FrameSupply
import PagedMemory.Proofs.Machine.Work

/-!
# Memory that many spaces live in

Between two steps memory is settled: every space is held, spaces have names of
their own, nobody but a living space and the kernel has blocks, and the blocks
that the kernel was given are live where their addresses say. Work for one owner
keeps everything that is not the owner's, so a step settles memory again as soon
as it does so for the one space that it is about. Only of a space that was loaded
again after its loading had failed there may be blocks that it does not know of.
-/

namespace PagedMemory

variable {mem mem' : Memory (Coremap NoEviction)} {spaces spaces' : List AddressSpace}
  {held : List VirtAddr} {failed failed' retried retried' : List SpaceId}
  {space space' : AddressSpace} {id : SpaceId} {left : Nat} {address : VirtAddr} {b : Block}

/-- The kernel has a block that begins where the kernel sees `address`. -/
structure KernelBlock (frames : Array Descriptor) (address : VirtAddr) (b : Block) : Prop where
  live : Live frames b
  owner : b.owner = .kernel
  seen : ∃ frame : Frame, address.ofKernel = some frame.base ∧ frame.number = b.base

/-- A memory at rest in which some spaces live and some kernel addresses name
blocks. Loading may have stopped halfway in the spaces named in `failed` only, and
blocks may be forgotten only by those named in `retried`. -/
structure Settled (mem : Memory (Coremap NoEviction)) (spaces : List AddressSpace)
    (held : List VirtAddr) (failed retried : List SpaceId) : Prop where
  ready : mem.Ready 0
  holds : ∀ space ∈ spaces, Holds (space.id ∉ retried) space none mem
  distinct : Distinct spaces
  named : ∀ space ∈ spaces, space.id.number < mem.nextSpace.number
  past : ∀ id ∈ retried, id.number < mem.nextSpace.number
  owned : ∀ b id, Live mem.descriptors b → b.owner = .space id → id ∉ retried →
    ∃ space ∈ spaces, space.id = id
  kernel : ∀ address ∈ held, ∃ b, KernelBlock mem.descriptors address b
  once : held.Nodup
  whole : ∀ space ∈ spaces, space.id ∉ failed → space.Whole

namespace Settled

theorem nothing (settled : Settled mem spaces held failed retried) (b : Block)
    (live : Live mem.descriptors b) : b.owner ≠ .space mem.nextSpace := by
  intro mine
  have notRetried : mem.nextSpace ∉ retried := fun inRetried =>
    Nat.lt_irrefl _ (settled.past _ inRetried)
  obtain ⟨space, inList, same⟩ := settled.owned b _ live mine notRetried
  exact absurd (settled.named space inList) (same ▸ Nat.lt_irrefl _)

/-- A space that lives is not the next one. -/
theorem id_ne_next (settled : Settled mem spaces held failed retried) (inList : space ∈ spaces) :
    space.id ≠ mem.nextSpace := by
  intro isNext
  exact absurd (settled.named space inList) (isNext ▸ Nat.lt_irrefl _)

/-- Work for one space settles if the list of spaces is right for that space. -/
theorem work (settled : Settled mem spaces held failed retried) (ready : mem'.Ready 0)
    (worked : Worked (.space id) mem spaces mem' spaces')
    (mine : ∀ space ∈ spaces', space.id = id → Holds (space.id ∉ retried') space none mem')
    (alone : ∀ space ∈ spaces', ∀ space' ∈ spaces', space.id = id → space'.id = id →
      space = space')
    (named : ∀ space ∈ spaces', space.id = id → space.id.number < mem'.nextSpace.number)
    (past : ∀ other ∈ retried', other.number < mem'.nextSpace.number)
    (owned : ∀ b, Live mem'.descriptors b → b.owner = .space id → id ∉ retried' →
      ∃ space ∈ spaces', space.id = id)
    (whole : ∀ space ∈ spaces', space.id = id → space.id ∉ failed' → space.Whole)
    (sub : failed ⊆ failed') (subRetried : retried ⊆ retried') :
    Settled mem' spaces' held failed' retried' where
  ready := ready
  holds space inList := by
    by_cases isMine : space.id = id
    · exact mine space inList isMine
    · have old := settled.holds space ((worked.mem_iff isMine).mp inList)
      exact (worked.holds (mt Owner.space.inj isMine) old).1.weaken fun notRetried inRetried =>
        notRetried (subRetried inRetried)
  distinct space inList space' inList' same := by
    by_cases isMine : space.id = id
    · exact alone space inList space' inList' isMine (same ▸ isMine)
    · exact settled.distinct space ((worked.mem_iff isMine).mp inList) space'
        ((worked.mem_iff (same ▸ isMine)).mp inList') same
  named space inList := by
    by_cases isMine : space.id = id
    · exact named space inList isMine
    · have old := settled.named space ((worked.mem_iff isMine).mp inList)
      exact Nat.lt_of_lt_of_le old worked.later
  past := past
  owned b other live isOwner notRetried := by
    by_cases isMine : other = id
    · subst isMine
      exact owned b live isOwner notRetried
    · have notMine : b.owner ≠ .space id := isOwner ▸ mt Owner.space.inj isMine
      obtain ⟨space, inList, same⟩ := settled.owned b other ((worked.live_iff b notMine).mp live)
        isOwner fun inRetried => notRetried (subRetried inRetried)
      exact ⟨space, (worked.mem_iff (same ▸ isMine)).mpr inList, same⟩
  kernel address inHeld := by
    obtain ⟨b, live, isKernel, seen⟩ := settled.kernel address inHeld
    have notMine : b.owner ≠ .space id := by
      rw [isKernel]
      exact Owner.noConfusion
    exact ⟨b, (worked.live_iff b notMine).mpr live, isKernel, seen⟩
  once := settled.once
  whole space inList notFailed := by
    by_cases isMine : space.id = id
    · exact whole space inList isMine notFailed
    · exact settled.whole space ((worked.mem_iff isMine).mp inList) fun inFailed =>
        notFailed (sub inFailed)

/-- Work for a space that keeps its record. -/
theorem keep (settled : Settled mem spaces held failed retried) (inList : space ∈ spaces)
    (ready : mem'.Ready 0) (confined : mem.Confined space.owner mem')
    (holds : Holds (space.id ∉ retried) space none mem') :
    Settled mem' spaces held failed retried := by
  apply settled.work ready (.keep settled.distinct confined)
  case mine =>
    intro other inListToo same
    exact settled.distinct other inListToo space inList same ▸ holds
  case alone =>
    intro other inListToo other' inListToo' same same'
    exact settled.distinct other inListToo other' inListToo' (same.trans same'.symm)
  case named =>
    intro other inListToo _
    rw [confined.nextSpace]
    exact settled.named other inListToo
  case past =>
    rw [confined.nextSpace]
    exact settled.past
  case owned => exact fun _ _ _ _ => ⟨space, inList, rfl⟩
  case whole => exact fun other inListToo _ => settled.whole other inListToo
  case sub => exact List.Subset.refl failed
  case subRetried => exact List.Subset.refl retried

/-- Work for a space that changes its record. -/
theorem replace (settled : Settled mem spaces held failed retried) (inList : space ∈ spaces)
    (ready : mem'.Ready 0) (confined : mem.Confined space.owner mem')
    (sameId : space'.id = space.id) (sameDirectory : space'.directory = space.directory)
    (unloaded : space.loaded = true → space' = space)
    (holds : Holds (space'.id ∉ retried') space' none mem')
    (whole : space'.id ∉ failed' → space'.Whole) (sub : failed ⊆ failed')
    (subRetried : retried ⊆ retried')
    (only : ∀ other ∈ retried', other = space.id ∨ other ∈ retried) :
    Settled mem' (spaces.map fun other => if other.id = space'.id then space' else other) held
      failed' retried' := by
  have mem_iff (other : AddressSpace) := mem_replaced_iff inList sameId other
  apply settled.work ready (.replace settled.distinct inList confined sameId sameDirectory
    unloaded)
  case mine =>
    intro other inListToo same
    rcases (mem_iff other).mp inListToo with ⟨_, rfl⟩ | ⟨different, _⟩
    · exact holds
    · exact absurd same different
  case alone =>
    intro other inListToo other' inListToo' same same'
    rcases (mem_iff other).mp inListToo with ⟨_, rfl⟩ | ⟨different, _⟩
    · rcases (mem_iff other').mp inListToo' with ⟨_, rfl⟩ | ⟨different, _⟩
      · rfl
      · exact absurd same' different
    · exact absurd same different
  case named =>
    intro other _ same
    rw [same, confined.nextSpace]
    exact settled.named space inList
  case past =>
    intro other inRetried
    rw [confined.nextSpace]
    rcases only other inRetried with rfl | old
    · exact settled.named space inList
    · exact settled.past other old
  case owned => exact fun _ _ _ _ => ⟨space', (mem_iff space').mpr (.inl ⟨sameId, rfl⟩), sameId⟩
  case whole =>
    intro other inListToo same
    rcases (mem_iff other).mp inListToo with ⟨_, rfl⟩ | ⟨different, _⟩
    · exact whole
    · exact absurd same different
  case sub => exact sub
  case subRetried => exact subRetried

/-- A space was named and did not come to live. -/
theorem lapse (settled : Settled mem spaces held failed retried)
    (room : mem.nextSpace.number + 1 < 0x100000000) (ready : mem'.Ready 0)
    (confined : mem.named.Confined (.space mem.nextSpace) mem')
    (live : ∀ b, Live mem'.descriptors b → Live mem.descriptors b) :
    Settled mem' spaces held failed retried := by
  have worked := Worked.named settled.distinct room confined
  apply settled.work ready worked
  case mine => exact fun space inList isNext => absurd isNext (settled.id_ne_next inList)
  case alone => exact fun space inList _ _ isNext _ => absurd isNext (settled.id_ne_next inList)
  case named => exact fun space inList isNext => absurd isNext (settled.id_ne_next inList)
  case past =>
    exact fun other inRetried => Nat.lt_of_lt_of_le (settled.past other inRetried) worked.later
  case owned => exact fun b liveAfter mine _ => absurd mine (settled.nothing b (live b liveAfter))
  case whole => exact fun space inList _ => settled.whole space inList
  case sub => exact List.Subset.refl failed
  case subRetried => exact List.Subset.refl retried

/-- A new space comes to live. -/
theorem add (settled : Settled mem spaces held failed retried)
    (room : mem.nextSpace.number + 1 < 0x100000000) (ready : mem'.Ready 0)
    (confined : mem.named.Confined space.owner mem') (isNext : space.id = mem.nextSpace)
    (holds : Holds True space none mem') (whole : space.Whole) :
    Settled mem' (spaces ++ [space]) held failed retried := by
  have isNew (other : AddressSpace) (inList : other ∈ spaces) : other.id ≠ space.id :=
    isNext ▸ settled.id_ne_next inList
  have onlyNew {other : AddressSpace} (inList : other ∈ spaces ++ [space])
      (same : other.id = space.id) : other = space := by
    rcases List.mem_append.mp inList with old | new
    · exact absurd same (isNew other old)
    · exact List.mem_singleton.mp new
  have worked := Worked.add settled.distinct room confined isNext isNew
  apply settled.work ready worked
  case mine => exact fun other inList same => onlyNew inList same ▸ holds.weaken fun _ => trivial
  case alone =>
    exact fun other inList other' inList' same same' =>
      (onlyNew inList same).trans (onlyNew inList' same').symm
  case named =>
    intro other _ same
    have next : mem.named.nextSpace.number = mem.nextSpace.number + 1 := Nat.mod_eq_of_lt room
    rw [same, isNext, confined.nextSpace]
    omega
  case past =>
    exact fun other inRetried => Nat.lt_of_lt_of_le (settled.past other inRetried) worked.later
  case owned => exact fun _ _ _ _ => ⟨space, by simp, rfl⟩
  case whole => exact fun other inList same _ => onlyNew inList same ▸ whole
  case sub => exact List.Subset.refl failed
  case subRetried => exact List.Subset.refl retried

/-- A space is gone with all that it had. -/
theorem drop (settled : Settled mem spaces held failed retried) (ready : mem'.Ready 0)
    (destroyed : Memory.Destroyed (id ∉ retried) (.space id) mem mem') :
    Settled mem' (spaces.filter fun space => space.id != id) held failed retried := by
  apply settled.work ready (.drop settled.distinct destroyed.confined)
  case mine =>
    intro other inList same
    simp [same] at inList
  case alone =>
    intro other inList _ _ same
    simp [same] at inList
  case named =>
    intro other inList same
    simp [same] at inList
  case past =>
    rw [destroyed.confined.nextSpace]
    exact settled.past
  case owned =>
    exact fun b live isOwner notRetried => absurd isOwner (destroyed.gone notRetried b live)
  case whole =>
    intro other inList same
    simp [same] at inList
  case sub => exact List.Subset.refl failed
  case subRetried => exact List.Subset.refl retried

/-- Bytes that are written to a page of a space leave it as it is held. -/
theorem written (settled : Settled mem spaces held failed retried) (inList : space ∈ spaces)
    {page : VirtPage} {frame : Frame} {ram : Ram}
    (mapped : mem.ram.page? space.directory page = some frame)
    (differ : Ram.DifferOn (· = frame) mem.ram ram) :
    mem.Confined space.owner { mem with ram := ram } ∧
      Holds (space.id ∉ retried) space none { mem with ram := ram } ∧
      ram.page? space.directory = mem.ram.page? space.directory := by
  have holds := settled.holds space inList
  obtain ⟨b, live, mine, covers⟩ := holds.exists_live_page mapped
  obtain ⟨holds', _, pages⟩ := holds.of_write differ (holds.page_ne_directory mapped).symm
    fun i named => holds.page_ne_table mapped named rfl
  exact ⟨.of_write live mine covers differ, holds', pages⟩

/-! ## Pages of the kernel -/

/-- Work for the kernel settles if the kernel's blocks are right. -/
theorem serve (settled : Settled mem spaces held failed retried) (ready : mem'.Ready 0)
    (confined : mem.Confined .kernel mem') {held' : List VirtAddr}
    (kernel : ∀ address ∈ held', ∃ b, KernelBlock mem'.descriptors address b)
    (once : held'.Nodup) : Settled mem' spaces held' failed retried where
  ready := ready
  holds space inList := ((settled.holds space inList).of_confined confined Owner.noConfusion).1
  distinct := settled.distinct
  named space inList := by
    rw [confined.nextSpace]
    exact settled.named space inList
  past := by
    rw [confined.nextSpace]
    exact settled.past
  owned b other live isOwner := by
    have notMine : b.owner ≠ .kernel := by
      rw [isOwner]
      exact Owner.noConfusion
    exact settled.owned b other ((confined.live_iff b notMine).mp live) isOwner
  kernel := kernel
  once := once
  whole := settled.whole

/-- The kernel asked for pages in vain. -/
theorem serve_unchanged (settled : Settled mem spaces held failed retried)
    (same : Memory.Unchanged mem mem' left) : Settled mem' spaces held failed retried := by
  apply settled.serve (same.ready.mono (Nat.zero_le _)) (same.confined .kernel)
  · rw [same.descriptors]
    exact settled.kernel
  · exact settled.once

end Settled

/-- The kernel sees a block at one address. -/
theorem KernelBlock.address_eq {frames frames' : Array Descriptor} {address' : VirtAddr} {d : Block}
    (first : KernelBlock frames address b) (second : KernelBlock frames' address' d)
    (same : b.base = d.base) : address = address' := by
  obtain ⟨frame, seen, isFirst⟩ := first.seen
  obtain ⟨frame', seen', isFirst'⟩ := second.seen
  obtain rfl : frame = frame' := Page.ext (isFirst.trans (same.trans isFirst'.symm))
  have equal := (Address.toKernel_eq_ok_iff.mpr seen).symm.trans
    (Address.toKernel_eq_ok_iff.mpr seen')
  exact Except.ok.inj equal

namespace Settled

/-- The kernel is given a block that it sees at an address. -/
theorem lend (settled : Settled mem spaces held failed retried)
    (took : Memory.Took b mem mem' left) (isKernel : b.owner = .kernel) {frame : Frame}
    (seen : address.ofKernel = some frame.base) (first : frame.number = b.base) :
    Settled mem' spaces (address :: held) failed retried := by
  have new : KernelBlock mem'.descriptors address b := ⟨took.live, isKernel, frame, seen, first⟩
  apply settled.serve (took.ready.mono (Nat.zero_le _)) (isKernel ▸ took.confined)
  · intro other inHeld
    rcases List.mem_cons.mp inHeld with rfl | inHeld
    · exact ⟨b, new⟩
    · obtain ⟨d, old⟩ := settled.kernel other inHeld
      exact ⟨d, (took.live_iff d).mpr (.inr old.live), old.owner, old.seen⟩
  · refine List.nodup_cons.mpr ⟨fun inHeld => ?_, settled.once⟩
    obtain ⟨d, old⟩ := settled.kernel address inHeld
    obtain ⟨other, seenOther, firstOther⟩ := old.seen
    have sameBase : frame.base = other.base := Option.some.inj (seen.symm.trans seenOther)
    obtain rfl : frame = other := by
      rw [← Page.page_base frame, sameBase, Page.page_base]
    have covers : d.Covers b.base := by
      rw [← first, firstOther]
      exact Block.covers_base old.live.nonempty
    exact took.vacant.not_covers old.live covers (Block.covers_base took.vacant.nonempty)

/-- The kernel gives back the block that it sees at an address. -/
theorem takeBack (settled : Settled mem spaces held failed retried)
    (mine : KernelBlock mem.descriptors address b) (gave : Memory.Gave b mem mem' left) :
    Settled mem' spaces (held.erase address) failed retried := by
  apply settled.serve (gave.ready.mono (Nat.zero_le _)) (mine.owner ▸ gave.confined)
  · intro other inRest
    obtain ⟨different, inHeldToo⟩ := (settled.once.mem_erase_iff).mp inRest
    obtain ⟨d, old⟩ := settled.kernel other inHeldToo
    refine ⟨d, (gave.live_iff mine.live d).mpr ⟨old.live, ?_⟩, old.owner, old.seen⟩
    rintro rfl
    exact different (old.address_eq mine rfl)
  · exact settled.once.erase address

end Settled

end PagedMemory
