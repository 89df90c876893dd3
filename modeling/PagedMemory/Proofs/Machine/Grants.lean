import PagedMemory.Proofs.Machine.KernelPages

/-!
# Grants of kernel pages

Kernel pages are stolen off the front of RAM until there is a coremap, and lent by the
coremap from then on. What was stolen lies below the front of the RAM that is left. The
coremap is built for that RAM: its reservation begins at the first page boundary there,
and it lends only frames past the reservation. So a run that was stolen, the frames that
hold descriptors and a run that was lent follow one another in RAM.
-/

namespace PagedMemory

/-- Adjacent pages that were granted to the kernel, by where it sees the first. -/
structure Grant where
  address : VirtAddr
  pages : Nat
deriving DecidableEq

namespace Grant

variable {grant grant' : Grant} {low mid high i : Nat}

/-- A frame is one of the grant's. -/
def Covers (grant : Grant) (i : Nat) : Prop :=
  ∃ frame : Frame, grant.address.ofKernel = some frame.base ∧
    frame.number ≤ i ∧ i < frame.number + grant.pages

/-- No frame is one of both grants'. -/
def Apart (grant grant' : Grant) : Prop :=
  ∀ i, ¬ (grant.Covers i ∧ grant'.Covers i)

/-- The grant is a run of frames that lies between two addresses. -/
def Within (low high : Nat) (grant : Grant) : Prop :=
  ∃ frame : Frame, grant.address.ofKernel = some frame.base ∧ 0 < grant.pages ∧
    low ≤ frame.base.toNat ∧ frame.base.toNat + grant.pages * 4096 ≤ high

theorem Within.mono {low' high' : Nat} (within : grant.Within low high) (lower : low' ≤ low)
    (higher : high ≤ high') : grant.Within low' high' := by
  obtain ⟨frame, seen, positive, below, above⟩ := within
  exact ⟨frame, seen, positive, Nat.le_trans lower below, Nat.le_trans above higher⟩

theorem Within.of_covers (within : grant.Within low high) (covers : grant.Covers i) :
    low ≤ i * 4096 ∧ (i + 1) * 4096 ≤ high := by
  obtain ⟨frame, seen, _, below, above⟩ := within
  obtain ⟨frame', seen', first, last⟩ := covers
  have sameBase : frame.base = frame'.base := Option.some.inj (seen.symm.trans seen')
  rw [sameBase] at below above
  simp only [Page.base] at below above
  omega

/-- Grants on two sides of an address are apart. -/
theorem Within.apart (within : grant.Within low mid) (within' : grant'.Within mid high) :
    grant.Apart grant' := by
  rintro i ⟨covers, covers'⟩
  have below := (within.of_covers covers).2
  have above := (within'.of_covers covers').1
  omega

theorem Apart.symm (apart : grant.Apart grant') : grant'.Apart grant :=
  fun i both => apart i both.symm

/-- The frames of a grant to the kernel are those of its block. -/
theorem covers_iff {frames : Array Descriptor} {b : Block}
    (block : KernelBlock frames grant.address b) (size : b.size = grant.pages) :
    grant.Covers i ↔ b.Covers i := by
  obtain ⟨frame, seen, first⟩ := block.seen
  constructor
  · rintro ⟨frame', seen', low, high⟩
    obtain rfl : frame = frame' := by
      have sameBase : frame.base = frame'.base := Option.some.inj (seen.symm.trans seen')
      rw [← Page.page_base frame, sameBase, Page.page_base]
    exact ⟨first ▸ low, by omega⟩
  · rintro ⟨low, high⟩
    exact ⟨frame, seen, by omega, by omega⟩

end Grant

/-! ## What was stolen -/

/-- What was stolen from the RAM of a layout lies below the front of what is left. -/
structure Stolen (layout : RamLayout) (stealer : Stealer) (stolen : List Grant) : Prop where
  lastAddr : stealer.remaining.lastAddr = layout.lastAddr
  low : layout.firstFree.toNat ≤ stealer.remaining.firstFree.toNat
  high : stolen = [] ∨ stealer.remaining.firstFree.toNat ≤ layout.lastAddr.toNat
  within : ∀ grant ∈ stolen,
    grant.Within layout.firstFree.toNat stealer.remaining.firstFree.toNat
  apart : stolen.Pairwise Grant.Apart

namespace Stolen

variable {layout : RamLayout} {stealer : Stealer} {stolen : List Grant} {grant : Grant}

theorem start (layout : RamLayout) : Stolen layout ⟨layout⟩ [] where
  lastAddr := rfl
  low := Nat.le_refl _
  high := .inl rfl
  within := nofun
  apart := .nil

/-- A grant at the front of what is left is apart from all earlier ones. -/
theorem steal (isStolen : Stolen layout stealer stolen) {pages : Nat} {frame : Frame}
    {stop : PhysAddr} (grants : stealer.remaining.Grants pages frame stop) {address : VirtAddr}
    (seen : address.ofKernel = some frame.base) :
    Stolen layout ⟨{ stealer.remaining with firstFree := stop }⟩ (⟨address, pages⟩ :: stolen) := by
  have front : stealer.remaining.firstFree.toNat ≤ stop.toNat := by
    have := grants.low
    have := grants.stops
    omega
  have new : Grant.Within stealer.remaining.firstFree.toNat stop.toNat ⟨address, pages⟩ :=
    ⟨frame, seen, grants.positive, grants.low, Nat.le_of_eq grants.stops.symm⟩
  constructor
  case lastAddr => exact isStolen.lastAddr
  case low => exact Nat.le_trans isStolen.low front
  case high => exact .inr (isStolen.lastAddr ▸ grants.within)
  case within =>
    intro grant inList
    rcases List.mem_cons.mp inList with rfl | old
    · exact new.mono isStolen.low (Nat.le_refl _)
    · exact (isStolen.within grant old).mono (Nat.le_refl _) front
  case apart =>
    refine List.pairwise_cons.mpr ⟨fun grant old => ?_, isStolen.apart⟩
    exact ((isStolen.within grant old).apart new).symm

/-- What was stolen lies in the RAM of the layout. -/
theorem within_layout (isStolen : Stolen layout stealer stolen) (inList : grant ∈ stolen) :
    grant.Within layout.firstFree.toNat layout.lastAddr.toNat := by
  have high := isStolen.high.resolve_left (List.ne_nil_of_mem inList)
  exact (isStolen.within grant inList).mono (Nat.le_refl _) high

end Stolen

/-! ## What was lent -/

/-- What the coremap has lent are blocks of the kernel, and the coremap is the one for the
RAM that was not stolen. -/
structure Lent (stealer : Stealer) (mem : Memory (Coremap NoEviction)) (spaces : List AddressSpace)
    (lent : List Grant) (failed retried : List SpaceId) : Prop where
  settled : Settled mem spaces (lent.map Grant.address) failed retried
  blocks : ∀ grant ∈ lent, ∃ b, KernelBlock mem.descriptors grant.address b ∧ b.size = grant.pages
  reserved : stealer.remaining.reservation? = some mem.frames.reservation

namespace Lent

variable {stealer : Stealer} {mem mem' : Memory (Coremap NoEviction)}
  {spaces spaces' : List AddressSpace} {lent : List Grant} {failed retried : List SpaceId}
  {grant : Grant} {layout : RamLayout} {stolen : List Grant} {left : Nat}

/-- Work for a space is none for the kernel. -/
theorem work (isLent : Lent stealer mem spaces lent failed retried) {owner : Owner}
    {failed' retried' : List SpaceId}
    (settled : Settled mem' spaces' (lent.map Grant.address) failed' retried')
    (worked : Worked owner mem spaces mem' spaces') (others : owner ≠ .kernel) :
    Lent stealer mem' spaces' lent failed' retried' where
  settled := settled
  blocks grant inList := by
    obtain ⟨b, block, size⟩ := isLent.blocks grant inList
    have notMine : b.owner ≠ owner := block.owner ▸ others.symm
    exact ⟨b, ⟨(worked.live_iff b notMine).mpr block.live, block.owner, block.seen⟩, size⟩
  reserved := by
    obtain ⟨next, confined⟩ := worked.confined
    rw [confined.reservation]
    exact isLent.reserved

/-- One more block is lent. -/
theorem lend (isLent : Lent stealer mem spaces lent failed retried) {frame : Frame}
    {pages : Nat} {id : BlockId}
    (took : Memory.Took ⟨frame.number, pages, .kernel, id⟩ mem mem' left) {address : VirtAddr}
    (seen : address.ofKernel = some frame.base) :
    Lent stealer mem' spaces (⟨address, pages⟩ :: lent) failed retried where
  settled := isLent.settled.lend took rfl seen rfl
  blocks grant inList := by
    rcases List.mem_cons.mp inList with rfl | old
    · exact ⟨_, ⟨took.live, rfl, frame, seen, rfl⟩, rfl⟩
    · obtain ⟨b, block, size⟩ := isLent.blocks grant old
      exact ⟨b, ⟨(took.live_iff b).mpr (.inr block.live), block.owner, block.seen⟩, size⟩
  reserved := by
    rw [took.confined.reservation]
    exact isLent.reserved

/-- A block that was lent is taken back. -/
theorem takeBack (isLent : Lent stealer mem spaces lent failed retried) {b : Block}
    (block : KernelBlock mem.descriptors grant.address b)
    (gave : Memory.Gave b mem mem' left) :
    Lent stealer mem' spaces (lent.filter fun other => other.address != grant.address) failed
      retried where
  settled := by
    have rest : (lent.filter fun other => other.address != grant.address).map Grant.address =
        (lent.map Grant.address).erase grant.address := by
      rw [isLent.settled.once.erase_eq_filter, List.filter_map]
      rfl
    rw [rest]
    exact isLent.settled.takeBack block gave
  blocks other inRest := by
    obtain ⟨inList, different⟩ := List.mem_filter.mp inRest
    obtain ⟨d, old, size⟩ := isLent.blocks other inList
    refine ⟨d, ⟨(gave.live_iff block.live d).mpr ⟨old.live, ?_⟩, old.owner, old.seen⟩, size⟩
    rintro rfl
    simp [old.address_eq block rfl] at different
  reserved := by
    rw [gave.confined.reservation]
    exact isLent.reserved

theorem unchanged (isLent : Lent stealer mem spaces lent failed retried)
    (same : Memory.Unchanged mem mem' left) : Lent stealer mem' spaces lent failed retried where
  settled := isLent.settled.serve_unchanged same
  blocks grant inList := by
    rw [same.descriptors]
    exact isLent.blocks grant inList
  reserved := by
    rw [(same.confined .kernel).reservation]
    exact isLent.reserved

/-! ## Where it lies -/

/-- The frames that are described lie in the RAM of the layout. -/
theorem size_le (isLent : Lent stealer mem spaces lent failed retried)
    (isStolen : Stolen layout stealer stolen) :
    mem.descriptors.size * 4096 ≤ layout.lastAddr.toNat := by
  rw [isLent.settled.ready.coremap.sound.size_eq,
    RamLayout.frameCount_of_reservation? isLent.reserved, RamLayout.frameCount, isStolen.lastAddr]
  exact Nat.div_mul_le_self _ _

/-- What was lent lies past the reservation. -/
theorem within (isLent : Lent stealer mem spaces lent failed retried)
    (isStolen : Stolen layout stealer stolen) (inList : grant ∈ lent) :
    grant.Within (mem.frames.reservation.firstAllocatable * 4096) layout.lastAddr.toNat := by
  obtain ⟨b, block, size⟩ := isLent.blocks grant inList
  obtain ⟨frame, seen, first⟩ := block.seen
  have reserved := isLent.settled.ready.coremap.sound.tiled.reserved_le block.live
  have inRam := Nat.le_trans (Nat.mul_le_mul_right 4096 block.live.within)
    (isLent.size_le isStolen)
  rw [Nat.add_mul, size, ← first] at inRam
  refine ⟨frame, seen, size ▸ block.live.nonempty, ?_, inRam⟩
  exact Nat.mul_le_mul_right 4096 (first ▸ reserved)

/-- Different grants that the coremap lent are apart. -/
theorem apart (isLent : Lent stealer mem spaces lent failed retried) :
    lent.Pairwise Grant.Apart := by
  have once := List.pairwise_map.mp isLent.settled.once
  refine once.imp_of_mem fun {grant grant'} inList inList' different i ⟨covers, covers'⟩ => ?_
  obtain ⟨b, block, size⟩ := isLent.blocks grant inList
  obtain ⟨b', block', size'⟩ := isLent.blocks grant' inList'
  have same := block.live.eq_of_covers block'.live ((Grant.covers_iff block size).mp covers)
    ((Grant.covers_iff block' size').mp covers')
  exact different (block.address_eq block' (congrArg Block.base same))

/-- The reservation begins at or past the front of the RAM that was not stolen. -/
theorem front_le_storage (isLent : Lent stealer mem spaces lent failed retried) :
    stealer.remaining.firstFree.toNat ≤ mem.frames.reservation.storage.page.number * 4096 := by
  obtain ⟨storage, rounded, isReservation⟩ := Option.map_eq_some_iff.mp isLent.reserved
  obtain ⟨aligned, front, _⟩ := Address.alignUp_eq_some_iff.mp rounded
  rw [← isReservation]
  simp only [Address.page]
  omega

end Lent

end PagedMemory
