import PagedMemory.Proofs.Machine.FirstSpace

/-!
# What a destroyed space gives back

Destroying a space frees its directory, its tables, the blocks of its segments and
its other pages, each by the discipline that it was taken by. That suffices: a
space knows of all its frames, even when its loading stopped halfway. So its
destruction cannot fail, and afterwards its frames are free and no other frame has
changed hands.
-/

namespace PagedMemory

/-- The frames of an owner were freed, and no other descriptor has changed. -/
structure Released (owner : Owner) (frames frames' : Array Descriptor) : Prop where
  count : Coremap.countHeldBy frames' owner = 0
  free : ∀ i ∈ heldFrames frames owner, frames'[i]? = some .free
  others : ∀ i, i ∉ heldFrames frames owner → frames'[i]? = frames[i]?

/-- Frames are released as soon as the blocks that are live are those of other
owners. -/
theorem Tiled.released {owner : Owner} {reserved : Nat} {frames frames' : Array Descriptor}
    (tiled : Tiled reserved frames) (tiled' : Tiled reserved frames')
    (sameSize : frames'.size = frames.size)
    (live_iff : ∀ b, Live frames' b ↔ Live frames b ∧ b.owner ≠ owner) :
    Released owner frames frames' where
  count := by
    rw [countHeldBy_eq_card, Finset.card_eq_zero, Finset.eq_empty_iff_forall_notMem]
    intro i isHeld
    obtain ⟨b, live, mine, _⟩ := (tiled'.mem_heldFrames_iff owner i).mp isHeld
    exact ((live_iff b).mp live).2 mine
  free i isHeld := by
    obtain ⟨b, live, mine, covers⟩ := (tiled.mem_heldFrames_iff owner i).mp isHeld
    have outside (d : Block) (liveAfter : Live frames' d) : ¬ d.Covers i := by
      intro coversToo
      obtain ⟨liveBefore, notMine⟩ := (live_iff d).mp liveAfter
      obtain rfl := live.eq_of_covers liveBefore covers coversToo
      exact notMine mine
    have high : ¬ i < reserved := by
      intro low
      have inUse := live.recorded i covers
      rw [(tiled.fixed_iff i).mpr low] at inUse
      cases inUse
    have inRam : i < frames'.size := sameSize ▸ Nat.lt_of_lt_of_le covers.2 live.within
    rw [tiled'.getElem?_of_not_covers outside, if_neg high, if_pos inRam]
  others i notHeld := by
    apply tiled.getElem?_eq_of_live_iff tiled' sameSize
    intro b covers
    rw [live_iff]
    constructor
    · exact And.left
    · intro live
      refine ⟨live, fun mine => notHeld ?_⟩
      exact (tiled.mem_heldFrames_iff owner i).mpr ⟨b, live, mine, covers⟩

namespace Session

open Machine

variable {session : Session} {space : AddressSpace} {context : Context} {held : List VirtAddr}
  {failed retried : List SpaceId} {left : Nat}

/-- Whoever may sleep can destroy a space that knows of all its blocks. -/
theorem ends_destroy (stealer : Stealer) (machine : Machine (Coremap NoEviction))
    (settled : Settled machine.memory machine.spaces held failed retried)
    (inList : space ∈ machine.spaces) (notRetried : space.id ∉ retried)
    (canSleep : CanSleep (some machine.context)) :
    (sourced fun source => Machine.destroy source space.id).Ends left (withStealer stealer machine)
      ⟨fun _ outer _ => ∃ mem', outer = withStealer stealer { machine with
          memory := mem', spaces := machine.spaces.filter fun other => other.id != space.id } ∧
          mem'.Ready 0 ∧ Memory.Destroyed True space.owner machine.memory mem',
        fun _ _ _ => False, fun _ _ => False⟩ := by
  have found := space?_of_mem settled.distinct inList
  apply Request.ends_sourced.mpr
  apply Machine.ends_destroyOf settled settled.ready
  · intro unknown
    rw [found] at unknown
    cases unknown
  · exact fun _ _ _ _ refused => refused.reason canSleep
  · intro _ mem' _ ready' destroyed
    exact ⟨mem', rfl, ready', { destroyed with gone := fun _ => destroyed.gone notRetried }⟩

/-- In every state of a run, a space can be destroyed by whoever may sleep, and all
that it had is free then. It does not matter whether its loading had failed, as long
as it was not loaded again. In a run no identity comes round again: a block whose
neighbour carries its identity could not be told from it. -/
theorem released_of_destroy (reachable : Reachable session)
    (inList : space ∈ session.machine.spaces) (notRetried : space.id ∉ session.retried)
    (canSleep : CanSleep (some context)) :
    ∃ machine' shown coremap coremap',
      (sourced fun source => Machine.destroy source space.id).run
        { session.machine with context := context } = ⟨.value (), machine', shown⟩ ∧
      session.machine.memory.frames.coremap = some coremap ∧
      machine'.memory.frames.coremap = some coremap' ∧
      machine'.spaces = session.machine.spaces.filter (fun other => other.id != space.id) ∧
      machine'.memory.ram = session.machine.memory.ram ∧
      Released space.owner coremap.frames coremap'.frames := by
  obtain ⟨stealer, machine, isMachine, settled⟩ := reachable.atRest
  rw [isMachine] at inList ⊢
  let asked : Machine (Coremap NoEviction) := { machine with context := context }
  obtain ⟨⟨⟩, machine', shown, run, mem', rfl, ready', destroyed⟩ :=
    Operation.exists_value_of_ends fun _ =>
      ends_destroy stealer asked settled inList notRetried canSleep
  obtain ⟨sameSize, tiled'⟩ := destroyed.confined.tiled settled.ready ready'
  exact ⟨_, shown, machine.memory.frames, mem'.frames, run, rfl, rfl, rfl, destroyed.ram,
    settled.ready.coremap.sound.tiled.released tiled' sameSize (destroyed.live_iff trivial)⟩

/-- Of eight frames there are enough for a region and its table, but not for a stack. The space
that was loaded that far can be destroyed. -/
theorem released_of_destroy_halted :
    ∃ session space machine' shown coremap coremap', Reachable session ∧
      session.failed = [space.id] ∧ session.machine.spaces = [space] ∧
      (∃ region ∈ space.regions, ∃ frame, region.backing = some frame ∧
        session.machine.memory.ram.page? space.directory region.page = some frame) ∧
      (sourced fun source => Machine.destroy source space.id).run
        { session.machine with context := ⟨1, false⟩ } = ⟨.value (), machine', shown⟩ ∧
      session.machine.memory.frames.coremap = some coremap ∧
      machine'.memory.frames.coremap = some coremap' ∧
      Released space.owner coremap.frames coremap'.frames := by
  have small : Reachable (inhabited 8) ∧ _ :=
    reachable_inhabited (by decide +kernel) (by decide +kernel) (by decide +kernel)
      (noWrap_of_all (by decide +kernel) (by decide +kernel))
  obtain ⟨reachableSmall, window⟩ := reachable_defined small (.ofNat 0x7FC10000)
    (by decide +kernel) (noWrap_of_all (by decide +kernel) (by decide +kernel))
  have one : (((inhabited 8).defined (.ofNat 0x7FC10000)).machine.spaces.all fun space =>
      decide (space.regions.length = 1)) = true := by
    decide +kernel
  obtain ⟨before, blank⟩ := exists_blank window
    (by decide +kernel : ((inhabited 8).defined (.ofNat 0x7FC10000)).isBlank 6 0x1000000 = true)
  simp only [blank.alone, List.all_cons, List.all_nil, Bool.and_true, decide_eq_true_eq] at one
  obtain ⟨_, _, _, walks, noWrap, provided, _⟩ :=
    blank.exists_provided reachableSmall (by decide) (by decide)
  have reachableWalked := reachableSmall.act_of_sourced (.walk before.id stackBase.base true)
    trivial rfl walks noWrap
  obtain ⟨session, space, step, isFailed, isRetried, alone, like, mapped⟩ :=
    provided.exists_halted reachableWalked (by rw [one]; decide) (by decide) (by rw [one]; decide)
  have reachable := reachableWalked.step step
  have inList : space ∈ session.machine.spaces := by
    rw [alone]
    exact List.mem_singleton_self space
  have notRetried : space.id ∉ session.retried := isRetried ▸ List.not_mem_nil
  obtain ⟨region, isRegion⟩ : ∃ region, region ∈ space.regions := by
    have sameRegions := congrArg List.length like.regions
    rw [List.length_map, List.length_map, one] at sameRegions
    exact ⟨_, List.getElem_mem (Nat.lt_of_lt_of_eq Nat.one_pos sameRegions.symm)⟩
  obtain ⟨machine', shown, coremap, coremap', run, isCoremap, isCoremap', _, _, released⟩ :=
    released_of_destroy reachable inList notRetried (by decide : CanSleep (some ⟨1, false⟩))
  exact ⟨session, space, machine', shown, coremap, coremap', reachable, isFailed, alone,
    ⟨region, isRegion, mapped region isRegion⟩, run, isCoremap, isCoremap', released⟩

end Session

end PagedMemory
