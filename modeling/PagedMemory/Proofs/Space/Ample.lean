import Mathlib.Algebra.BigOperators.Fin
import Mathlib.Algebra.Order.BigOperators.Group.Finset
import PagedMemory.Proofs.Coremap.Counting
import PagedMemory.Proofs.Space.Loading

/-!
# When a space can be loaded

Loading takes frames for the segments of a space and for tables that are missing, and all else
that is recorded of frames stays. So if the tables are there, and a run of free frames is left
whichever few frames are taken, then a space is loaded unless one of its pages is mapped already.
-/

namespace PagedMemory

namespace Coremap

/-- Whichever few frames are taken, a run of free frames is left. -/
def Ample (frames : Array Descriptor) (spent wanted : Nat) : Prop :=
  ∀ (taken : Finset Nat) (frames' : Array Descriptor), taken.card ≤ spent →
    (∀ i ∉ taken, frames'[i]? = frames[i]?) → ¬ Starved frames' wanted

variable {frames : Array Descriptor} {spent wanted : Nat}

/-- A run of free frames is ample if it has one part more than frames are taken. -/
theorem ample_of_free (base : Nat)
    (free : ∀ i < (spent + 1) * wanted, frames[base + i]? = some .free) :
    Ample frames spent wanted := by
  intro taken frames' few same
  -- One of the parts has none of the frames that are taken.
  have fewer : (taken.image fun i => (i - base) / wanted).card <
      (Finset.range (spent + 1)).card := by
    rw [Finset.card_range]
    exact Nat.lt_succ_of_le (Nat.le_trans Finset.card_image_le few)
  obtain ⟨part, inRange, untouched⟩ := Finset.exists_mem_notMem_of_card_lt_card fewer
  refine not_starved_of_free (base + part * wanted) fun i small => ?_
  have within : part * wanted + i < (spent + 1) * wanted := by
    calc part * wanted + i
      _ < part * wanted + wanted := Nat.add_lt_add_left small _
      _ = (part + 1) * wanted := (Nat.succ_mul _ _).symm
      _ ≤ (spent + 1) * wanted :=
        Nat.mul_le_mul_right wanted (Nat.succ_le_of_lt (Finset.mem_range.mp inRange))
  rw [Nat.add_assoc, same, free _ within]
  intro isTaken
  refine untouched (Finset.mem_image.mpr ⟨_, isTaken, ?_⟩)
  rw [Nat.add_sub_cancel_left, Nat.add_comm, Nat.add_mul_div_right _ _ (by omega),
    Nat.div_eq_of_lt small, Nat.zero_add]

theorem Ample.mono (ample : Ample frames spent wanted) {less : Nat} (fewer : less ≤ spent) :
    Ample frames less wanted :=
  fun taken frames' few => ample taken frames' (Nat.le_trans few fewer)

/-- For single frames it is enough that more are free than are taken. -/
theorem ample_of_card (many : spent < (freeFrames frames).card) : Ample frames spent 1 := by
  intro taken frames' few same starved
  obtain ⟨i, isFree, untouched⟩ :=
    Finset.exists_mem_notMem_of_card_lt_card (Nat.lt_of_le_of_lt few many)
  rw [mem_freeFrames_iff, ← same i untouched] at isFree
  exact starved.not_free i isFree

/-- When one frame was taken, frames are ample for one less. -/
theorem Ample.of_taken (ample : Ample frames (spent + 1) wanted) {frames' : Array Descriptor}
    {one : Nat} (same : ∀ i ≠ one, frames'[i]? = frames[i]?) : Ample frames' spent wanted := by
  intro taken frames'' few same'
  refine ample (insert one taken) frames'' ?_ fun i outside => ?_
  · exact Nat.le_trans (Finset.card_insert_le one taken) (Nat.succ_le_succ few)
  · obtain ⟨other, untouched⟩ := not_or.mp (mt Finset.mem_insert.mpr outside)
    exact (same' i untouched).trans (same i other)

/-- There is no run that is longer than frames are free. -/
theorem starved_of_card_lt (few : (freeFrames frames).card < wanted) : Starved frames wanted := by
  intro base
  by_contra allFree
  push Not at allFree
  have sub : Finset.Ico base (base + wanted) ⊆ freeFrames frames := fun i inRun =>
    mem_freeFrames_iff.mpr
      (allFree i (Finset.mem_Ico.mp inRun).1 (Finset.mem_Ico.mp inRun).2)
  have most := Finset.card_le_card sub
  rw [Nat.card_Ico, Nat.add_sub_cancel_left] at most
  omega

end Coremap

variable {before : AddressSpace} {mem : Memory (Coremap NoEviction)}
  {building : Building (Coremap NoEviction)} {page : VirtPage} {frame : Frame} {complete : Prop}
  {done : SegmentName → Prop} {context : Option Context} {left left' : Nat}

/-! ## What loading does not touch -/

namespace Filled

/-- A page that was mapped before lies in no segment's block. -/
theorem backs_eq_false (filled : Filled complete done before mem building)
    (only : ∀ name g, building.space.segment? name = some g → done name)
    (mapped : mem.ram.page? before.directory page = some frame) :
    building.space.segments.backs frame = false := by
  have shaped := filled.holds.shaped
  rw [Bool.eq_false_iff]
  intro backs
  -- It would be at its place in the segment, where no page was mapped.
  obtain ⟨name, g, found, backed⟩ := shaped.backs_iff.mp backs
  have still := filled.extended.pages page frame mapped
  have place := filled.holds.linear name g found page frame (filled.like.directory ▸ still) backed
  obtain ⟨low, high⟩ := Segment.backs_iff.mp backed
  obtain ⟨k, isFrame⟩ := Nat.exists_eq_add_of_le low
  have small : k < g.pages := by omega
  have number := shaped.number_segment_page found small
  have samePage : page = g.page.plus k := Page.ext (by omega)
  rw [samePage, filled.unmapped name g (only name g found) found k small] at mapped
  cases mapped

/-- What the slots of a space named before its segments were filled they name afterwards. -/
theorem extent?_kept (filled : Filled complete done before mem building)
    (only : ∀ name g, building.space.segment? name = some g → done name)
    (unbacked : before.Unbacked) {slot : Slot} {e : Extent}
    (named : before.extent? mem.ram slot = some e) :
    building.space.extent? building.memory.ram slot = some e := by
  have like := filled.like
  cases slot with
  | directory =>
    rw [AddressSpace.extent?_directory] at named ⊢
    rw [like.directory, named]
  | table i =>
    rw [AddressSpace.extent?_table, Option.map_eq_some_iff] at named
    obtain ⟨table, isTable, rfl⟩ := named
    rw [AddressSpace.extent?_table, like.directory, filled.extended.tables i table isTable,
      Option.map_some]
  | segment name =>
    rw [AddressSpace.extent?_segment, unbacked.segment? name] at named
    cases named
  | page page =>
    rw [AddressSpace.extent?_page, Option.bind_eq_some_iff] at named
    obtain ⟨frame, mapped, single⟩ := named
    rw [AddressSpace.extent?_page, like.directory, filled.extended.pages page frame mapped,
      Option.bind_some, filled.backs_eq_false only mapped]
    split at single
    · cases single
    · exact single

/-- A slot that has frames only since segments were filled is that of a segment, or of a
table that is new. -/
theorem extent?_gained (filled : Filled complete done before mem building)
    (unbacked : before.Unbacked) (ready' : building.memory.Ready left') {slot : Slot}
    (empty : before.extent? mem.ram slot = none)
    (named : building.space.extent? building.memory.ram slot ≠ none) :
    (∃ name, slot = .segment name ∧ building.space.segment? name ≠ none) ∨
      ∃ i, slot = .table i ∧ mem.ram.table? before.directory i = none ∧
        building.memory.ram.table? before.directory i ≠ none := by
  have like := filled.like
  cases slot with
  | directory => cases empty
  | table i =>
    rw [AddressSpace.extent?_table, Option.map_eq_none_iff] at empty
    rw [AddressSpace.extent?_table, like.directory, ne_eq, Option.map_eq_none_iff] at named
    exact .inr ⟨i, rfl, empty, named⟩
  | segment name =>
    rw [AddressSpace.extent?_segment, ne_eq, Option.map_eq_none_iff] at named
    exact .inl ⟨name, rfl, named⟩
  | page page =>
    obtain ⟨e, isExtent⟩ := Option.ne_none_iff_exists'.mp named
    rw [AddressSpace.extent?_page, like.directory, Option.bind_eq_some_iff] at isExtent
    obtain ⟨frame, mapped, single⟩ := isExtent
    -- What loading mapped lies in the block of a segment, and all else is as it was.
    rcases old : mem.ram.page? before.directory page with _ | oldFrame
    · obtain ⟨name, g, k, found, small, rfl, rfl⟩ := filled.linearGains page frame old mapped
      have backs := filled.holds.backs_segment_frame ready' found small
      rw [if_pos (filled.holds.shaped.backs_iff.mpr ⟨name, g, found, backs⟩)] at single
      cases single
    · have shaped : before.Shaped := filled.holds.shaped.of_regions like.regions.symm
      rw [AddressSpace.extent?_page, old, Option.bind_some, unbacked.backs_eq_false shaped,
        if_neg Bool.false_ne_true] at empty
      cases empty

/-- If the tables are there, all is as it was that is recorded of frames outside of the blocks
of segments. -/
theorem getElem?_of_not_covers (filled : Filled complete done before mem building)
    (only : ∀ name g, building.space.segment? name = some g → done name) (isComplete : complete)
    (holds : Holds complete before none mem) (ready : mem.Ready left)
    (ready' : building.memory.Ready left') (unbacked : before.Unbacked)
    (tabled : ∀ page : VirtPage, before.Spans page.base →
      mem.ram.table? before.directory (.ofPage page) ≠ none) {i : Nat}
    (outside : ∀ name g, building.space.segment? name = some g →
      ¬ Extent.Covers ⟨g.frame.number, g.pages⟩ i) :
    building.memory.descriptors[i]? = mem.descriptors[i]? := by
  have like := filled.like
  obtain ⟨sameSize, tiled'⟩ := filled.extended.confined.tiled ready ready'
  refine ready.coremap.sound.tiled.getElem?_eq_of_live_iff tiled' sameSize fun b covers =>
    ⟨fun live => ?_, filled.extended.live b⟩
  by_cases mine : b.owner = before.owner
  case neg => exact (filled.extended.confined.live_iff b mine).mp live
  obtain ⟨slot, isSlot⟩ :=
    filled.holds.accounted.told isComplete b live (mine.trans like.owner.symm)
  rcases slot with _ | slot
  · cases isSlot
  rw [withSpare_some] at isSlot
  rcases old : before.extent? mem.ram slot with _ | e
  · rcases filled.extent?_gained unbacked ready' old (by rw [isSlot]; nofun) with
      ⟨name, rfl, _⟩ | ⟨j, rfl, unnamed, named⟩
    · rw [AddressSpace.extent?_segment, Option.map_eq_some_iff] at isSlot
      obtain ⟨g, found, isExtent⟩ := isSlot
      refine absurd ?_ (outside name g found)
      rw [isExtent]
      exact covers
    · rcases filled.tables j named with there | ⟨name, g, k, _, found, small, rfl⟩
      · exact absurd unnamed there
      · have spans := filled.holds.shaped.spans_segment found small
        exact absurd unnamed (tabled _ ((like.spans_iff _).mp spans))
  · rw [filled.extent?_kept only unbacked old, Option.some.injEq] at isSlot
    obtain ⟨id, isLive⟩ := holds.accounted.live (some slot) e old
    have same := live.eq_of_covers (filled.extended.live _ isLive) covers (isSlot ▸ covers)
    exact same ▸ isLive

/-- Where frames are ample for the regions, there is still a run of them when some of the
regions were filled. -/
theorem not_starved {slot wanted : Nat}
    (filled : Filled complete (SegmentName.Before slot) before mem building)
    (only : ∀ name g, building.space.segment? name = some g → SegmentName.Before slot name)
    (isComplete : complete) (holds : Holds complete before none mem) (ready : mem.Ready left)
    (ready' : building.memory.Ready left') (unbacked : before.Unbacked)
    (tabled : ∀ page : VirtPage, before.Spans page.base →
      mem.ram.table? before.directory (.ofPage page) ≠ none)
    (ample : Coremap.Ample mem.descriptors (before.regions.map Region.pages).sum wanted) :
    ¬ Coremap.Starved building.memory.descriptors wanted := by
  let place (i : Nat) : Option Extent :=
    (building.space.segment? (.region i)).map fun g => ⟨g.frame.number, g.pages⟩
  let taken := (Finset.range building.space.regions.length).biUnion (slotFrames place)
  refine ample taken _ ?_ fun i untouched => ?_
  · rw [← filled.like.pages]
    calc taken.card
      _ ≤ ∑ i ∈ Finset.range building.space.regions.length, (slotFrames place i).card :=
        Finset.card_biUnion_le
      _ = ∑ i : Fin building.space.regions.length, (slotFrames place i).card := Finset.sum_range _
      _ ≤ ∑ i : Fin building.space.regions.length, building.space.regions[i].pages := by
        refine Finset.sum_le_sum fun i _ => ?_
        rw [card_slotFrames]
        rcases named : place i with _ | e
        · exact Nat.zero_le _
        · obtain ⟨g, found, rfl⟩ := Option.map_eq_some_iff.mp named
          obtain ⟨region, isRegion, _, _, same⟩ := segment?_region_eq_some_iff.mp found
          obtain ⟨_, rfl⟩ := List.getElem?_eq_some_iff.mp isRegion
          exact Nat.le_of_eq same.symm
      _ = (building.space.regions.map Region.pages).sum := Fin.sum_univ_fun_getElem _ _
  · refine filled.getElem?_of_not_covers only isComplete holds ready ready' unbacked tabled ?_
    rintro (j | _) g found covers
    · obtain ⟨region, isRegion, _⟩ := segment?_region_eq_some_iff.mp found
      have inRange := Finset.mem_range.mpr (List.getElem?_eq_some_iff.mp isRegion).1
      refine untouched (Finset.mem_biUnion.mpr ⟨j, inRange, mem_slotFrames_iff.mpr ⟨_, ?_, covers⟩⟩)
      exact Option.map_eq_some_iff.mpr ⟨g, found, rfl⟩
    · exact only _ g found

end Filled

/-- A frame that is free after a space was extended was free before. -/
theorem Memory.Extended.free_of_free {owner : Owner} {directory : Frame} {written : Frame → Prop}
    {mem' : Memory (Coremap NoEviction)} (extended : Extended owner directory written mem mem')
    (ready : mem.Ready left) (ready' : mem'.Ready left') {i : Nat}
    (isFree : mem'.descriptors[i]? = some .free) : mem.descriptors[i]? = some .free := by
  obtain ⟨sameSize, tiled'⟩ := extended.confined.tiled ready ready'
  have outside (b : Block) (live : Live mem.descriptors b) : ¬ b.Covers i := by
    intro covers
    rw [(extended.live b live).recorded i covers] at isFree
    cases isFree
  have high : ¬ i < mem.frames.reservation.firstAllocatable := by
    intro low
    rw [(tiled'.fixed_iff i).mpr low] at isFree
    cases isFree
  have inRam : i < mem.descriptors.size :=
    sameSize ▸ (Array.getElem?_eq_some_iff.mp isFree).1
  rw [ready.coremap.sound.tiled.getElem?_of_not_covers outside, if_neg high, if_pos inRam]

/-- Where there is no run of free frames there is none after a space was extended. -/
theorem Memory.Extended.starved {owner : Owner} {directory : Frame} {written : Frame → Prop}
    {mem' : Memory (Coremap NoEviction)} (extended : Extended owner directory written mem mem')
    (ready : mem.Ready left) (ready' : mem'.Ready left') {wanted : Nat}
    (starved : Coremap.Starved mem.descriptors wanted) :
    Coremap.Starved mem'.descriptors wanted := by
  intro base
  obtain ⟨i, low, high, notFree⟩ := starved base
  exact ⟨i, low, high, mt (extended.free_of_free ready ready') notFree⟩

/-- Where the tables are there and frames are ample for the regions, loading does not run out of
frames for few pages that segments are for. -/
theorem not_ranOut {wanted : Nat} {mem' : Memory (Coremap NoEviction)} {pages : Nat}
    (holds : Holds complete before none mem) (isComplete : complete) (ready : mem.Ready left)
    (unbacked : before.Unbacked)
    (tabled : ∀ page : VirtPage, before.Spans page.base →
      mem.ram.table? before.directory (.ofPage page) ≠ none)
    (ample : Coremap.Ample mem.descriptors (before.regions.map Region.pages).sum wanted)
    (kept : ∀ i table, mem.ram.table? before.directory i = some table →
      mem'.ram.table? before.directory i = some table)
    (few : pages ≤ wanted) (spans : ∀ k < pages, before.Spans (page.plus k).base) :
    ¬ RanOut complete before mem mem' page pages := by
  rintro ⟨filling, slot, _, ready', filled, only, starved | ⟨k, small, unnamed⟩⟩
  · exact filled.not_starved (only isComplete) isComplete holds ready ready' unbacked tabled ample
      (starved.mono few)
  · obtain ⟨table, named⟩ := Option.ne_none_iff_exists'.mp (tabled _ (spans k small))
    rw [kept _ table named] at unnamed
    cases unnamed

/-- A space whose tables are there is loaded where frames are ample, unless a page of it is
mapped already. -/
theorem ends_prepareLoad_of_tables {wanted : Nat} (holds : Holds complete before none mem)
    (isComplete : complete) (ready : mem.Ready left) (unbacked : before.Unbacked)
    (unloaded : before.loaded = false)
    (tabled : ∀ page : VirtPage, before.Spans page.base →
      mem.ram.table? before.directory (.ofPage page) ≠ none)
    (ample : Coremap.Ample mem.descriptors (before.regions.map Region.pages).sum wanted)
    (regions : ∀ region ∈ before.regions, region.pages ≤ wanted)
    (stack : Layout.stackPages ≤ wanted) (able : Able context mem) :
    (AddressSpace.prepareLoad (Coremap.source context)).Ends left ⟨mem, before⟩
      ⟨fun _ building left => building.memory.Ready left ∧ Prepared complete before mem building,
        fun _ _ _ => False,
        fun cause _ => ∃ page, cause = .alreadyMapped page ∧ before.Spans page.base ∧
          mem.ram.page? before.directory page ≠ none⟩ := by
  refine (ends_prepareLoad holds ready fun _ _ => unbacked).mono ?_ ?_ ?_
  · exact fun _ _ _ ⟨ready', _, prepared⟩ => ⟨ready', prepared⟩
  · rintro e building _
      (⟨_, isLoaded, _⟩ | ⟨_, ⟨_, _, begun, _⟩, ⟨region, inList, ranOut⟩ | ranOut⟩)
    · cases unloaded.symm.trans isLoaded
    · refine not_ranOut holds isComplete ready unbacked tabled ample begun.extended.tables
        (regions region inList) (fun k small => ?_) ranOut
      exact holds.shaped.spans_region inList small
    · exact not_ranOut holds isComplete ready unbacked tabled ample begun.extended.tables stack
        (fun k small => AddressSpace.spans_stack small) ranOut
  · exact fun cause _ ⟨_, interrupted⟩ =>
      interrupted.refused.reason.resolve_left fun cannot => cannot able

/-- A space whose tables are there, and for whose regions frames are ample, is not loaded where
there is no run of free frames for the stack. Its regions are backed and mapped then, unless a
page of it was mapped already. -/
theorem ends_prepareLoad_of_starved {wanted : Nat} (holds : Holds complete before none mem)
    (isComplete : complete) (ready : mem.Ready left) (unbacked : before.Unbacked)
    (unloaded : before.loaded = false)
    (tabled : ∀ page : VirtPage, before.Spans page.base →
      mem.ram.table? before.directory (.ofPage page) ≠ none)
    (ample : Coremap.Ample mem.descriptors (before.regions.map Region.pages).sum wanted)
    (regions : ∀ region ∈ before.regions, region.pages ≤ wanted)
    (starved : Coremap.Starved mem.descriptors Layout.stackPages) (able : Able context mem) :
    (AddressSpace.prepareLoad (Coremap.source context)).Ends left ⟨mem, before⟩
      ⟨fun _ _ _ => False,
        fun e building left => e = .outOfMemory ⟨Layout.stackPages⟩ ∧ building.memory.Ready left ∧
          building.space.loaded = false ∧
          (∀ region ∈ building.space.regions, region.backing.isSome) ∧
          Filled complete (· ≠ .stack) before mem building,
        fun cause _ => ∃ page, cause = .alreadyMapped page ∧ before.Spans page.base ∧
          mem.ram.page? before.directory page ≠ none⟩ := by
  refine Operation.ends_bind.mpr (Operation.ends_read.mpr ?_)
  simp only [unloaded, Bool.false_eq_true, if_false]
  refine Operation.ends_bind.mpr (Operation.ends_read.mpr ?_)
  have loading : AddressSpace.LoadingAt complete 0 before.regions before :=
    ⟨rfl, fun _ => unbacked.regions, nofun, fun _ => unbacked.stack, unloaded⟩
  have nothing := filled_nil holds SegmentName.not_before_zero
  refine Operation.Ends.bind (ends_loadRegions nothing ready loading) ?_ ?_ ?_
  · rintro ⟨⟩ building left' ⟨ready', slot, filled, loaded⟩
    have filled : Filled complete (· ≠ .stack) before mem building := by
      refine filled.congr fun name g found => ?_
      rcases name with i | _
      · obtain ⟨region, isRegion, _⟩ := segment?_region_eq_some_iff.mp found
        exact iff_of_true nofun (loaded.slot_lt isRegion)
      · exact iff_of_false (fun different => different rfl) id
    refine (ends_loadStack_of_starved filled ready'
      (filled.extended.starved ready ready' starved)).mono (fun _ _ _ => False.elim) ?_ ?_
    · rintro e ⟨mem', space'⟩ left'' ⟨rfl, rfl, ready'', filled'⟩
      exact ⟨rfl, ready'', loaded.unloaded, loaded.all_backed, filled'⟩
    · exact fun _ _ cannot => absurd able cannot
  · rintro e building _ ⟨⟨_, _, begun, _⟩, region, inList, ranOut⟩
    refine absurd ranOut (not_ranOut holds isComplete ready unbacked tabled ample
      begun.extended.tables (regions region inList) fun k small => ?_)
    exact holds.shaped.spans_region inList small
  · exact fun cause _ interrupted =>
      interrupted.refused.reason.resolve_left fun cannot => cannot able

end PagedMemory
