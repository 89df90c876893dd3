import PagedMemory.Proofs.Space.Mapping

/-!
# Loading a space

Loading gives one block to every region and to the stack. Each time a block is
taken, becomes the segment of its name, and is mapped page by page; what was
filled before stays mapped and cleared. A failure leaves the segments that were
backed so far, still as the account of the space.

Loading that failed may be asked for again. A segment that has a block is then
given another. If a page of it was mapped, the first one was, and this ends the
attempt; otherwise the space forgets the block that no page lies in.
-/

namespace PagedMemory

variable {space space' before : AddressSpace} {spare : Option Extent} {name : SegmentName}
  {g : Segment} {mem mem' : Memory (Coremap NoEviction)} {left : Nat} {context : Option Context}
  {complete : Prop} {done done' : SegmentName → Prop}

/-! ## Spaces that differ in what is backed -/

/-- Two records of one space with the same layout. -/
structure AddressSpace.Like (space space' : AddressSpace) : Prop where
  id : space'.id = space.id
  directory : space'.directory = space.directory
  heap : space'.heap = space.heap
  regions : space'.regions.map Region.unbacked = space.regions.map Region.unbacked

/-- Nothing of a space is backed. -/
structure AddressSpace.Unbacked (space : AddressSpace) : Prop where
  regions : ∀ region ∈ space.regions, region.backing = none
  stack : space.stack = none

/-- All of a space is backed, or none of it is: loading did not stop halfway. -/
def AddressSpace.Whole (space : AddressSpace) : Prop :=
  space.loaded = true ∨ space.Unbacked

namespace AddressSpace

theorem Unbacked.segment? (unbacked : space.Unbacked) (name : SegmentName) :
    space.segment? name = none := by
  cases name with
  | stack => rw [AddressSpace.segment?, unbacked.stack, Option.map_none]
  | region i =>
    rw [AddressSpace.segment?, Option.bind_eq_none_iff]
    intro region found
    rw [Region.segment?, unbacked.regions region (List.mem_of_getElem? found), Option.map_none]

/-- Nothing is backed by the segments of a space that has none. -/
theorem Unbacked.backs_eq_false (unbacked : space.Unbacked) (shaped : space.Shaped)
    {frame : Frame} :
    space.segments.backs frame = false := by
  rw [Bool.eq_false_iff]
  intro backs
  obtain ⟨name, g, found, _⟩ := shaped.backs_iff.mp backs
  rw [unbacked.segment? name] at found
  cases found

namespace Like

protected theorem refl (space : AddressSpace) : Like space space :=
  ⟨rfl, rfl, rfl, rfl⟩

protected theorem trans {space'' : AddressSpace} (first : Like space space')
    (second : Like space' space'') : Like space space'' where
  id := second.id.trans first.id
  directory := second.directory.trans first.directory
  heap := second.heap.trans first.heap
  regions := second.regions.trans first.regions

theorem pages (like : Like space space') :
    space'.regions.map Region.pages = space.regions.map Region.pages := by
  have same := congrArg (List.map Region.pages) like.regions
  rw [List.map_map, List.map_map] at same
  exact same

/-- A region lies where it lay. -/
theorem exists_region (like : Like space space') {region : Region}
    (inList : region ∈ space'.regions) :
    ∃ original ∈ space.regions, original.page = region.page ∧ original.pages = region.pages := by
  have mapped := List.mem_map_of_mem (f := Region.unbacked) inList
  rw [like.regions] at mapped
  obtain ⟨original, inListToo, same⟩ := List.mem_map.mp mapped
  have samePage : original.unbacked.page = region.unbacked.page := congrArg Region.page same
  have samePages : original.unbacked.pages = region.unbacked.pages := congrArg Region.pages same
  exact ⟨original, inListToo, samePage, samePages⟩

theorem owner (like : Like space space') : space'.owner = space.owner :=
  congrArg Owner.space like.id

/-- Blocks are mapped in the same way. -/
theorem mapBlock_eq {σ : Type} (like : Like space space') (source : FrameSource σ) (page : VirtPage)
    (frame : Frame) (pages : Nat) :
    space'.mapBlock source page frame pages = space.mapBlock source page frame pages := by
  have ensured (address : VirtAddr) :
      space'.ensureTable source address = space.ensureTable source address := by
    simp only [ensureTable, owner like, like.id, like.directory]
  have ran (i : Nat) :
      space'.mapRun source page frame i pages = space.mapRun source page frame i pages := by
    induction pages generalizing i with
    | zero => rfl
    | succ pages ih => simp only [mapRun, mapPage, ensured, ih]
  exact ran 0

/-- The segments are for the same pages, whatever backs them. -/
theorem spans_iff (like : Like space space') (address : VirtAddr) :
    space'.Spans address ↔ space.Spans address := by
  have inRegions (space : AddressSpace) :
      (∃ region ∈ space.regions, region.page.base.toNat ≤ address.toNat ∧
          address.toNat < region.page.base.toNat + region.pages * Layout.pageSize) ↔
        ∃ region ∈ space.regions.map Region.unbacked, region.page.base.toNat ≤ address.toNat ∧
          address.toNat < region.page.base.toNat + region.pages * Layout.pageSize := by
    simp only [List.mem_map, exists_exists_and_eq_and]
    rfl
  unfold Spans
  rw [inRegions space, inRegions space', like.regions]

end Like

/-- Whether regions fit does not depend on what backs them. -/
theorem Shaped.of_regions (shaped : space.Shaped)
    (same : space'.regions.map Region.unbacked = space.regions.map Region.unbacked) :
    space'.Shaped := by
  have each {p : Region → Prop} (unbacked : ∀ region, p region.unbacked ↔ p region)
      (all : ∀ region ∈ space.regions, p region) : ∀ region ∈ space'.regions, p region := by
    have mapped : ∀ region ∈ space.regions.map Region.unbacked, p region := by
      rw [List.forall_mem_map]
      exact fun region inList => (unbacked region).mpr (all region inList)
    rw [← same, List.forall_mem_map] at mapped
    exact fun region inList => (unbacked region).mp (mapped region inList)
  constructor
  case few =>
    have lengths := congrArg List.length same
    rw [List.length_map, List.length_map] at lengths
    exact lengths ▸ shaped.few
  case nonempty => exact each (fun _ => Iff.rfl) shaped.nonempty
  case below => exact each (fun _ => Iff.rfl) shaped.below
  case apart =>
    have apart : (space.regions.map Region.unbacked).Pairwise fun region other =>
        region.page.number + region.pages ≤ other.page.number ∨
          other.page.number + other.pages ≤ region.page.number :=
      List.pairwise_map.mpr shaped.apart
    rw [← same] at apart
    exact List.pairwise_map.mp apart

/-! ## Backing one more segment -/

variable {slot : Nat} {region : Region} {frame : Frame}

theorem segment?_backRegion (found : space.regions[slot]? = some region) :
    (backRegion slot frame space).segment? =
      Function.update space.segment? (.region slot) (some ⟨region.page, frame, region.pages⟩) := by
  funext name
  cases name with
  | stack => rw [Function.update_of_ne (by simp)]; rfl
  | region i =>
    by_cases same : i = slot
    · subst same
      rw [Function.update_self, segment?, backRegion, List.getElem?_modify_eq, found]
      rfl
    · rw [Function.update_of_ne (by simpa using same), segment?, segment?, backRegion,
        List.getElem?_modify_ne _ _ (Ne.symm same)]

theorem segment?_backStack :
    { space with stack := some frame }.segment? =
      Function.update space.segment? .stack (some ⟨stackBase, frame, Layout.stackPages⟩) := by
  funext name
  cases name with
  | stack => rw [Function.update_self]; rfl
  | region i => rw [Function.update_of_ne (by simp)]; rfl

theorem like_backRegion (slot : Nat) (frame : Frame) (space : AddressSpace) :
    Like space (backRegion slot frame space) where
  id := rfl
  directory := rfl
  heap := rfl
  regions := by
    apply List.ext_getElem?
    intro i
    rw [List.getElem?_map, List.getElem?_map, backRegion, List.getElem?_modify]
    rcases space.regions[i]? with _ | region
    · rfl
    · by_cases same : slot = i
      · simp only [Option.map_eq_map, Option.map_some, if_pos same, Region.unbacked]
      · simp only [Option.map_eq_map, Option.map_some, if_neg same]

/-- The slots of a space in which one more segment is backed, as long as this does not
change which of its pages lie in segments. -/
theorem Like.extent?_back (like : Like space space')
    (segments : space'.segment? = Function.update space.segment? name (some g)) {ram : Ram}
    (same : ∀ page frame, ram.page? space.directory page = some frame →
      space'.segments.backs frame = space.segments.backs frame) :
    space'.extent? ram =
      Function.update (space.extent? ram) (.segment name) (some ⟨g.frame.number, g.pages⟩) := by
  funext slot
  cases slot with
  | directory =>
    rw [Function.update_of_ne (by simp), extent?_directory, extent?_directory, like.directory]
  | table i =>
    rw [Function.update_of_ne (by simp), extent?_table, extent?_table, like.directory]
  | segment name' =>
    by_cases isNew : name' = name
    · subst isNew
      rw [Function.update_self, extent?_segment, segments, Function.update_self, Option.map_some]
    · rw [Function.update_of_ne (by simpa using isNew), extent?_segment, extent?_segment, segments,
        Function.update_of_ne isNew]
  | page page =>
    rw [Function.update_of_ne (by simp), extent?_page, extent?_page, like.directory]
    rcases mapped : ram.page? space.directory page with _ | frame
    · rw [Option.bind_none, Option.bind_none]
    · rw [Option.bind_some, Option.bind_some, same page frame mapped]

end AddressSpace

namespace Holds

/-- No page that is mapped lies in a spare run. -/
theorem not_backs_of_spare (holds : Holds complete space (some ⟨g.frame.number, g.pages⟩) mem)
    {page : VirtPage} {frame : Frame}
    (mapped : mem.ram.page? space.directory page = some frame) : g.backs frame ≠ true := by
  intro backs
  obtain ⟨slot, uses, _⟩ := exists_uses_page holds.shaped mapped
  have isSpare : space.Uses (some ⟨g.frame.number, g.pages⟩) mem.ram none frame :=
    ⟨_, withSpare_none _ _, Segment.backs_iff.mp backs⟩
  cases holds.slot_eq uses isSpare

/-- A spare run becomes the block of a segment. If the segment had a block that no
page lies in, that block is forgotten. -/
theorem back (holds : Holds complete space (some ⟨g.frame.number, g.pages⟩) mem)
    (like : space.Like space') (unloaded : space'.loaded = false)
    (fresh : complete → space.segment? name = none)
    (unused : ∀ old, space.segment? name = some old → ∀ page frame,
      mem.ram.page? space.directory page = some frame → old.backs frame ≠ true)
    (segments : space'.segment? = Function.update space.segment? name (some g)) :
    Holds complete space' none mem := by
  have shaped : space'.Shaped := holds.shaped.of_regions like.regions
  have others {name' : SegmentName} (different : name' ≠ name) :
      space'.segment? name' = space.segment? name' := by
    rw [segments, Function.update_of_ne different]
  have old {name' : SegmentName} {g' : Segment} {page : VirtPage} {frame : Frame}
      (found' : space'.segment? name' = some g')
      (mapped : mem.ram.page? space.directory page = some frame) (backs : g'.backs frame = true) :
      space.segment? name' = some g' := by
    rw [← others, found']
    rintro rfl
    rw [segments, Function.update_self] at found'
    obtain rfl := Option.some.inj found'
    exact holds.not_backs_of_spare mapped backs
  have backs_eq (page : VirtPage) (frame : Frame)
      (mapped : mem.ram.page? space.directory page = some frame) :
      space'.segments.backs frame = space.segments.backs frame := by
    rw [Bool.eq_iff_iff, shaped.backs_iff, holds.shaped.backs_iff]
    constructor
    · rintro ⟨name', g', found', backs⟩
      exact ⟨name', g', old found' mapped backs, backs⟩
    · rintro ⟨name', g', found', backs⟩
      refine ⟨name', g', ?_, backs⟩
      rw [others, found']
      rintro rfl
      exact unused g' found' page frame mapped backs
  constructor
  case shaped => exact shaped
  case accounted =>
    have empty (isComplete : complete) : withSpare (space.extent? mem.ram)
        (some ⟨g.frame.number, g.pages⟩) (some (.segment name)) = none := by
      rw [withSpare_some, AddressSpace.extent?_segment, fresh isComplete, Option.map_none]
    rw [like.extent?_back segments backs_eq, like.owner, ← update_withSpare_some,
      ← update_withSpare_none _ (some ⟨g.frame.number, g.pages⟩)]
    exact holds.accounted.move (withSpare_none _ _) empty
  case linear =>
    intro name' g' found' page frame mapped backs
    rw [like.directory] at mapped
    exact holds.linear name' g' (old found' mapped backs) page frame mapped backs
  case entered =>
    intro name' g' found' page frame mapped backs
    rw [like.directory] at mapped ⊢
    exact holds.entered name' g' (old found' mapped backs) page frame mapped backs
  case loaded =>
    intro isLoaded
    rw [unloaded] at isLoaded
    cases isLoaded
  case directoryAdmitted => exact like.directory ▸ holds.directoryAdmitted
  case tablesAdmitted => exact like.directory ▸ holds.tablesAdmitted

end Holds

/-- A segment that was done before is not the one that is backed now, and is still there. -/
theorem segment?_of_done (notDone : ¬ done name)
    (segments : space'.segment? = Function.update space.segment? name (some g))
    {name' : SegmentName} {g' : Segment} (isDone : done name')
    (found' : space.segment? name' = some g') :
    name' ≠ name ∧ space'.segment? name' = some g' := by
  have different : name' ≠ name := by
    rintro rfl
    exact notDone isDone
  rw [segments, Function.update_of_ne different]
  exact ⟨different, found'⟩

/-- A segment that is done once one more is backed is that one, or was done before. -/
theorem backed_or_done (segments : space'.segment? = Function.update space.segment? name (some g))
    {name' : SegmentName} {g' : Segment} (isDone : name' = name ∨ done name')
    (found' : space'.segment? name' = some g') :
    (name' = name ∧ g' = g) ∨ (done name' ∧ space.segment? name' = some g') := by
  rw [segments] at found'
  rcases update_eq_some_iff.mp found' with ⟨same, ⟨⟩⟩ | ⟨different, old⟩
  · exact .inl ⟨same, rfl⟩
  · exact .inr ⟨isDone.resolve_left different, old⟩

/-! ## Segments one after the other -/

open Memory (Extended Took)

/-- Mapping the pages of a segment leaves the frames of the other segments alone. -/
theorem Holds.same_segment_frame {mem1 mem2 : Memory (Coremap NoEviction)} {left1 k : Nat}
    {name' : SegmentName} {g' : Segment} (holds : Holds complete space none mem1)
    (ready : mem1.Ready left1)
    (extended : Extended space.owner space.directory
      (fun frame => ∃ k, 0 ≤ k ∧ k < g.pages ∧ frame = g.frame.plus k) mem1 mem2)
    (found : space.segment? name = some g) (found' : space.segment? name' = some g')
    (different : name' ≠ name) (below : k < g'.pages) :
    Ram.SameFrame (g'.frame.plus k) mem1.ram mem2.ram := by
  have backs' := holds.backs_segment_frame ready found' below
  obtain ⟨b, live, _, covers⟩ := holds.exists_live (uses_segment found' backs')
  apply extended.same b live _ covers
  · exact holds.backed_ne_directory found' backs'
  · exact holds.backed_ne_table found' backs'
  · rintro ⟨k', _, below', same⟩
    have backs : g.backs (g'.frame.plus k) = true :=
      same ▸ holds.backs_segment_frame ready found below'
    have sameSlot := holds.slot_eq (uses_segment found backs) (uses_segment found' backs')
    cases sameSlot
    exact different rfl

/-- What loading may leave of a space and of memory, at any point. -/
structure Begun (complete : Prop) (before : AddressSpace) (mem : Memory (Coremap NoEviction))
    (building : Building (Coremap NoEviction)) : Prop where
  holds : Holds complete building.space none building.memory
  like : before.Like building.space
  extended : Extended before.owner before.directory (fun _ => False) mem building.memory

/-- What loading has made of a space and of memory while all went well: the
segments in `done` are mapped and cleared, where no page was mapped before, and no
other page was mapped. -/
structure Filled (complete : Prop) (done : SegmentName → Prop) (before : AddressSpace)
    (mem : Memory (Coremap NoEviction)) (building : Building (Coremap NoEviction)) : Prop
    extends Begun complete before mem building where
  unmapped : ∀ name g, done name → building.space.segment? name = some g → ∀ k, k < g.pages →
    mem.ram.page? before.directory (g.page.plus k) = none
  mapped : ∀ name g, done name → building.space.segment? name = some g → ∀ k, k < g.pages →
    building.memory.ram.page? before.directory (g.page.plus k) = some (g.frame.plus k)
  pages : ∀ page, building.memory.ram.page? before.directory page ≠ none →
    mem.ram.page? before.directory page ≠ none ∨
      ∃ name g k, done name ∧ building.space.segment? name = some g ∧ k < g.pages ∧
        page = g.page.plus k
  tables : ∀ j, building.memory.ram.table? before.directory j ≠ none →
    mem.ram.table? before.directory j ≠ none ∨
      ∃ name g k, done name ∧ building.space.segment? name = some g ∧ k < g.pages ∧
        DirectoryIndex.ofPage (g.page.plus k) = j
  isClear : ∀ name g, done name → building.space.segment? name = some g → ∀ k, k < g.pages →
    building.memory.ram.ClearFrame (g.frame.plus k)

/-- Loading was given up on the way, for some reason. -/
structure Interrupted (reason : Prop) (before : AddressSpace) (mem : Memory (Coremap NoEviction))
    (building : Building (Coremap NoEviction)) : Prop where
  refused : mem.Refused reason before.owner building.memory
  like : before.Like building.space

/-- Something stands in the way of loading: its caller may not sleep, a frame cannot be
accessed, or a page is mapped already that is to be mapped. The last is what the panic says. -/
def Barred (context : Option Context) (before : AddressSpace) (mem : Memory (Coremap NoEviction))
    (cause : Panic) : Prop :=
  ¬ Able context mem ∨
    ∃ page, cause = .alreadyMapped page ∧ before.Spans page.base ∧
      mem.ram.page? before.directory page ≠ none

/-- A page that was mapped by loading lies in a segment, at the frame at its place. -/
def LinearGains (before : AddressSpace) (mem : Memory (Coremap NoEviction))
    (building : Building (Coremap NoEviction)) : Prop :=
  ∀ page frame, mem.ram.page? before.directory page = none →
    building.memory.ram.page? before.directory page = some frame →
      ∃ name g k, building.space.segment? name = some g ∧ k < g.pages ∧
        page = g.page.plus k ∧ frame = g.frame.plus k

/-- Frames for a segment ran out: there was no run for its block, or the table of
one of its pages is missing. -/
def Lacking (page : VirtPage) (pages : Nat) (directory : Frame)
    (mem mem' : Memory (Coremap NoEviction)) : Prop :=
  Coremap.Starved mem.descriptors pages ∨
    ∃ k, k < pages ∧ mem'.ram.table? directory (.ofPage (page.plus k)) = none

theorem filled_nil (holds : Holds complete before none mem) (nothing : ∀ name, ¬ done name) :
    Filled complete done before mem ⟨mem, before⟩ where
  holds := holds
  like := .refl before
  extended := .refl _ _ _ mem
  unmapped name _ isDone := absurd isDone (nothing name)
  mapped name _ isDone := absurd isDone (nothing name)
  pages _ := .inl
  tables _ := .inl
  isClear name _ isDone := absurd isDone (nothing name)

variable {building : Building (Coremap NoEviction)} {b : Block}

/-- Once one more block was taken and became the block of a segment, and its pages were
mapped, be it only some of them, loading has still only extended what was there. -/
theorem Begun.place (begun : Begun complete before mem building)
    {mem1 mem2 : Memory (Coremap NoEviction)} {left1 : Nat} (ready1 : mem1.Ready left1)
    {blockId : BlockId}
    (took : Took ⟨g.frame.number, g.pages, before.owner, blockId⟩ building.memory mem1 left1)
    (whole : before.Like space') (found : space'.segment? name = some g)
    (holds1 : Holds complete space' none mem1) (holds2 : Holds complete space' none mem2)
    (extended : Extended before.owner before.directory
      (fun frame => ∃ k, 0 ≤ k ∧ k < g.pages ∧ frame = g.frame.plus k) mem1 mem2) :
    Begun complete before mem ⟨mem2, space'⟩ := by
  have taken : Extended before.owner before.directory (fun _ => False) building.memory mem1 :=
    .of_took took rfl _ _
  refine ⟨holds2, whole, (begun.extended.trans taken fun _ _ _ _ => id).trans extended ?_⟩
  rintro b live _ covers ⟨k, _, below, rfl⟩
  refine took.vacant.not_covers (begun.extended.live b live) covers ?_
  exact Segment.backs_iff.mp (holds1.backs_segment_frame ready1 found below)

namespace Filled

/-- What is mapped beside what was mapped before is mapped linearly. -/
theorem linearGains (filled : Filled complete done before mem building) :
    LinearGains before mem building := by
  intro page frame unmapped mapped
  rcases filled.pages page (mapped ▸ Option.some_ne_none frame) with
    old | ⟨name, g, k, isDone, found, below, rfl⟩
  · exact absurd unmapped old
  · rw [filled.mapped name g isDone found k below] at mapped
    exact ⟨name, g, k, found, below, rfl, (Option.some.inj mapped).symm⟩

/-- Only segments that are backed count. -/
theorem congr (filled : Filled complete done before mem building)
    (same : ∀ name g, building.space.segment? name = some g → (done' name ↔ done name)) :
    Filled complete done' before mem building where
  toBegun := filled.toBegun
  unmapped name g isDone found := filled.unmapped name g ((same name g found).mp isDone) found
  mapped name g isDone found := filled.mapped name g ((same name g found).mp isDone) found
  pages page present := by
    rcases filled.pages page present with old | ⟨name, g, k, isDone, found, rest⟩
    · exact .inl old
    · exact .inr ⟨name, g, k, (same name g found).mpr isDone, found, rest⟩
  tables j present := by
    rcases filled.tables j present with old | ⟨name, g, k, isDone, found, rest⟩
    · exact .inl old
    · exact .inr ⟨name, g, k, (same name g found).mpr isDone, found, rest⟩
  isClear name g isDone found := filled.isClear name g ((same name g found).mp isDone) found

/-- What was filled stays filled as long as nothing is changed. -/
theorem unchanged (filled : Filled complete done before mem building)
    (same : Memory.Unchanged building.memory mem' left) :
    Filled complete done before mem ⟨mem', building.space⟩ := by
  have like := filled.like
  have still := (same.restored building.space).extended
  rw [like.owner, like.directory] at still
  refine ⟨⟨filled.holds.unchanged same, like, filled.extended.trans still fun _ _ _ _ => id⟩,
    filled.unmapped, ?_, ?_, ?_, ?_⟩
  · rw [same.ram]
    exact filled.mapped
  · rw [same.ram]
    exact filled.pages
  · rw [same.ram]
    exact filled.tables
  · rw [same.ram]
    exact filled.isClear

/-- A page of a segment that is not filled yet was mapped before if it is mapped. -/
theorem present_before (filled : Filled complete done before mem building)
    (like : building.space.Like space') (notDone : ¬ done name)
    (segments : space'.segment? = Function.update building.space.segment? name (some g)) {k : Nat}
    (below : k < g.pages)
    (present : building.memory.ram.page? before.directory (g.page.plus k) ≠ none) :
    mem.ram.page? before.directory (g.page.plus k) ≠ none := by
  have shaped : space'.Shaped := filled.holds.shaped.of_regions like.regions
  rcases filled.pages _ present with old | ⟨name', g', k', isDone, found', below', same⟩
  · exact old
  · obtain ⟨different, stillFound⟩ := segment?_of_done notDone segments isDone found'
    have found : space'.segment? name = some g := by
      rw [segments, Function.update_self]
    have apart := shaped.segments_apart found stillFound different.symm
    have numbers := congrArg Page.number same
    rw [shaped.number_segment_page stillFound below', shaped.number_segment_page found below]
      at numbers
    omega

/-- What was mapped before and what was mapped of one more segment is mapped linearly. -/
theorem linearGains_of_gainsOf (filled : Filled complete done before mem building)
    (notDone : ¬ done name)
    (segments : space'.segment? = Function.update building.space.segment? name (some g))
    {mem2 : Memory (Coremap NoEviction)}
    (kept : ∀ page frame, building.memory.ram.page? before.directory page = some frame →
      mem2.ram.page? before.directory page = some frame)
    (gains : Memory.GainsOf before g 0 building.memory mem2) :
    LinearGains before mem ⟨mem2, space'⟩ := by
  intro page frame unmapped mapped
  rcases earlier : building.memory.ram.page? before.directory page with _ | old
  · obtain ⟨k, _, below, isPage, isFrame⟩ := gains page frame earlier mapped
    exact ⟨name, g, k, by rw [segments, Function.update_self], below, isPage, isFrame⟩
  · obtain rfl := Option.some.inj ((kept page old earlier).symm.trans mapped)
    rcases filled.pages page (earlier ▸ Option.some_ne_none old) with
      present | ⟨name', g', k, isDone, found, below, rfl⟩
    · exact absurd unmapped present
    · rw [filled.mapped name' g' isDone found k below] at earlier
      exact ⟨name', g', k, (segment?_of_done notDone segments isDone found).2, below, rfl,
        (Option.some.inj earlier).symm⟩

/-- The block of a segment that was taken and mapped joins what is filled. -/
theorem join (filled : Filled complete done before mem building)
    {mem1 mem2 : Memory (Coremap NoEviction)} {left1 : Nat} (ready1 : mem1.Ready left1)
    {blockId : BlockId}
    (took : Took ⟨g.frame.number, g.pages, before.owner, blockId⟩ building.memory mem1 left1)
    (holds1 : Holds complete space' none mem1) (holds2 : Holds complete space' none mem2)
    (like : building.space.Like space') (notDone : ¬ done name)
    (segments : space'.segment? = Function.update building.space.segment? name (some g))
    (ran : Memory.Ran space' g 0 mem1 mem2) :
    Filled complete (fun other => other = name ∨ done other) before mem ⟨mem2, space'⟩ := by
  have whole := filled.like.trans like
  have found : space'.segment? name = some g := by
    rw [segments, Function.update_self]
  obtain ⟨extended, unmapped, mapped, others, tables, isClear⟩ := ran
  have still {name' : SegmentName} {g' : Segment} {k : Nat} (isDone : done name')
      (old : building.space.segment? name' = some g') (below : k < g'.pages) :
      Ram.SameFrame (g'.frame.plus k) mem1.ram mem2.ram := by
    obtain ⟨different, found'⟩ := segment?_of_done notDone segments isDone old
    exact holds1.same_segment_frame ready1 extended found found' different below
  rw [whole.owner, whole.directory] at extended
  rw [whole.directory] at unmapped mapped others tables
  constructor
  case toBegun => exact filled.place ready1 took whole found holds1 holds2 extended
  case unmapped =>
    intro name' g' isDone found' k below
    rcases backed_or_done segments isDone found' with ⟨rfl, rfl⟩ | ⟨isOld, old⟩
    · exact absent_of_kept filled.extended.pages (took.ram ▸ unmapped k (Nat.zero_le k) below)
    · exact filled.unmapped name' g' isOld old k below
  case mapped =>
    intro name' g' isDone found' k below
    rcases backed_or_done segments isDone found' with ⟨rfl, rfl⟩ | ⟨isOld, old⟩
    · exact mapped k (Nat.zero_le k) below
    · apply extended.pages
      rw [took.ram]
      exact filled.mapped name' g' isOld old k below
  case pages =>
    intro page present
    by_cases inside : ∃ k, k < g.pages ∧ page = g.page.plus k
    · obtain ⟨k, below, same⟩ := inside
      exact .inr ⟨name, g, k, .inl rfl, found, below, same⟩
    · dsimp only at present
      rw [others page fun k _ below same => inside ⟨k, below, same⟩, took.ram] at present
      rcases filled.pages page present with old | ⟨name', g', k, isDone, found', rest⟩
      · exact .inl old
      · exact .inr ⟨name', g', k, .inr isDone,
          (segment?_of_done notDone segments isDone found').2, rest⟩
  case tables =>
    intro j present
    rcases tables j present with old | ⟨k, _, below, same⟩
    · rw [took.ram] at old
      rcases filled.tables j old with older | ⟨name', g', k, isDone, found', rest⟩
      · exact .inl older
      · exact .inr ⟨name', g', k, .inr isDone,
          (segment?_of_done notDone segments isDone found').2, rest⟩
    · exact .inr ⟨name, g, k, .inl rfl, found, below, same⟩
  case isClear =>
    intro name' g' isDone found' k below
    rcases backed_or_done segments isDone found' with ⟨rfl, rfl⟩ | ⟨isOld, old⟩
    · exact isClear k (Nat.zero_le k) below
    · apply (still isOld old below).clear
      rw [took.ram]
      exact filled.isClear name' g' isOld old k below

/-- If a page of a segment that is not filled yet is said to be mapped already, this bars
loading. -/
theorem barred_page (filled : Filled complete done before mem building)
    (like : building.space.Like space') (notDone : ¬ done name)
    (segments : space'.segment? = Function.update building.space.segment? name (some g)) {k : Nat}
    (below : k < g.pages) {cause : Panic} (isCause : cause = .alreadyMapped (g.page.plus k))
    (present : building.memory.ram.page? before.directory (g.page.plus k) ≠ none) :
    ∃ page : VirtPage, cause = .alreadyMapped page ∧ before.Spans page.base ∧
      mem.ram.page? before.directory page ≠ none := by
  have whole := filled.like.trans like
  have found : space'.segment? name = some g := by
    rw [segments, Function.update_self]
  have shaped : space'.Shaped := filled.holds.shaped.of_regions like.regions
  exact ⟨_, isCause, (whole.spans_iff _).mp (shaped.spans_segment found below),
    filled.present_before like notDone segments below present⟩

/-- A block is not mapped whose first page is mapped already. -/
theorem ends_mapBlock_of_first (filled : Filled complete done before mem building)
    {mem1 : Memory (Coremap NoEviction)} {blockId : BlockId}
    (took : Took ⟨g.frame.number, g.pages, before.owner, blockId⟩ building.memory mem1 left)
    (notDone : ¬ done name) (like : building.space.Like space')
    (segments : space'.segment? = Function.update building.space.segment? name (some g))
    (isFirst : building.memory.ram.page? before.directory g.page ≠ none) :
    (space'.mapBlock (Coremap.source context) g.page g.frame g.pages).Ends left mem1
      ⟨fun _ _ _ => False, fun _ _ _ => False, fun cause mem2 =>
        Interrupted (Barred context before mem cause) before mem ⟨mem2, space'⟩⟩ := by
  have whole := filled.like.trans like
  have confined1 : mem.Confined before.owner mem1 := filled.extended.confined.trans took.confined
  have taken : Holds complete building.space (some ⟨g.frame.number, g.pages⟩) mem1 :=
    filled.holds.take took filled.like.owner.symm
  have positive : 0 < g.pages := took.vacant.nonempty
  have isSpare : building.space.Uses (some ⟨g.frame.number, g.pages⟩) mem1.ram none g.frame :=
    ⟨_, withSpare_none _ _, Nat.le_refl _, Nat.lt_add_of_pos_right positive⟩
  have present : mem1.ram.page? building.space.directory g.page ≠ none := by
    rw [took.ram, filled.like.directory]
    exact isFirst
  rw [← g.page.plus_zero] at isFirst
  rw [like.mapBlock_eq]
  refine (Memory.ends_mapBlock_of_mapped took.ready taken isSpare positive present).mono
    (fun _ _ _ => id) (fun _ _ _ => id) ?_
  intro cause mem2 gaveUp
  rw [filled.like.owner] at gaveUp
  refine ⟨gaveUp.after confined1 (Or.imp confined1.not_able fun isCause => ?_), whole⟩
  exact filled.barred_page like notDone segments positive (g.page.plus_zero.symm ▸ isCause) isFirst

/-- Mapping a block that was taken and became the segment of a name. -/
theorem ends_mapBlock (filled : Filled complete done before mem building)
    {mem1 : Memory (Coremap NoEviction)} {blockId : BlockId}
    (took : Took ⟨g.frame.number, g.pages, before.owner, blockId⟩ building.memory mem1 left)
    (notDone : ¬ done name) (fresh : complete → building.space.segment? name = none)
    (samePlace : ∀ old, building.space.segment? name = some old → old.page = g.page)
    (like : building.space.Like space') (unloaded : space'.loaded = false)
    (segments : space'.segment? = Function.update building.space.segment? name (some g)) :
    (space'.mapBlock (Coremap.source context) g.page g.frame g.pages).Ends left mem1
      ⟨fun _ mem2 left => mem2.Ready left ∧
          Filled complete (fun other => other = name ∨ done other) before mem ⟨mem2, space'⟩,
        fun e mem2 left => e = .outOfMemory ⟨1⟩ ∧ mem2.Ready left ∧
          Begun complete before mem ⟨mem2, space'⟩ ∧ LinearGains before mem ⟨mem2, space'⟩ ∧
          ∃ k, k < g.pages ∧ mem2.ram.table? before.directory (.ofPage (g.page.plus k)) = none,
        fun cause mem2 =>
          Interrupted (Barred context before mem cause) before mem ⟨mem2, space'⟩⟩ := by
  have whole := filled.like.trans like
  have confined1 : mem.Confined before.owner mem1 := filled.extended.confined.trans took.confined
  have taken : Holds complete building.space (some ⟨g.frame.number, g.pages⟩) mem1 :=
    filled.holds.take took filled.like.owner.symm
  have found : space'.segment? name = some g := by
    rw [segments, Function.update_self]
  by_cases unmapped : building.memory.ram.page? before.directory g.page = none
  case neg =>
    exact (filled.ends_mapBlock_of_first took notDone like segments unmapped).mono
      (fun _ _ _ => False.elim) (fun _ _ _ => False.elim) fun _ _ => id
  have unused (old : Segment) (found : building.space.segment? name = some old) (other : VirtPage)
      (otherFrame : Frame)
      (mapped : mem1.ram.page? building.space.directory other = some otherFrame) :
      old.backs otherFrame ≠ true := by
    intro backs
    rw [took.ram] at mapped
    refine filled.holds.entered name old found other otherFrame mapped backs ?_
    rw [samePlace old found, filled.like.directory, unmapped]
  have holds1 : Holds complete space' none mem1 := taken.back like unloaded fresh unused segments
  refine (Memory.ends_mapRun took.ready holds1 found (Nat.zero_add _) (.inl rfl)).mono ?_ ?_ ?_
  · rintro ⟨⟩ mem2 left2 ⟨ready2, holds2, ran⟩
    exact ⟨ready2, filled.join took.ready took holds1 holds2 like notDone segments ran⟩
  · rintro e mem2 left2 ⟨isMemory, ready2, holds2, extended, gains, unnamed⟩
    rw [whole.owner, whole.directory] at extended
    rw [Memory.GainsOf, whole.directory, took.ram] at gains
    rw [whole.directory] at unnamed
    exact ⟨isMemory, ready2, filled.place took.ready took whole found holds1 holds2 extended,
      filled.linearGains_of_gainsOf notDone segments (took.ram ▸ extended.pages) gains, unnamed⟩
  · intro cause mem2 gaveUp
    rw [whole.owner] at gaveUp
    refine ⟨gaveUp.after confined1 (Or.imp confined1.not_able ?_), whole⟩
    rintro ⟨k, _, below, isCause, present⟩
    rw [whole.directory, took.ram] at present
    exact filled.barred_page like notDone segments below isCause present

end Filled

/-- Taking a block, making it the segment of a name, and mapping it. -/
theorem ends_fill {α : Type} (name : SegmentName) (page : VirtPage) {pages : Nat}
    (back : Frame → AddressSpace → AddressSpace) (filled : Filled complete done before mem building)
    (ready : building.memory.Ready left) (positive : 0 < pages) (notDone : ¬ done name)
    (fresh : complete → building.space.segment? name = none)
    (samePlace : ∀ old, building.space.segment? name = some old → old.page = page)
    (like : ∀ frame, building.space.Like (back frame building.space))
    (unloaded : ∀ frame, (back frame building.space).loaded = false)
    (segments : ∀ frame, (back frame building.space).segment? =
      Function.update building.space.segment? name (some ⟨page, frame, pages⟩))
    {next : Frame → Operation SpaceError (Building (Coremap NoEviction)) α}
    {post : Post SpaceError (Building (Coremap NoEviction)) α}
    (refused : ∀ cause building',
      Interrupted (Barred context before mem cause) before mem building' →
      post.panic cause building')
    (failed : ∀ n building' left, building'.memory.Ready left →
      Begun complete before mem building' → LinearGains before mem building' →
      (building'.space = building.space ∨ ∃ frame, building'.space = back frame building.space) →
      Lacking page pages before.directory building.memory building'.memory →
      post.error (.outOfMemory ⟨n⟩) building' left)
    (goesOn : ∀ frame building' left, building'.memory.Ready left →
      Filled complete (fun other => other = name ∨ done other) before mem building' →
      building'.space = back frame building.space → (next frame).Ends left building' post) :
    ((Building.inMemory fun space =>
        Memory.allocate (Coremap.source context) pages space.owner) >>= fun frame =>
      Building.updateSpace (back frame) >>= fun _ =>
      (Building.inMemory fun space =>
        space.mapBlock (Coremap.source context) page frame pages) >>= fun _ => next frame).Ends
      left building post := by
  have confined := filled.extended.confined
  refine Operation.ends_bind.mpr (Building.ends_inMemory.mpr ((Memory.ends_allocate ready).mono
    ?_ ?_ ?_))
  · rintro frame mem1 left1 ⟨blockId, took⟩
    rw [filled.like.owner] at took
    refine Operation.ends_bind.mpr (Operation.ends_change.mpr ?_)
    refine Operation.ends_bind.mpr (Building.ends_inMemory.mpr ((filled.ends_mapBlock
      (g := ⟨page, frame, pages⟩) took notDone fresh samePlace (like frame) (unloaded frame)
      (segments frame)).mono ?_ ?_ ?_))
    · exact fun _ _ left2 ⟨ready2, filled2⟩ => goesOn frame _ left2 ready2 filled2 rfl
    · rintro e mem2 left2 ⟨rfl, ready2, begun, gains, unnamed⟩
      exact failed 1 _ left2 ready2 begun gains (.inr ⟨frame, rfl⟩) (.inr unnamed)
    · exact fun cause _ interrupted => refused cause _ interrupted
  · rintro e mem1 left1 ⟨rfl, starved, same⟩
    have still := filled.unchanged same
    exact failed pages _ left1 same.ready still.toBegun still.linearGains (.inl rfl) (.inl starved)
  · intro cause mem1 gaveUp
    rw [filled.like.owner] at gaveUp
    refine refused cause _ ⟨gaveUp.after confined ?_, filled.like⟩
    rintro (zero | cannot)
    · omega
    · exact .inl (confined.not_able cannot)

/-! ## All segments -/

/-- Only the first regions are filled. -/
def SegmentName.Before (slot : Nat) : SegmentName → Prop
  | .region i => i < slot
  | .stack => False

theorem SegmentName.not_before_zero : ∀ name, ¬ Before 0 name
  | .region i => Nat.not_lt_zero i
  | .stack => id

/-- The regions of a space from `slot` on are `rest`, and they and the stack are
yet to be filled. Unless the space forgets a block they are yet to be backed. -/
structure AddressSpace.LoadingAt (complete : Prop) (slot : Nat) (rest : List Region)
    (space : AddressSpace) : Prop where
  todo : space.regions.drop slot = rest
  unbacked : complete → ∀ region ∈ rest, region.backing = none
  backed : ∀ i, i < slot → ∀ region, space.regions[i]? = some region → region.backing.isSome
  stack : complete → space.stack = none
  unloaded : space.loaded = false

namespace AddressSpace.LoadingAt

variable {slot : Nat} {region : Region} {rest : List Region}

theorem found (loading : LoadingAt complete slot (region :: rest) space) :
    space.regions[slot]? = some region := by
  have first := congrArg (fun regions : List Region => regions[0]?) loading.todo
  simpa [List.getElem?_drop] using first

theorem next (loading : LoadingAt complete slot (region :: rest) space) (frame : Frame) :
    LoadingAt complete (slot + 1) rest (backRegion slot frame space) where
  todo := by
    have tail := congrArg (List.drop 1) loading.todo
    rw [List.drop_drop, List.drop_succ_cons, List.drop_zero] at tail
    rw [← tail]
    apply List.ext_getElem?
    intro i
    rw [List.getElem?_drop, List.getElem?_drop, backRegion, List.getElem?_modify_ne _ _ (by omega)]
  unbacked isComplete other inRest :=
    loading.unbacked isComplete other (List.mem_cons_of_mem _ inRest)
  backed i low other isOther := by
    by_cases same : slot = i
    · subst same
      rw [backRegion, List.getElem?_modify_eq, loading.found] at isOther
      obtain rfl := Option.some.inj isOther
      rfl
    · rw [backRegion, List.getElem?_modify_ne _ _ same] at isOther
      exact loading.backed i (by omega) other isOther
  stack := loading.stack
  unloaded := loading.unloaded

theorem slot_lt (loading : LoadingAt complete slot [] space) {i : Nat}
    (found : space.regions[i]? = some region) : i < slot := by
  have low : i < space.regions.length := (List.getElem?_eq_some_iff.mp found).1
  have atEnd : space.regions.length ≤ slot := List.drop_eq_nil_iff.mp loading.todo
  omega

theorem all_backed (loading : LoadingAt complete slot [] space) :
    ∀ region ∈ space.regions, region.backing.isSome := by
  intro region inList
  obtain ⟨i, isRegion⟩ := List.mem_iff_getElem?.mp inList
  exact loading.backed i (loading.slot_lt isRegion) region isRegion

/-- Only regions before the next one are backed. -/
theorem before_of_segment? (loading : LoadingAt complete slot rest space) (isComplete : complete)
    (name : SegmentName) (g : Segment) (found : space.segment? name = some g) :
    SegmentName.Before slot name := by
  cases name with
  | stack =>
    rw [segment?, loading.stack isComplete] at found
    cases found
  | region i =>
    obtain ⟨region, isRegion, backed, _⟩ := segment?_region_eq_some_iff.mp found
    by_contra later
    have todo : region ∈ rest := by
      refine List.mem_of_getElem? (i := i - slot) ?_
      rw [← loading.todo, List.getElem?_drop, Nat.add_sub_cancel' (Nat.le_of_not_lt later),
        isRegion]
    rw [loading.unbacked isComplete region todo] at backed
    cases backed

end AddressSpace.LoadingAt

open AddressSpace (LoadingAt)

variable {slot : Nat} {rest : List Region}

/-- Loading came to a segment for which frames ran out. The regions before it were filled, and
unless the space forgot a block no other segment was backed. -/
def RanOut (complete : Prop) (before : AddressSpace) (mem mem' : Memory (Coremap NoEviction))
    (page : VirtPage) (pages : Nat) : Prop :=
  ∃ building slot left, building.memory.Ready left ∧
    Filled complete (SegmentName.Before slot) before mem building ∧
    (complete → ∀ name g, building.space.segment? name = some g → SegmentName.Before slot name) ∧
    Lacking page pages before.directory building.memory mem'

/-- What a run of loading may end in that was stopped for want of frames. -/
def Stopped (complete : Prop) (before : AddressSpace) (mem : Memory (Coremap NoEviction))
    (e : SpaceError) (building : Building (Coremap NoEviction)) (left : Nat) : Prop :=
  (∃ n, e = .outOfMemory ⟨n⟩) ∧ building.memory.Ready left ∧ Begun complete before mem building ∧
    LinearGains before mem building ∧ building.space.loaded = false

theorem ends_loadRegions (filled : Filled complete (SegmentName.Before slot) before mem building)
    (ready : building.memory.Ready left) (loading : LoadingAt complete slot rest building.space) :
    (AddressSpace.loadRegions (Coremap.source context) slot rest).Ends left building
      ⟨fun _ building' left => building'.memory.Ready left ∧
          ∃ slot, Filled complete (SegmentName.Before slot) before mem building' ∧
            LoadingAt complete slot [] building'.space,
        fun e building' left => Stopped complete before mem e building' left ∧
          ∃ region ∈ before.regions,
            RanOut complete before mem building'.memory region.page region.pages,
        fun cause => Interrupted (Barred context before mem cause) before mem⟩ := by
  induction rest generalizing slot building left with
  | nil => exact Operation.ends_pure.mpr ⟨ready, slot, filled, loading⟩
  | cons region rest ih =>
    have found := loading.found
    apply ends_fill (.region slot) region.page (AddressSpace.backRegion slot) filled ready
    case positive => exact filled.holds.shaped.nonempty region (List.mem_of_getElem? found)
    case notDone => exact Nat.lt_irrefl slot
    case fresh =>
      intro isComplete
      rw [AddressSpace.segment?, found, Option.bind_some, Region.segment?,
        loading.unbacked isComplete region (List.mem_cons_self ..), Option.map_none]
    case samePlace =>
      intro old isOld
      obtain ⟨_, foundToo, _, samePage, _⟩ := segment?_region_eq_some_iff.mp isOld
      obtain rfl := Option.some.inj (found.symm.trans foundToo)
      exact samePage.symm
    case like => exact fun frame => AddressSpace.like_backRegion slot frame building.space
    case unloaded => exact fun frame => loading.unloaded
    case segments => exact fun frame => AddressSpace.segment?_backRegion found
    case refused => exact fun _ _ interrupted => interrupted
    case failed =>
      rintro n building' left' ready' begun gains same lacking
      obtain ⟨original, inList, samePage, samePages⟩ :=
        filled.like.exists_region (List.mem_of_getElem? found)
      refine ⟨⟨⟨n, rfl⟩, ready', begun, gains, ?_⟩, original, inList, building, slot, left, ready,
        filled, loading.before_of_segment?, samePage ▸ samePages ▸ lacking⟩
      rcases same with same | ⟨frame, same⟩ <;> exact same ▸ loading.unloaded
    case goesOn =>
      rintro frame building' left' ready' filled' same
      refine ih (filled'.congr ?_) ready' (same ▸ loading.next frame)
      rintro (i | _) g _
      · simp only [SegmentName.Before, SegmentName.region.injEq]
        omega
      · simp [SegmentName.Before]

/-- A space whose segments are all mapped may count as loaded. -/
theorem Holds.finish (holds : Holds complete space none mem) (loaded : space.Loaded mem.ram) :
    Holds complete { space with loaded := true } none mem where
  shaped := holds.shaped.of_regions rfl
  accounted := holds.accounted
  linear := holds.linear
  entered := holds.entered
  loaded _ := ⟨loaded.regions, loaded.stack, loaded.mapped⟩
  directoryAdmitted := holds.directoryAdmitted
  tablesAdmitted := holds.tablesAdmitted

/-- All regions and the stack were backed and mapped. -/
structure Prepared (complete : Prop) (before : AddressSpace) (mem : Memory (Coremap NoEviction))
    (building : Building (Coremap NoEviction)) : Prop
    extends Filled complete (fun _ => True) before mem building where
  loaded : building.space.loaded = true

/-- A page that was mapped by loading is clear. -/
theorem Prepared.clear_of_gained (prepared : Prepared complete before mem building)
    {page : VirtPage} {frame : Frame} (unmapped : mem.ram.page? before.directory page = none)
    (mapped : building.memory.ram.page? before.directory page = some frame) :
    building.memory.ram.ClearFrame frame := by
  obtain ⟨name, g, k, found, below, rfl, rfl⟩ := prepared.linearGains page frame unmapped mapped
  exact prepared.isClear name g trivial found k below

theorem ends_loadStack (filled : Filled complete (SegmentName.Before slot) before mem building)
    (ready : building.memory.Ready left) (loading : LoadingAt complete slot [] building.space) :
    (AddressSpace.loadStack (Coremap.source context)).Ends left building
      ⟨fun _ building' left => building'.memory.Ready left ∧ Prepared complete before mem building',
        fun e building' left => Stopped complete before mem e building' left ∧
          Lacking stackBase Layout.stackPages before.directory building.memory building'.memory,
        fun cause => Interrupted (Barred context before mem cause) before mem⟩ := by
  apply ends_fill .stack stackBase (fun frame space => { space with stack := some frame })
    filled ready
  case positive => decide
  case notDone => exact fun isBefore => isBefore
  case fresh =>
    intro isComplete
    rw [AddressSpace.segment?, loading.stack isComplete, Option.map_none]
  case samePlace =>
    intro old isOld
    obtain ⟨_, _, rfl⟩ := Option.map_eq_some_iff.mp isOld
    rfl
  case like => exact fun frame => ⟨rfl, rfl, rfl, rfl⟩
  case unloaded => exact fun frame => loading.unloaded
  case segments => exact fun frame => AddressSpace.segment?_backStack
  case refused => exact fun _ _ interrupted => interrupted
  case failed =>
    rintro n building' left' ready' begun gains (same | ⟨frame, same⟩) lacking
    · exact ⟨⟨⟨n, rfl⟩, ready', begun, gains, same ▸ loading.unloaded⟩, lacking⟩
    · exact ⟨⟨⟨n, rfl⟩, ready', begun, gains, same ▸ loading.unloaded⟩, lacking⟩
  case goesOn =>
    rintro frame ⟨mem', space'⟩ left' ready' filledToo same
    dsimp only at same
    have filled' : Filled complete (fun _ => True) before mem ⟨mem', space'⟩ := by
      apply filledToo.congr
      rintro (i | _) g found
      · obtain ⟨region, isRegion, _⟩ := segment?_region_eq_some_iff.mp found
        subst same
        have low := loading.slot_lt isRegion
        simpa [SegmentName.Before] using low
      · simp
    have loaded : space'.Loaded mem'.ram := by
      constructor
      · exact same ▸ loading.all_backed
      · exact same ▸ rfl
      · exact filled'.like.directory ▸ fun name g => filled'.mapped name g trivial
    refine Operation.ends_bind.mpr (Operation.ends_change.mpr ?_)
    refine Operation.ends_bind.mpr (Operation.ends_read.mpr (Operation.ends_log.mpr ?_))
    refine ⟨ready', ⟨⟨filled'.holds.finish loaded, ?_, filled'.extended⟩, ?_, ?_, ?_, ?_, ?_⟩, rfl⟩
    · exact filled'.like.trans ⟨rfl, rfl, rfl, rfl⟩
    · exact filled'.unmapped
    · exact filled'.mapped
    · exact filled'.pages
    · exact filled'.tables
    · exact filled'.isClear

/-- The stack is not filled if there is no run of frames for it, and all stays as it is. -/
theorem ends_loadStack_of_starved (filled : Filled complete done before mem building)
    (ready : building.memory.Ready left)
    (starved : Coremap.Starved building.memory.descriptors Layout.stackPages) :
    (AddressSpace.loadStack (Coremap.source context)).Ends left building
      ⟨fun _ _ _ => False,
        fun e building' left => e = .outOfMemory ⟨Layout.stackPages⟩ ∧
          building'.space = building.space ∧ building'.memory.Ready left ∧
          Filled complete done before mem building',
        fun _ _ => ¬ Able context mem⟩ := by
  refine Operation.ends_bind.mpr (Building.ends_inMemory.mpr ((Memory.ends_allocate ready).mono
    ?_ ?_ ?_))
  · rintro frame mem' left' ⟨id, took⟩
    refine absurd starved (Coremap.not_starved_of_free frame.number fun i small => ?_)
    exact took.vacant.free _ ⟨Nat.le_add_right _ _, Nat.add_lt_add_left small _⟩
  · rintro e mem' left' ⟨rfl, _, same⟩
    exact ⟨rfl, rfl, same.ready, filled.unchanged same⟩
  · rintro cause mem' ⟨nothing | cannot, _⟩
    · cases nothing
    · exact filled.extended.confined.not_able cannot

/-- Loading a space. Nothing is forgotten if nothing of the space is backed. A
space that is loaded already is left alone. -/
theorem ends_prepareLoad (holds : Holds complete before none mem) (ready : mem.Ready left)
    (unbacked : complete → before.loaded = false → before.Unbacked) :
    (AddressSpace.prepareLoad (Coremap.source context)).Ends left ⟨mem, before⟩
      ⟨fun _ building left => building.memory.Ready left ∧ before.loaded = false ∧
          Prepared complete before mem building,
        fun e building left => (e = .alreadyLoaded ∧ before.loaded = true ∧
            building = ⟨mem, before⟩ ∧ mem.Ready left) ∨
          before.loaded = false ∧ Stopped complete before mem e building left ∧
            ((∃ region ∈ before.regions,
              RanOut complete before mem building.memory region.page region.pages) ∨
            RanOut complete before mem building.memory stackBase Layout.stackPages),
        fun cause building => before.loaded = false ∧
          Interrupted (Barred context before mem cause) before mem building⟩ := by
  refine Operation.ends_bind.mpr (Operation.ends_read.mpr ?_)
  rcases isLoaded : before.loaded with _ | _
  · have loading : LoadingAt complete 0 before.regions before := by
      constructor
      case todo => rfl
      case unbacked => exact fun isComplete => (unbacked isComplete isLoaded).regions
      case backed => exact nofun
      case stack => exact fun isComplete => (unbacked isComplete isLoaded).stack
      case unloaded => exact isLoaded
    refine Operation.ends_bind.mpr (Operation.ends_read.mpr ?_)
    have filled := filled_nil holds SegmentName.not_before_zero
    refine Operation.Ends.bind (ends_loadRegions filled ready loading) ?_ ?_ ?_
    · rintro ⟨⟩ building left' ⟨ready', slot, filled, loading'⟩
      refine (ends_loadStack filled ready' loading').mono ?_ ?_ ?_
      · exact fun _ _ _ ⟨ready'', prepared⟩ => ⟨ready'', rfl, prepared⟩
      · exact fun _ _ _ ⟨stopped, lacking⟩ => .inr ⟨rfl, stopped, .inr ⟨building, slot, left',
          ready', filled, loading'.before_of_segment?, lacking⟩⟩
      · exact fun _ _ interrupted => ⟨rfl, interrupted⟩
    · exact fun _ _ _ ⟨stopped, ranOut⟩ => .inr ⟨rfl, stopped, .inl ranOut⟩
    · exact fun _ _ interrupted => ⟨rfl, interrupted⟩
  · exact Operation.ends_fail.mpr (.inl ⟨rfl, rfl, rfl, ready⟩)

end PagedMemory
