import PagedMemory.Proofs.Coremap.Counting
import PagedMemory.Proofs.Space.Copying

/-!
# Spaces of the same shape

Two spaces are twins if they have the same layout, and tables and pages in the
same places. Whether a page lies in the block of a segment can be told from its
place alone, as long as no loading has stopped halfway, so twins name runs of the
same sizes in the same slots and have equally many frames.
-/

namespace PagedMemory

variable {mem mem' : Memory (Coremap NoEviction)} {space twin : AddressSpace} {left left' : Nat}
  {spare : Option Extent} {page : VirtPage} {frame : Frame} {name : SegmentName} {g : Segment}
  {complete : Prop}

/-- A mapped page of a whole space lies in the block of a segment exactly if it
is one of the segment's pages. -/
theorem Holds.backs_iff (holds : Holds complete space spare mem) (ready : mem.Ready left)
    (whole : space.Whole) (mapped : mem.ram.page? space.directory page = some frame) :
    space.segments.backs frame = true ↔ ∃ name g, space.segment? name = some g ∧
      g.page.number ≤ page.number ∧ page.number < g.page.number + g.pages := by
  rw [holds.shaped.backs_iff]
  constructor
  · rintro ⟨name, g, found, backs⟩
    have place := holds.linear name g found page frame mapped backs
    have inBlock := Segment.backs_iff.mp backs
    exact ⟨name, g, found, by omega, by omega⟩
  · rintro ⟨name, g, found, low, high⟩
    refine ⟨name, g, found, ?_⟩
    rcases whole with loaded | unbacked
    · have small : page.number - g.page.number < g.pages := by omega
      have samePage : g.page.plus (page.number - g.page.number) = page := by
        apply Page.ext
        rw [holds.shaped.number_segment_page found small]
        omega
      have linear := (holds.loaded loaded).mapped name g found _ small
      rw [samePage, mapped] at linear
      rw [Option.some.inj linear]
      exact holds.backs_segment_frame ready found small
    · rw [unbacked.segment? name] at found
      cases found

/-- Two whole spaces with one layout, and with tables and pages in the same
places, each in a memory of its own. -/
structure Twins (space twin : AddressSpace) (mem mem' : Memory (Coremap NoEviction)) : Prop where
  ready : mem.Ready 0
  ready' : mem'.Ready 0
  holds : Holds True space none mem
  holds' : Holds True twin none mem'
  whole : space.Whole
  whole' : twin.Whole
  loaded : twin.loaded = space.loaded
  regions : twin.regions.map Region.unbacked = space.regions.map Region.unbacked
  tables : ∀ i,
    (mem'.ram.table? twin.directory i).isSome = (mem.ram.table? space.directory i).isSome
  pages : ∀ page,
    (mem'.ram.page? twin.directory page).isSome = (mem.ram.page? space.directory page).isSome

namespace Twins

theorem symm (twins : Twins space twin mem mem') : Twins twin space mem' mem where
  ready := twins.ready'
  ready' := twins.ready
  holds := twins.holds'
  holds' := twins.holds
  whole := twins.whole'
  whole' := twins.whole
  loaded := twins.loaded.symm
  regions := twins.regions.symm
  tables i := (twins.tables i).symm
  pages page := (twins.pages page).symm

/-- A segment of one lies on the pages of a segment of the other. -/
theorem exists_segment (twins : Twins space twin mem mem') (found : twin.segment? name = some g) :
    ∃ g', space.segment? name = some g' ∧ g'.page = g.page ∧ g'.pages = g.pages := by
  rcases isLoaded : space.loaded with _ | _
  · rcases twins.whole' with loaded | unbacked
    · rw [twins.loaded, isLoaded] at loaded
      cases loaded
    · rw [unbacked.segment? name] at found
      cases found
  · exact exists_segment_of_regions (twins.holds.loaded isLoaded) twins.regions found

/-- A page in no segment's block of one is in no segment's block of the other. -/
theorem backs_eq_false (twins : Twins space twin mem mem') {frame' : Frame}
    (mapped : mem.ram.page? space.directory page = some frame)
    (mapped' : mem'.ram.page? twin.directory page = some frame')
    (single : twin.segments.backs frame' = false) : space.segments.backs frame = false := by
  rw [Bool.eq_false_iff] at single ⊢
  intro backs
  obtain ⟨name, g, found, low, high⟩ :=
    (twins.holds.backs_iff twins.ready twins.whole mapped).mp backs
  obtain ⟨g', found', samePage, samePages⟩ := twins.symm.exists_segment found
  refine single ((twins.holds'.backs_iff twins.ready' twins.whole' mapped').mpr ?_)
  exact ⟨name, g', found', by rw [samePage]; exact low, by rw [samePage, samePages]; exact high⟩

/-- A slot that names a run in one names a run of that size in the other. -/
theorem exists_extent (twins : Twins space twin mem mem') {slot : Slot} {e : Extent}
    (named : twin.extent? mem'.ram slot = some e) :
    ∃ e', space.extent? mem.ram slot = some e' ∧ e'.size = e.size := by
  cases slot with
  | directory =>
    rw [AddressSpace.extent?_directory, Option.some.injEq] at named
    exact ⟨_, AddressSpace.extent?_directory space mem.ram, named ▸ rfl⟩
  | table i =>
    rw [AddressSpace.extent?_table, Option.map_eq_some_iff] at named
    obtain ⟨table', isTable', rfl⟩ := named
    have isSome := twins.tables i
    rw [isTable', Option.isSome_some] at isSome
    obtain ⟨table, isTable⟩ := Option.isSome_iff_exists.mp isSome.symm
    exact ⟨.ofFrame table, by rw [AddressSpace.extent?_table, isTable, Option.map_some], rfl⟩
  | segment name =>
    rw [AddressSpace.extent?_segment, Option.map_eq_some_iff] at named
    obtain ⟨g, found, rfl⟩ := named
    obtain ⟨g', found', _, samePages⟩ := twins.exists_segment found
    refine ⟨⟨g'.frame.number, g'.pages⟩, ?_, samePages⟩
    rw [AddressSpace.extent?_segment, found', Option.map_some]
  | page page =>
    rw [AddressSpace.extent?_page, Option.bind_eq_some_iff] at named
    obtain ⟨frame', mapped', named⟩ := named
    split at named
    · cases named
    rename_i single
    obtain rfl := Option.some.inj named
    have isSome := twins.pages page
    rw [mapped', Option.isSome_some] at isSome
    obtain ⟨frame, mapped⟩ := Option.isSome_iff_exists.mp isSome.symm
    have single := twins.backs_eq_false mapped mapped' (Bool.eq_false_iff.mpr single)
    refine ⟨.ofFrame frame, ?_, rfl⟩
    rw [AddressSpace.extent?_page, mapped, Option.bind_some, single, if_neg Bool.false_ne_true]

theorem sizes (twins : Twins space twin mem mem') (slot : Slot) :
    (twin.extent? mem'.ram slot).map Extent.size =
      (space.extent? mem.ram slot).map Extent.size := by
  rcases named' : twin.extent? mem'.ram slot with _ | e'
  · rcases named : space.extent? mem.ram slot with _ | e
    · rfl
    · obtain ⟨e', named'', _⟩ := twins.symm.exists_extent named
      rw [named'] at named''
      cases named''
  · obtain ⟨e, named, sameSize⟩ := twins.exists_extent named'
    rw [named, Option.map_some, Option.map_some, sameSize]

/-- Twins have equally many frames. -/
theorem countHeldBy_eq (twins : Twins space twin mem mem') :
    Coremap.countHeldBy mem'.descriptors twin.owner =
      Coremap.countHeldBy mem.descriptors space.owner := by
  refine twins.holds'.accounted.countHeldBy_eq twins.ready'.coremap.sound.tiled
    twins.holds.accounted twins.ready.coremap.sound.tiled ?_
  intro slot
  rcases slot with _ | slot
  · rfl
  · exact twins.sizes slot

end Twins

end PagedMemory
