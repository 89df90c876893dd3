import Mathlib.Algebra.BigOperators.Fin
import PagedMemory.Proofs.Space.Ample
import PagedMemory.Proofs.Space.Needs
import PagedMemory.Proofs.Space.Translation

/-!
# What a loaded space has got

Loading maps the pages that a space has segments for and no others, and makes the tables that
these need and that were missing. So the frames that a space has more of once it is loaded are
those of its segments and of its new tables.
-/

namespace PagedMemory

open Coremap (countHeldBy)

variable {before space : AddressSpace} {mem : Memory (Coremap NoEviction)}
  {building : Building (Coremap NoEviction)} {page : VirtPage} {frame : Frame} {complete : Prop}
  {left left' : Nat}

/-! ## Pages and tables -/

/-- Loading leaves every page as it is that no segment is for. -/
theorem Begun.page?_of_not_spans (begun : Begun complete before mem building)
    (gains : LinearGains before mem building) (outside : ¬ before.Spans page.base) :
    building.memory.ram.page? before.directory page = mem.ram.page? before.directory page := by
  rcases unmapped : mem.ram.page? before.directory page with _ | frame
  · by_contra present
    obtain ⟨frame, mapped⟩ := Option.ne_none_iff_exists'.mp present
    obtain ⟨name, g, k, found, small, rfl, _⟩ := gains page frame unmapped mapped
    have spans := begun.holds.shaped.spans_segment found small
    exact outside ((begun.like.spans_iff _).mp spans)
  · exact begun.extended.pages page frame unmapped

namespace Prepared

/-- A space is loaded only if no page of its segments was mapped. -/
theorem page?_of_spans (prepared : Prepared complete before mem building)
    {page : VirtPage} (spans : before.Spans page.base) :
    mem.ram.page? before.directory page = none := by
  have loaded := prepared.holds.loaded prepared.loaded
  obtain ⟨name, g, k, found, small, rfl⟩ :=
    loaded.exists_segment prepared.holds.shaped ((prepared.like.spans_iff _).mpr spans)
  exact prepared.unmapped name g trivial found k small

/-- After loading the pages that are mapped are those that were, and those of the segments. -/
theorem page?_ne_none_iff (prepared : Prepared complete before mem building)
    (page : VirtPage) :
    building.memory.ram.page? before.directory page ≠ none ↔
      mem.ram.page? before.directory page ≠ none ∨ before.Spans page.base := by
  by_cases spans : before.Spans page.base
  · refine iff_of_true ?_ (.inr spans)
    have loaded := prepared.holds.loaded prepared.loaded
    obtain ⟨name, g, k, found, small, rfl⟩ :=
      loaded.exists_segment prepared.holds.shaped ((prepared.like.spans_iff _).mpr spans)
    rw [prepared.mapped name g trivial found k small]
    exact Option.some_ne_none _
  · rw [prepared.page?_of_not_spans prepared.linearGains spans, or_iff_left spans]

/-- Where a segment is for a page there is a table after loading, and elsewhere only if
there was one. -/
theorem table?_ne_none_iff (prepared : Prepared complete before mem building)
    (j : DirectoryIndex) :
    building.memory.ram.table? before.directory j ≠ none ↔
      mem.ram.table? before.directory j ≠ none ∨
        ∃ page, before.Spans page.base ∧ DirectoryIndex.ofPage page = j := by
  have shaped := prepared.holds.shaped
  constructor
  · intro named
    rcases prepared.tables j named with old | ⟨name, g, k, _, found, small, under⟩
    · exact .inl old
    · have spans := shaped.spans_segment found small
      exact .inr ⟨_, (prepared.like.spans_iff _).mp spans, under⟩
  · rintro (old | ⟨page, spans, rfl⟩)
    · obtain ⟨table, named⟩ := Option.ne_none_iff_exists'.mp old
      rw [prepared.extended.tables j table named]
      exact Option.some_ne_none table
    · intro unnamed
      have loaded := prepared.holds.loaded prepared.loaded
      obtain ⟨name, g, k, found, small, rfl⟩ :=
        loaded.exists_segment shaped ((prepared.like.spans_iff _).mpr spans)
      have mapped := prepared.mapped name g trivial found k small
      rw [Ram.page?_eq_none_of_table? unnamed] at mapped
      cases mapped

end Prepared

/-! ## Frames -/

/-- The slots of 4 MiB that have a table in one map and had none in another. -/
def newSlots (tables tables' : Nat → Option Frame) : Finset Nat :=
  {n ∈ Finset.range 1024 | tables n = none ∧ tables' n ≠ none}

theorem mem_newSlots_iff {tables tables' : Nat → Option Frame} {n : Nat} :
    n ∈ newSlots tables tables' ↔ n < 1024 ∧ tables n = none ∧ tables' n ≠ none := by
  rw [newSlots, Finset.mem_filter, Finset.mem_range]

/-- The blocks of the regions of a loaded space are as long as its regions. -/
theorem AddressSpace.Loaded.sum_regions {ram : Ram} (loaded : space.Loaded ram) (ram' : Ram) :
    ∑ i ∈ Finset.range space.regions.length,
        (space.extent? ram' (.segment (.region i))).elim 0 Extent.size =
      (space.regions.map Region.pages).sum := by
  rw [Finset.sum_range, ← Fin.sum_univ_fun_getElem]
  refine Finset.sum_congr rfl fun i _ => ?_
  obtain ⟨frame, _, found⟩ := exists_segment?_region (List.getElem?_eq_getElem i.isLt)
    (loaded.regions space.regions[i] (List.getElem_mem i.isLt))
  rw [extent?_segment, found]
  rfl

/-- The slots of the segments of a space, and those of some tables. -/
def gainedSlots (space : AddressSpace) (slots : Finset Nat) : Finset Slot :=
  ((Finset.range space.regions.length).image fun i => .segment (.region i)) ∪
    ({.segment .stack} ∪ slots.image fun n => .table (.ofSlot n))

theorem mem_gainedSlots_iff {slots : Finset Nat} {slot : Slot} :
    slot ∈ gainedSlots space slots ↔
      (∃ i < space.regions.length, .segment (.region i) = slot) ∨
        slot = .segment .stack ∨ ∃ n ∈ slots, .table (.ofSlot n) = slot := by
  simp only [gainedSlots, Finset.mem_union, Finset.mem_image, Finset.mem_range,
    Finset.mem_singleton]

theorem sum_gainedSlots {slots : Finset Nat} (few : ∀ n ∈ slots, n < 1024)
    (place : Slot → Option Extent) :
    ∑ slot ∈ gainedSlots space slots, (place slot).elim 0 Extent.size =
      ∑ i ∈ Finset.range space.regions.length,
          (place (.segment (.region i))).elim 0 Extent.size +
        ((place (.segment .stack)).elim 0 Extent.size +
          ∑ n ∈ slots, (place (.table (.ofSlot n))).elim 0 Extent.size) := by
  rw [gainedSlots, Finset.sum_union, Finset.sum_union, Finset.sum_singleton, Finset.sum_image,
    Finset.sum_image]
  · intro n inSlots n' inSlots' same
    simp only [Slot.table.injEq, DirectoryIndex.ofSlot, DirectoryIndex.mk.injEq,
      Fin.mk.injEq, Nat.mod_eq_of_lt (few n inSlots), Nat.mod_eq_of_lt (few n' inSlots')] at same
    exact same
  · intro i _ j _ same
    simpa using same
  · simp
  · simp [Finset.disjoint_left]

namespace Prepared

/-- The slots that a space has gained by loading hold the frames of its segments and of its
new tables. -/
theorem sum_gained (prepared : Prepared complete before mem building) :
    ∑ slot ∈ gainedSlots building.space (newSlots (mem.ram.slotTable? before.directory)
        (building.memory.ram.slotTable? before.directory)),
        (building.space.extent? building.memory.ram slot).elim 0 Extent.size =
      (before.regions.map Region.pages).sum + (Layout.stackPages +
        (newSlots (mem.ram.slotTable? before.directory)
          (building.memory.ram.slotTable? before.directory)).card) := by
  have like := prepared.like
  have loaded := prepared.holds.loaded prepared.loaded
  obtain ⟨frame, isStack⟩ := Option.isSome_iff_exists.mp loaded.stack
  rw [sum_gainedSlots fun n isNew => (mem_newSlots_iff.mp isNew).1, loaded.sum_regions, like.pages,
    AddressSpace.extent?_segment, AddressSpace.segment?, isStack, Finset.card_eq_sum_ones]
  refine congrArg _ (congrArg _ (Finset.sum_congr rfl fun n isNew => ?_))
  obtain ⟨table, named⟩ := Option.ne_none_iff_exists'.mp (mem_newSlots_iff.mp isNew).2.2
  rw [Ram.slotTable?] at named
  rw [AddressSpace.extent?_table, like.directory, named]
  rfl

/-- A space that was loaded has the frames of its segments and of its new tables more. -/
theorem countHeldBy_eq (prepared : Prepared complete before mem building) (isComplete : complete)
    (holds : Holds complete before none mem) (ready : mem.Ready left)
    (ready' : building.memory.Ready left') (unbacked : before.Unbacked) :
    countHeldBy building.memory.descriptors before.owner =
      countHeldBy mem.descriptors before.owner +
        ((before.regions.map Region.pages).sum + (Layout.stackPages +
          (newSlots (mem.ram.slotTable? before.directory)
            (building.memory.ram.slotTable? before.directory)).card)) := by
  have own : countHeldBy building.memory.descriptors before.owner =
      countHeldBy building.memory.descriptors building.space.owner := by
    rw [prepared.like.owner]
  rw [own, ← prepared.sum_gained]
  refine holds.countHeldBy_eq_add prepared.holds isComplete ready ready'
    (fun _ _ => prepared.extent?_kept (fun _ _ _ => trivial) unbacked) _ ?_ ?_
  · intro slot isGained
    rcases mem_gainedSlots_iff.mp isGained with ⟨i, _, rfl⟩ | rfl | ⟨n, isNew, rfl⟩
    · rw [AddressSpace.extent?_segment, unbacked.segment?, Option.map_none]
    · rw [AddressSpace.extent?_segment, unbacked.segment?, Option.map_none]
    · rw [AddressSpace.extent?_table, Option.map_eq_none_iff]
      exact (mem_newSlots_iff.mp isNew).2.1
  · intro slot empty isNamed
    apply mem_gainedSlots_iff.mpr
    rcases prepared.extent?_gained unbacked ready' empty isNamed with
      ⟨i | _, rfl, found⟩ | ⟨i, rfl, unnamed, isTable⟩
    · obtain ⟨g, isSegment⟩ := Option.ne_none_iff_exists'.mp found
      obtain ⟨region, isRegion, _⟩ := segment?_region_eq_some_iff.mp isSegment
      exact .inl ⟨i, (List.getElem?_eq_some_iff.mp isRegion).1, rfl⟩
    · exact .inr (.inl rfl)
    · rw [← DirectoryIndex.ofSlot_toFin i] at unnamed isTable ⊢
      exact .inr (.inr ⟨_, mem_newSlots_iff.mpr ⟨i.toFin.isLt, unnamed, isTable⟩, rfl⟩)

end Prepared

/-- A space that had all of its tables has no new ones. -/
theorem Prepared.newSlots_eq_empty (prepared : Prepared complete before mem building)
    (tabled : ∀ page : VirtPage, before.Spans page.base →
      mem.ram.table? before.directory (.ofPage page) ≠ none) :
    newSlots (mem.ram.slotTable? before.directory)
      (building.memory.ram.slotTable? before.directory) = ∅ := by
  refine Finset.eq_empty_iff_forall_notMem.mpr fun n isNew => ?_
  obtain ⟨_, unnamed, named⟩ := mem_newSlots_iff.mp isNew
  rcases (prepared.table?_ne_none_iff _).mp named with old | ⟨page, spans, isSlot⟩
  · exact old unnamed
  · exact tabled page spans (isSlot ▸ unnamed)

end PagedMemory
