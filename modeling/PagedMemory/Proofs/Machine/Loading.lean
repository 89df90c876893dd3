import PagedMemory.Proofs.Machine.TableMap
import PagedMemory.Proofs.Space.Prepared

/-!
# What loading builds

A space that is loaded for the first time gets a block for every region and for its stack.
Every page of these is mapped to the frame at its place in the block, and the frame is clear.
All other pages stay as they are, tables are made where they were missing and nowhere else,
and the frames that the space has more of are those of the blocks and of the new tables.

If frames run out, the space is not loaded and keeps its layout, and what is mapped of the
pages it has segments for lies at its place in a block that the space knows of.
-/

namespace PagedMemory

open Coremap (countHeldBy)

variable {before space space' : AddressSpace} {mem : Memory (Coremap NoEviction)}
  {building : Building (Coremap NoEviction)} {page : VirtPage} {frame : Frame} {complete : Prop}
  {left left' : Nat}

/-! ## Loading in a machine -/

/-- What the loading of a space builds, from one map of its pages and tables to another. -/
structure Built (space space' : AddressSpace) (ram : Ram) (frames frames' : Array Descriptor)
    (pages pages' : VirtPage → Option Frame) (tables tables' : Nat → Option Frame) : Prop where
  loaded : space'.loaded = true
  like : space.Like space'
  /-- Every region has a segment, and so has the stack. -/
  segments : space'.segments.toList.map (fun g => (g.page, g.pages)) =
    space.regions.map (fun region => (region.page, region.pages)) ++
      [(stackBase, Layout.stackPages)]
  /-- Every page of a segment is mapped to the frame at its place, which is clear. -/
  mapped : ∀ g ∈ space'.segments.toList, ∀ i < g.pages, ∃ (page : VirtPage) (frame : Frame),
    page.number = g.page.number + i ∧ frame.number = g.frame.number + i ∧
      pages' page = some frame ∧ ram.ClearFrame frame
  others : ∀ page : VirtPage, ¬ space.Spans page.base → pages' page = pages page
  /-- The slots that have a table are those that had one and those of the segments. -/
  tabled : ∀ n < 1024, tables' n ≠ none ↔
    tables n ≠ none ∨ ∃ page : VirtPage, space.Spans page.base ∧ page.number / 1024 = n
  /-- The space has the frames of its segments and of its new tables more. -/
  count : countHeldBy frames' space.owner = countHeldBy frames space.owner +
    ((space.regions.map Region.pages).sum + (Layout.stackPages + (newSlots tables tables').card))

/-- What is left of a space whose loading failed. -/
structure Stalled (space space' : AddressSpace) (pages pages' : VirtPage → Option Frame) :
    Prop where
  unloaded : space'.loaded = false
  like : space.Like space'
  others : ∀ page : VirtPage, ¬ space.Spans page.base → pages' page = pages page
  /-- A page that is mapped lies at its place in the block of a segment. -/
  linear : ∀ (page : VirtPage) (frame : Frame), space.Spans page.base → pages' page = some frame →
    ∃ g ∈ space'.segments.toList, ∃ i < g.pages,
      page.number = g.page.number + i ∧ frame.number = g.frame.number + i

/-- Loading that went well has built all that the space has segments for. -/
theorem Prepared.built (prepared : Prepared complete before mem building) (isComplete : complete)
    (holds : Holds complete before none mem) (ready : mem.Ready left)
    (ready' : building.memory.Ready left') (unbacked : before.Unbacked) :
    Built before building.space building.memory.ram mem.descriptors building.memory.descriptors
      (mem.ram.page? before.directory) (building.memory.ram.page? before.directory)
      (mem.ram.slotTable? before.directory) (building.memory.ram.slotTable? before.directory) where
  loaded := prepared.loaded
  like := prepared.like
  segments := by
    have loaded := prepared.holds.loaded prepared.loaded
    have regions := congrArg (List.map fun region => (region.page, region.pages))
      prepared.like.regions
    rw [List.map_map, List.map_map] at regions
    exact (loaded.segments_eq prepared.holds.shaped).trans (congrArg (· ++ _) regions)
  mapped g inList i small := by
    obtain ⟨name, found⟩ := prepared.holds.shaped.mem_segments_iff.mp inList
    exact ⟨_, _, prepared.holds.shaped.number_segment_page found small,
      prepared.holds.number_segment_frame ready' found small,
      prepared.mapped name g trivial found i small, prepared.isClear name g trivial found i small⟩
  others _ := prepared.page?_of_not_spans prepared.linearGains
  tabled n small := by
    simp only [← DirectoryIndex.ofPage_eq_ofSlot_iff small]
    exact prepared.table?_ne_none_iff (.ofSlot n)
  count := prepared.countHeldBy_eq isComplete holds ready ready' unbacked

/-- Loading that was given up has left nothing but what the space knows of. -/
theorem Begun.stalled (begun : Begun complete before mem building)
    (gains : LinearGains before mem building) (unloaded : building.space.loaded = false)
    (ready' : building.memory.Ready left')
    (unmapped : ∀ page : VirtPage, before.Spans page.base →
      mem.ram.page? before.directory page = none) :
    Stalled before building.space (mem.ram.page? before.directory)
      (building.memory.ram.page? before.directory) where
  unloaded := unloaded
  like := begun.like
  others _ := begun.page?_of_not_spans gains
  linear page frame spans mapped := by
    obtain ⟨name, g, k, found, small, rfl, rfl⟩ := gains page frame (unmapped page spans) mapped
    exact ⟨g, begun.holds.shaped.mem_segments_iff.mpr ⟨name, found⟩, k, small,
      begun.holds.shaped.number_segment_page found small,
      begun.holds.number_segment_frame ready' found small⟩

namespace Machine

variable {stealer : Stealer} {machine : Machine (Coremap NoEviction)} {held : List VirtAddr}
  {failed retried : List SpaceId}

/-- A machine after the loading of a space, which it answers for. -/
def Builds (coremap : Coremap NoEviction) (space : AddressSpace)
    (pages : VirtPage → Option Frame) (tables : Nat → Option Frame)
    (after : Machine (FrameSupply NoEviction)) : Prop :=
  ∃ space' coremap' pages' tables', after.space? space.id = some space' ∧
    after.memory.frames.coremap = some coremap' ∧ after.Charted space.id pages' tables' ∧
    Built space space' after.memory.ram coremap.frames coremap'.frames pages pages' tables tables'

/-- A machine after the loading of a space has failed. -/
def Stalls (space : AddressSpace) (pages : VirtPage → Option Frame)
    (after : Machine (FrameSupply NoEviction)) : Prop :=
  ∃ space' pages' tables', after.space? space.id = some space' ∧
    after.Charted space.id pages' tables' ∧ Stalled space space' pages pages'

/-- How the loading of a space ends. -/
structure Loads (before : Machine (FrameSupply NoEviction)) (coremap : Coremap NoEviction)
    (space : AddressSpace) (pages : VirtPage → Option Frame) (tables : Nat → Option Frame)
    (outcome : Outcome VmError (Machine (FrameSupply NoEviction)) Unit) : Prop where
  /-- A thread that may sleep gets an answer where RAM can be accessed. -/
  total : CanSleep (some before.context) →
    before.memory.ram.Admits coremap.reservation.frameCount →
      ∀ cause, outcome.result ≠ .panic cause
  builds : outcome.result = .value () → Builds coremap space pages tables outcome.state
  fails : ∀ e, outcome.result = .error e →
    (∃ n, e = .space (.outOfMemory ⟨n⟩)) ∧ Stalls space pages outcome.state

theorem loads_of_ends {before : Machine (FrameSupply NoEviction)} {coremap : Coremap NoEviction}
    {pages : VirtPage → Option Frame} {tables : Nat → Option Frame}
    {op : Operation VmError (Machine (FrameSupply NoEviction)) Unit}
    (ends : op.Ends (draws (op.run before).events) before
      ⟨fun _ after _ => Builds coremap space pages tables after,
        fun e after _ => (∃ n, e = .space (.outOfMemory ⟨n⟩)) ∧ Stalls space pages after,
        fun _ _ => ¬ (CanSleep (some before.context) ∧
          before.memory.ram.Admits coremap.reservation.frameCount)⟩) :
    Loads before coremap space pages tables (op.run before) := by
  have met := ends (Nat.le_refl _)
  generalize op.run before = outcome at met ⊢
  rcases outcome with ⟨⟨⟩ | e | cause, after, shown⟩
  · exact ⟨nofun, fun _ => met, nofun⟩
  · refine ⟨nofun, nofun, ?_⟩
    rintro _ ⟨⟩
    exact met
  · exact ⟨fun canSleep admits _ _ => met ⟨canSleep, admits⟩, nofun, nofun⟩

/-- A space that was changed together with the memory is answered for as it is. -/
theorem charted_replaceSpace {mem' : Memory (Coremap NoEviction)}
    (found : machine.space? space.id = some space) (like : space.Like space')
    (holds' : Holds complete space' none mem') :
    (withStealer stealer (replaceSpace space' { machine with memory := mem' })).Charted space.id
      (mem'.ram.page? space.directory) (mem'.ram.slotTable? space.directory) := by
  rw [← like.id, ← like.directory]
  refine charted_of_holds ?_ holds' (mem'.ram.namesTables_slotTable? space'.directory)
  rw [like.id]
  exact space?_replaceSpace found like.id

/-- Loading a space for the first time, none of whose segments' pages is mapped. -/
theorem ends_prepareLoad_loads
    (settled : Settled machine.memory machine.spaces held failed retried)
    (ready : machine.memory.Ready left) (inList : space ∈ machine.spaces)
    (unloaded : space.loaded = false) (notFailed : space.id ∉ failed)
    (notRetried : space.id ∉ retried)
    (unmapped : ∀ page : VirtPage, space.Spans page.base →
      machine.memory.ram.page? space.directory page = none) :
    (sourced fun source => prepareLoad source space.id).Ends left (withStealer stealer machine)
      ⟨fun _ after _ => Builds machine.memory.frames space
          (machine.memory.ram.page? space.directory)
          (machine.memory.ram.slotTable? space.directory) after,
        fun e after _ => (∃ n, e = .space (.outOfMemory ⟨n⟩)) ∧
          Stalls space (machine.memory.ram.page? space.directory) after,
        fun _ _ => ¬ (CanSleep (some machine.context) ∧
          machine.memory.ram.Admits machine.memory.frames.reservation.frameCount)⟩ := by
  have found := space?_of_mem settled.distinct inList
  have only {other : AddressSpace} (inListToo : other ∈ machine.spaces)
      (same : other.id = space.id) : other = space :=
    settled.distinct other inListToo space inList same
  have isComplete : space.id ∉ retriedBy space.id failed retried := by
    rw [retriedBy, if_neg notFailed]
    exact notRetried
  have unbacked : space.Unbacked := by
    refine (settled.whole space inList notFailed).resolve_left ?_
    rw [unloaded]
    exact Bool.false_ne_true
  refine Request.ends_sourced.mpr (ends_prepareLoadOf settled ready ?_ ?_ ?_ ?_ ?_)
  · intro unknown
    cases found.symm.trans unknown
  · rintro other building left' inListToo same _ ready' prepared
    obtain rfl := only inListToo same
    have holds : Holds (other.id ∉ retriedBy other.id failed retried) other none machine.memory :=
      (settled.holds other inList).weaken fun _ => notRetried
    exact ⟨building.space, building.memory.frames, _, _, space?_replaceSpace found prepared.like.id,
      rfl, charted_replaceSpace found prepared.like prepared.holds,
      prepared.built isComplete holds ready ready' unbacked⟩
  · rintro other _ inListToo same isLoaded
    obtain rfl := only inListToo same
    cases unloaded.symm.trans isLoaded
  · rintro other n building left' inListToo same _ ready' begun gains still
    obtain rfl := only inListToo same
    exact ⟨⟨n, rfl⟩, building.space, _, _, space?_replaceSpace found begun.like.id,
      charted_replaceSpace found begun.like begun.holds, begun.stalled gains still ready' unmapped⟩
  · rintro cause other building inListToo same _ interrupted
    obtain rfl := only inListToo same
    rcases interrupted.refused.reason with cannot | ⟨page, _, spans, mapped⟩
    · exact fun able => cannot ⟨able.1, able.2⟩
    · exact absurd (unmapped page spans) mapped

end Machine

namespace Session

open Machine

variable {session : Session}

/-- In every state of a run, the first loading of a space builds all that the space has
segments for, or leaves what it mapped where the space knows of it. It is the first if the
space is not loaded and is not among those whose loading has failed. No identity of a block
or of a space has come round again in a run. -/
theorem loads_of_reachable (reachable : Reachable session)
    (inList : space ∈ session.machine.spaces) (unloaded : space.loaded = false)
    (notFailed : space.id ∉ session.failed) :
    ∃ coremap pages tables, session.machine.memory.frames.coremap = some coremap ∧
      session.machine.Charted space.id pages tables ∧
      ((∀ page : VirtPage, space.Spans page.base → pages page = none) →
        ∀ context outcome,
          (sourced fun source => prepareLoad source space.id).run
            { session.machine with context := context } = outcome →
          session.NoWrap (.prepareLoad space.id) outcome.events →
          Loads { session.machine with context := context } coremap space pages tables
            outcome) := by
  have notRetried : space.id ∉ session.retried := fun inRetried =>
    notFailed (reachable.retried_subset inRetried)
  obtain ⟨stealer, machine, isMachine, settled, inList, isCoremap, charted⟩ :=
    reachable.exists_settled inList
  refine ⟨machine.memory.frames, _, _, isCoremap, charted, ?_⟩
  rintro unmapped context _ rfl noWrap
  have ready := settled.ready.of_room (noWrap.blocks _ isCoremap)
  let asked : Machine (Coremap NoEviction) := { machine with context := context }
  have settled : Settled asked.memory asked.spaces _ _ _ := settled
  rw [withContext_eq isMachine] at noWrap ready ⊢
  exact loads_of_ends
    (ends_prepareLoad_loads settled ready inList unloaded notFailed notRetried unmapped)

/-- What a machine says of the pages of a space is what the tables in RAM say. -/
theorem Reachable.pages_eq (reachable : Reachable session)
    (inList : space ∈ session.machine.spaces) {pages : VirtPage → Option Frame}
    {tables : Nat → Option Frame} (charted : session.machine.Charted space.id pages tables)
    (page : VirtPage) : pages page = session.machine.memory.ram.page? space.directory page := by
  have said := charted.lookup page.base session.machine.context
  have inRam := run_lookup_of_atRest reachable.atRest inList page.base
  rw [Page.page_base] at said
  rw [Ram.lookup_eq_page?, Page.page_base] at inRam
  have same := congrArg Outcome.result (said.symm.trans inRam)
  exact Result.value.inj same

/-- In a small run a space is loaded, and in another frames run out. -/
theorem loads_of_reachable_loadable :
    (∃ session space coremap pages tables outcome, Reachable session ∧
      space ∈ session.machine.spaces ∧ space.loaded = false ∧ space.id ∉ session.failed ∧
      (sourced fun source => prepareLoad source space.id).run
        { session.machine with context := ⟨1, false⟩ } = outcome ∧
      outcome.result = .value () ∧
      Loads { session.machine with context := ⟨1, false⟩ } coremap space pages tables outcome) ∧
    ∃ space coremap pages tables outcome, Reachable exhausted ∧
      space ∈ exhausted.machine.spaces ∧ space.loaded = false ∧ space.id ∉ exhausted.failed ∧
      (sourced fun source => prepareLoad source space.id).run
        { exhausted.machine with context := ⟨1, false⟩ } = outcome ∧
      outcome.result = .error (.space (.outOfMemory ⟨18⟩)) ∧
      Loads { exhausted.machine with context := ⟨1, false⟩ } coremap space pages tables
        outcome := by
  constructor
  · obtain ⟨session, space, reachable, loadable⟩ := exists_loadable
    have inList := loadable.mem_spaces
    have notFailed : space.id ∉ session.failed := loadable.notFailed ▸ List.not_mem_nil
    obtain ⟨coremap, pages, tables, _, charted, loads⟩ :=
      loads_of_reachable reachable inList loadable.unloaded notFailed
    obtain ⟨after, shown, run, noWrap⟩ := loadable.exists_prepareLoad reachable (by decide)
    refine ⟨session, space, coremap, pages, tables, _, reachable, inList, loadable.unloaded,
      notFailed, run, rfl, loads ?_ ⟨1, false⟩ _ run noWrap⟩
    intro page _
    rw [reachable.pages_eq inList charted, loadable.unmapped]
  · have reachable := reachable_exhausted.1
    obtain ⟨space, blank, isFirst⟩ := exists_blank_exhausted
    have inList := blank.mem_spaces
    have notFailed : space.id ∉ exhausted.failed := by
      rw [blank.notFailed]
      exact List.not_mem_nil
    have unnamed := blank.unnamed reachable
    obtain ⟨coremap, pages, tables, _, charted, loads⟩ :=
      loads_of_reachable reachable inList blank.unloaded notFailed
    refine ⟨space, coremap, pages, tables, _, reachable, inList, blank.unloaded, notFailed, rfl, ?_,
      loads ?_ ⟨1, false⟩ _ rfl ?_⟩
    · rw [isFirst]
      decide +kernel
    · intro page _
      rw [reachable.pages_eq inList charted, Ram.page?_eq_none_of_table? (unnamed _)]
    · rw [isFirst]
      exact noWrap_of_all (by decide +kernel) (by decide +kernel)

end Session

end PagedMemory
