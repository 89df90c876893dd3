import PagedMemory.Proofs.Machine.FirstSpace

/-!
# The coremap and the page tables agree

What the coremap records for the owner of a space, and what the space's record
and its page tables in RAM say that it consists of, are two accounts of the same
frames. In every state of a run they agree, frame by frame and block by block.
-/

namespace PagedMemory

/-- The coremap records for each space what the space consists of: its directory,
the tables that its directory names, the blocks of its segments, and the frames
of its other pages. -/
structure Consistent (frames : Array Descriptor) (ram : Ram) (spaces : List AddressSpace) :
    Prop where
  /-- A frame is in use for a space exactly if one of the space's slots names it. -/
  held_iff : ∀ space ∈ spaces, ∀ i,
    i ∈ heldFrames frames space.owner ↔ ∃ slot e, space.extent? ram slot = some e ∧ e.Covers i
  /-- No two slots of a space name the same frame. -/
  disjoint : ∀ space ∈ spaces, ∀ slot slot' e e', space.extent? ram slot = some e →
    space.extent? ram slot' = some e' → ∀ i, e.Covers i → e'.Covers i → slot = slot'
  /-- What a slot names is a block: one frame, or all the pages of a segment. -/
  block : ∀ space ∈ spaces, ∀ slot e, space.extent? ram slot = some e →
    ∃ id, Live frames (e.block space.owner id)
  /-- The segments that have a slot are those of the space. -/
  segments : ∀ space ∈ spaces, ∀ g,
    g ∈ space.segments.toList ↔ ∃ name, space.segment? name = some g
  /-- A table is named once in all directories. -/
  tables : ∀ space ∈ spaces, ∀ space' ∈ spaces, ∀ i j table,
    ram.table? space.directory i = some table → ram.table? space'.directory j = some table →
      space = space' ∧ i = j
  /-- A frame is mapped at most once in all tables. -/
  pages : ∀ space ∈ spaces, ∀ space' ∈ spaces, ∀ page page' frame,
    ram.page? space.directory page = some frame →
      ram.page? space'.directory page' = some frame → space = space' ∧ page = page'

variable {mem : Memory (Coremap NoEviction)} {spaces : List AddressSpace} {held : List VirtAddr}
  {failed retried : List SpaceId} {space space' : AddressSpace} {slot slot' : Option Slot}
  {frame : Frame}

/-- A frame belongs to one space. -/
theorem Settled.space_eq (settled : Settled mem spaces held failed retried)
    (inList : space ∈ spaces) (inList' : space' ∈ spaces)
    (uses : space.Uses none mem.ram slot frame)
    (uses' : space'.Uses none mem.ram slot' frame) : space = space' := by
  have sameOwner := (settled.holds space inList).owner_eq (settled.holds space' inList') uses uses'
  exact settled.distinct space inList space' inList' (Owner.space.inj sameOwner)

/-- Spaces that know of all their blocks agree with the coremap. -/
theorem Settled.consistent (settled : Settled mem spaces held failed []) :
    Consistent mem.descriptors mem.ram spaces where
  held_iff space inList i := by
    have accounted : Accounted True mem.descriptors space.owner
        (withSpare (space.extent? mem.ram) none) :=
      (settled.holds space inList).accounted.weaken fun _ => List.not_mem_nil
    rw [accounted.mem_heldFrames_iff settled.ready.coremap.sound.tiled]
    constructor
    · rintro ⟨_ | slot, e, named, covers⟩
      · cases named
      · exact ⟨slot, e, named, covers⟩
    · rintro ⟨slot, e, named, covers⟩
      exact ⟨some slot, e, named, covers⟩
  disjoint space inList slot slot' e e' named named' i covers covers' := by
    have accounted := (settled.holds space inList).accounted
    have named : withSpare (space.extent? mem.ram) none (some slot) = some e := named
    have named' : withSpare (space.extent? mem.ram) none (some slot') = some e' := named'
    exact Option.some.inj (accounted.slot_eq named named' covers covers')
  block space inList slot e named := (settled.holds space inList).accounted.live (some slot) e named
  segments space inList g := (settled.holds space inList).shaped.mem_segments_iff
  tables space inList space' inList' i j table named named' := by
    obtain rfl := settled.space_eq inList inList' (uses_table named) (uses_table named')
    exact ⟨rfl, (settled.holds space inList).table_injective named named'⟩
  pages space inList space' inList' page page' frame mapped mapped' := by
    obtain ⟨slot, uses, _⟩ := exists_uses_page (settled.holds space inList).shaped mapped
    obtain ⟨slot', uses', _⟩ := exists_uses_page (settled.holds space' inList').shaped mapped'
    obtain rfl := settled.space_eq inList inList' uses uses'
    exact ⟨rfl, (settled.holds space inList).page_injective mapped mapped'⟩

namespace Session

variable {session : Session}

/-- In every state of a run in which no space was loaded again after its loading had
failed, the coremap and the page tables of all spaces agree. No identity of a block or of a
space has come round again in a run. -/
theorem tables_agree_of_reachable (reachable : Reachable session) (once : session.retried = []) :
    ∃ coremap, session.machine.memory.frames.coremap = some coremap ∧
      Consistent coremap.frames session.machine.memory.ram session.machine.spaces := by
  obtain ⟨stealer, machine, isMachine, settled⟩ := reachable.atRest
  rw [once] at settled
  rw [isMachine]
  exact ⟨machine.memory.frames, rfl, settled.consistent⟩

/-- In a small run a space is loaded and one more of its pages is backed. So it has a table, the
blocks of a region and of the stack, and a page that is in neither. -/
theorem tables_agree_of_reachable_laden :
    ∃ session space page, Reachable session ∧ session.retried = [] ∧
      session.machine.spaces = [space] ∧
      (∀ slot ∈ [Slot.table (.ofPage page), .segment (.region 0), .segment .stack, .page page],
        (space.extent? session.machine.memory.ram slot).isSome = true) ∧
      ∃ coremap, session.machine.memory.frames.coremap = some coremap ∧
        Consistent coremap.frames session.machine.memory.ram session.machine.spaces := by
  obtain ⟨before, space, reachableBefore, laden, two, outside⟩ := exists_laden_apart
  obtain ⟨session, frame, step, alone, notFailed, mapped, isPage⟩ :=
    laden.exists_backed reachableBefore outside (by decide) (by decide)
  have reachable := reachableBefore.step step
  have once := reachable.retried_eq_nil notFailed
  obtain ⟨table, isTable⟩ := Option.ne_none_iff_exists'.mp
    (mt Ram.page?_eq_none_of_table? (mapped ▸ Option.some_ne_none frame))
  have loaded : space.Loaded session.machine.memory.ram := by
    obtain ⟨stealer, machine, isMachine, settled, inList, _⟩ :=
      reachable.exists_machine alone notFailed
    rw [isMachine]
    exact (settled.holds space inList).loaded laden.isLoaded
  have first : space.regions[0]? = some space.regions[0] := List.getElem?_eq_getElem (by omega)
  obtain ⟨block, _, isRegion⟩ :=
    exists_segment?_region first (loaded.regions _ (List.mem_of_getElem? first))
  obtain ⟨stack, isStack⟩ := Option.isSome_iff_exists.mp loaded.stack
  have isStackSegment : space.segment? .stack = some ⟨stackBase, stack, Layout.stackPages⟩ := by
    rw [AddressSpace.segment?, isStack, Option.map_some]
  refine ⟨session, space, (Address.ofNat 0 : VirtAddr).page, reachable, once, alone, ?_,
    tables_agree_of_reachable reachable once⟩
  simp [AddressSpace.extent?_table, isTable, AddressSpace.extent?_segment, isRegion,
    isStackSegment, isPage]

end Session

end PagedMemory
