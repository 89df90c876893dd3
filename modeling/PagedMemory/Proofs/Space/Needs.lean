import PagedMemory.Proofs.Coremap.Counting
import PagedMemory.Proofs.Space.Copying

/-!
# How many frames a space needs

Work for a space passes frames only between what is free and what the space has. So what it
needs can be counted: a page needs a frame, and another for a table that is missing; a copy of
a space that is not loaded needs as many as that space has, and is given up if fewer are free.
-/

namespace PagedMemory

variable {mem mem' : Memory (Coremap NoEviction)} {space : AddressSpace} {left left' : Nat}
  {spare : Option Extent} {page : VirtPage} {frame : Frame} {complete : Prop}

/-- Work for an owner passes frames only between what is free and what the owner has. -/
theorem Memory.Confined.card_free_add_countHeldBy {owner : Owner}
    (confined : mem.Confined owner mem') (ready : mem.Ready left) (ready' : mem'.Ready left') :
    (freeFrames mem'.descriptors).card + Coremap.countHeldBy mem'.descriptors owner =
      (freeFrames mem.descriptors).card + Coremap.countHeldBy mem.descriptors owner := by
  obtain ⟨sameSize, tiled'⟩ := confined.tiled ready ready'
  exact ready.coremap.sound.tiled.card_free_add_countHeldBy tiled' sameSize confined.live_iff

/-- An owner without blocks has no frames. -/
theorem countHeldBy_eq_zero {owner : Owner} (ready : mem.Ready left)
    (nothing : ∀ b, Live mem.descriptors b → b.owner ≠ owner) :
    Coremap.countHeldBy mem.descriptors owner = 0 := by
  rw [countHeldBy_eq_card, Finset.card_eq_zero, Finset.eq_empty_iff_forall_notMem]
  intro i isHeld
  obtain ⟨b, live, mine, _⟩ := (ready.coremap.sound.tiled.mem_heldFrames_iff owner i).mp isHeld
  exact nothing b live mine

/-- A space has a frame for its directory. -/
theorem Holds.countHeldBy_pos (holds : Holds complete space spare mem) (ready : mem.Ready left) :
    0 < Coremap.countHeldBy mem.descriptors space.owner := by
  rw [countHeldBy_eq_card]
  refine Finset.card_pos.mpr ⟨space.directory.number, ?_⟩
  rw [ready.coremap.sound.tiled.mem_heldFrames_iff]
  exact holds.exists_live (uses_directory mem.ram)

/-- A space that has no frame but its directory has no tables. -/
theorem Holds.unnamed_of_countHeldBy (holds : Holds complete space none mem)
    (ready : mem.Ready left)
    (alone : Coremap.countHeldBy mem.descriptors space.owner = 1) (i : DirectoryIndex) :
    mem.ram.table? space.directory i = none := by
  rcases named : mem.ram.table? space.directory i with _ | table
  · rfl
  rw [countHeldBy_eq_card, Finset.card_eq_one] at alone
  obtain ⟨only, isOnly⟩ := alone
  have isHeld {slot : Option Slot} {frame : Frame} (uses : space.Uses none mem.ram slot frame) :
      frame.number = only := by
    rw [← Finset.mem_singleton, ← isOnly, ready.coremap.sound.tiled.mem_heldFrames_iff]
    exact holds.exists_live uses
  have same := (isHeld (uses_table named)).trans (isHeld (uses_directory mem.ram)).symm
  exact absurd (Page.ext same) (holds.table_ne_directory named)

/-- A space whose slots name what they named, and some slots besides, has the frames of
those slots more. -/
theorem Holds.countHeldBy_eq_add {space' : AddressSpace} (holds : Holds complete space none mem)
    (holds' : Holds complete space' none mem') (isComplete : complete) (ready : mem.Ready left)
    (ready' : mem'.Ready left')
    (kept : ∀ slot e, space.extent? mem.ram slot = some e →
      space'.extent? mem'.ram slot = some e)
    (gained : Finset Slot) (empty : ∀ slot ∈ gained, space.extent? mem.ram slot = none)
    (all : ∀ slot, space.extent? mem.ram slot = none → space'.extent? mem'.ram slot ≠ none →
      slot ∈ gained) :
    Coremap.countHeldBy mem'.descriptors space'.owner =
      Coremap.countHeldBy mem.descriptors space.owner +
        ∑ slot ∈ gained, (space'.extent? mem'.ram slot).elim 0 Extent.size := by
  have accounted := (holds.weaken fun _ : True => isComplete).accounted
  have accounted' := (holds'.weaken fun _ : True => isComplete).accounted
  have sum : ∑ slot ∈ gained.map .some,
      (withSpare (space'.extent? mem'.ram) none slot).elim 0 Extent.size =
        ∑ slot ∈ gained, (space'.extent? mem'.ram slot).elim 0 Extent.size :=
    Finset.sum_map _ _ _
  rw [← sum]
  refine accounted.countHeldBy_eq_add ready.coremap.sound.tiled accounted'
    ready'.coremap.sound.tiled ?_ _ ?_ ?_
  · rintro (_ | slot) e named
    · cases named
    · exact kept slot e named
  · intro slot isGained
    obtain ⟨slot, isNew, rfl⟩ := Finset.mem_map.mp isGained
    exact empty slot isNew
  · rintro (_ | slot) unnamed named
    · exact absurd rfl named
    · exact Finset.mem_map_of_mem _ (all slot unnamed named)

/-! ## Tables that are made -/

/-- A table that was missing takes a frame. -/
theorem countHeldBy_of_table {i : DirectoryIndex} {table : Frame}
    (unnamed : mem.ram.table? space.directory i = none)
    (tables : mem'.ram.table? space.directory =
      Function.update (mem.ram.table? space.directory) i (some table))
    (pages : mem'.ram.page? space.directory = mem.ram.page? space.directory)
    (ready : mem.Ready left) (ready' : mem'.Ready left') (holds : Holds complete space none mem)
    (holds' : Holds complete space none mem') (isComplete : complete) :
    Coremap.countHeldBy mem'.descriptors space.owner =
      Coremap.countHeldBy mem.descriptors space.owner + 1 := by
  have accounted := (holds.weaken fun _ : True => isComplete).accounted
  have accounted' := (holds'.weaken fun _ : True => isComplete).accounted
  rw [AddressSpace.extent?_of_table tables pages, ← update_withSpare_some] at accounted'
  have empty : withSpare (space.extent? mem.ram) none (some (.table i)) = none := by
    rw [withSpare_some, AddressSpace.extent?_table, unnamed, Option.map_none]
  exact accounted.countHeldBy_update ready.coremap.sound.tiled accounted'
    ready'.coremap.sound.tiled empty

/-! ## Pages that are backed -/

/-- How many frames it takes to back a page: one for the page, and one for a table that is
missing. -/
def AddressSpace.pageNeeds (space : AddressSpace) (ram : Ram) (page : VirtPage) : Nat :=
  if ram.table? space.directory (.ofPage page) = none then 2 else 1

theorem AddressSpace.pageNeeds_le (space : AddressSpace) (ram : Ram) (page : VirtPage) :
    space.pageNeeds ram page ≤ 2 := by
  unfold pageNeeds
  split <;> decide

/-- The slots that backing a page fills: its own, and that of a table that is missing. -/
def AddressSpace.pageSlots (space : AddressSpace) (ram : Ram) (page : VirtPage) : Finset Slot :=
  if ram.table? space.directory (.ofPage page) = none then {.page page, .table (.ofPage page)}
  else {.page page}

theorem AddressSpace.mem_pageSlots_iff {ram : Ram} {slot : Slot} :
    slot ∈ space.pageSlots ram page ↔ slot = .page page ∨
      slot = .table (.ofPage page) ∧ ram.table? space.directory (.ofPage page) = none := by
  unfold pageSlots
  split
  · next unnamed => rw [Finset.mem_insert, Finset.mem_singleton, and_iff_left unnamed]
  · next named => rw [Finset.mem_singleton, or_iff_left fun ⟨_, unnamed⟩ => named unnamed]

theorem AddressSpace.card_pageSlots (space : AddressSpace) (ram : Ram) (page : VirtPage) :
    (space.pageSlots ram page).card = space.pageNeeds ram page := by
  unfold pageSlots pageNeeds
  split
  · exact Finset.card_pair nofun
  · exact Finset.card_singleton _

/-- A page is not backed if no frame is free, or only one and its table is missing. That is to
say, if fewer frames are free than it takes. -/
theorem card_free_lt_pageNeeds (lacking : Coremap.Starved mem.descriptors 1 ∨
      mem.ram.table? space.directory (.ofPage page) = none ∧
        ∃ last, ∀ i : Nat, mem.descriptors[i]? = some .free → i = last) :
    (freeFrames mem.descriptors).card < space.pageNeeds mem.ram page := by
  unfold AddressSpace.pageNeeds
  rcases lacking with starved | ⟨unnamed, last, isLast⟩
  · rw [starved.freeFrames_eq_empty, Finset.card_empty]
    split <;> decide
  · rw [if_pos unnamed, Nat.lt_succ_iff, Finset.card_le_one_iff_subset_singleton]
    refine ⟨last, fun i isFree => Finset.mem_singleton.mpr ?_⟩
    exact isLast i (mem_freeFrames_iff.mp isFree)

namespace Memory.Materialized

/-- A frame that was taken for a page lies in no segment's block. -/
theorem backs_eq_false (made : Materialized space page frame mem mem')
    (holds : Holds complete space none mem) : space.segments.backs frame = false := by
  rw [Bool.eq_false_iff]
  intro backs
  obtain ⟨name, g, found, backed⟩ := holds.shaped.backs_iff.mp backs
  obtain ⟨b, live, _, covers⟩ := holds.exists_live (uses_segment found backed)
  exact made.fresh b live covers

/-- Once a page was backed, all other slots name what they named, but for that of a table that
was missing. -/
theorem extent?_of_ne (made : Materialized space page frame mem mem') {slot : Slot}
    (other : slot ≠ .page page) :
    space.extent? mem'.ram slot = space.extent? mem.ram slot ∨
      slot = .table (.ofPage page) ∧ space.extent? mem.ram slot = none ∧
        ∃ table, space.extent? mem'.ram slot = some (.ofFrame table) := by
  obtain ⟨extended, _, pages, table, entered⟩ := made.mapped
  cases slot with
  | directory => exact .inl rfl
  | segment name => exact .inl rfl
  | page another =>
    have different : another ≠ page := fun same => other (congrArg Slot.page same)
    refine .inl ?_
    rw [AddressSpace.extent?_page, AddressSpace.extent?_page, pages,
      Function.update_of_ne different]
  | table j =>
    rw [AddressSpace.extent?_table, AddressSpace.extent?_table]
    by_cases same : j = .ofPage page
    · subst same
      rw [entered, Function.update_self]
      rcases named : mem.ram.table? space.directory (.ofPage page) with _ | old
      · exact .inr ⟨rfl, rfl, table, rfl⟩
      · have stays := extended.tables _ old named
        rw [entered, Function.update_self] at stays
        exact .inl (congrArg (Option.map Extent.ofFrame) stays)
    · rw [entered, Function.update_of_ne same]
      exact .inl rfl

/-- The page has a slot of its own. -/
theorem extent?_page (made : Materialized space page frame mem mem')
    (holds : Holds complete space none mem) :
    space.extent? mem'.ram (.page page) = some (.ofFrame frame) := by
  rw [AddressSpace.extent?_page, made.mapped.pages, Function.update_self, Option.bind_some,
    made.backs_eq_false holds, if_neg Bool.false_ne_true]

/-- The slots that are filled were empty, and have a frame each. -/
theorem extent?_of_mem_pageSlots (made : Materialized space page frame mem mem')
    (holds : Holds complete space none mem) {slot : Slot}
    (isFilled : slot ∈ space.pageSlots mem.ram page) :
    space.extent? mem.ram slot = none ∧
      ∃ own, space.extent? mem'.ram slot = some (.ofFrame own) := by
  rcases AddressSpace.mem_pageSlots_iff.mp isFilled with rfl | ⟨rfl, unnamed⟩
  · refine ⟨?_, frame, made.extent?_page holds⟩
    rw [AddressSpace.extent?_page, made.mapped.unmapped, Option.bind_none]
  · obtain ⟨table, entered⟩ := made.mapped.tables
    refine ⟨?_, table, ?_⟩
    · rw [AddressSpace.extent?_table, unnamed, Option.map_none]
    · rw [AddressSpace.extent?_table, entered, Function.update_self, Option.map_some]

/-- Backing a page takes as many frames as it needs. -/
theorem countHeldBy_eq (made : Materialized space page frame mem mem') (ready : mem.Ready left)
    (ready' : mem'.Ready left') (holds : Holds complete space none mem)
    (holds' : Holds complete space none mem') (isComplete : complete) :
    Coremap.countHeldBy mem'.descriptors space.owner =
      Coremap.countHeldBy mem.descriptors space.owner + space.pageNeeds mem.ram page := by
  rw [holds.countHeldBy_eq_add holds' isComplete ready ready' ?kept (space.pageSlots mem.ram page)
    (fun slot isFilled => (made.extent?_of_mem_pageSlots holds isFilled).1) ?all,
    ← AddressSpace.card_pageSlots, Finset.card_eq_sum_ones]
  · refine congrArg _ (Finset.sum_congr rfl fun slot isFilled => ?_)
    obtain ⟨_, own, named⟩ := made.extent?_of_mem_pageSlots holds isFilled
    rw [named]
    rfl
  case kept =>
    intro slot e named
    by_cases same : slot = .page page
    · subst same
      have isFilled : Slot.page page ∈ space.pageSlots mem.ram page :=
        AddressSpace.mem_pageSlots_iff.mpr (.inl rfl)
      cases (made.extent?_of_mem_pageSlots holds isFilled).1.symm.trans named
    · rcases made.extent?_of_ne same with still | ⟨_, empty, _⟩
      · exact still.trans named
      · cases empty.symm.trans named
  case all =>
    intro slot empty named
    apply AddressSpace.mem_pageSlots_iff.mpr
    by_cases same : slot = .page page
    · exact .inl same
    · rcases made.extent?_of_ne same with still | ⟨rfl, _⟩
      · exact absurd (still.trans empty) named
      · rw [AddressSpace.extent?_table, Option.map_eq_none_iff] at empty
        exact .inr ⟨rfl, empty⟩

end Memory.Materialized

/-! ## Copies -/

variable {parent child : AddressSpace} {start : Memory (Coremap NoEviction)}

/-- A page that is mapped has a slot of its own in a space without segments. -/
theorem AddressSpace.Unbacked.extent?_page (unbacked : space.Unbacked) (shaped : space.Shaped)
    (ram : Ram) (page : VirtPage) :
    space.extent? ram (.page page) = (ram.page? space.directory page).map Extent.ofFrame := by
  rw [AddressSpace.extent?_page]
  rcases ram.page? space.directory page with _ | frame
  · rfl
  · rw [Option.bind_some, unbacked.backs_eq_false shaped, if_neg Bool.false_ne_true,
      Option.map_some]

namespace Stuck

/-- What a child that is stuck names its parent names as well. -/
theorem exists_extent (stuck : Stuck parent child start mem) (shaped : parent.Shaped)
    (unbacked : parent.Unbacked) (unbacked' : child.Unbacked) {slot : Slot} {e : Extent}
    (named : child.extent? mem.ram slot = some e) :
    ∃ e', parent.extent? start.ram slot = some e' ∧ e'.size = e.size := by
  cases slot with
  | directory =>
    rw [AddressSpace.extent?_directory, Option.some.injEq] at named
    exact ⟨_, AddressSpace.extent?_directory parent start.ram, named ▸ rfl⟩
  | table i =>
    rw [AddressSpace.extent?_table, Option.map_eq_some_iff] at named
    obtain ⟨table, isTable, rfl⟩ := named
    obtain ⟨original, isOriginal⟩ := Option.ne_none_iff_exists'.mp
      (stuck.copied.tablesOnly i (isTable ▸ Option.some_ne_none table))
    exact ⟨.ofFrame original, by rw [AddressSpace.extent?_table, isOriginal, Option.map_some], rfl⟩
  | segment name =>
    rw [AddressSpace.extent?_segment, unbacked'.segment? name] at named
    cases named
  | page page =>
    rw [unbacked'.extent?_page stuck.copied.holds.shaped, Option.map_eq_some_iff] at named
    obtain ⟨frame, mapped, rfl⟩ := named
    obtain ⟨original, isOriginal⟩ := Option.ne_none_iff_exists'.mp
      (stuck.copied.pagesOnly page (mapped ▸ Option.some_ne_none frame))
    exact ⟨.ofFrame original, by rw [unbacked.extent?_page shaped, isOriginal, Option.map_some],
      rfl⟩

/-- There is a slot that the parent names and a child that is stuck does not. -/
theorem exists_slot (stuck : Stuck parent child start mem) (shaped : parent.Shaped)
    (unbacked : parent.Unbacked) (unbacked' : child.Unbacked) :
    ∃ slot e, child.extent? mem.ram slot = none ∧ parent.extent? start.ram slot = some e := by
  rcases stuck.lacking with ⟨i, named, unnamed⟩ | ⟨page, mapped, unmapped⟩
  · obtain ⟨table, isTable⟩ := Option.ne_none_iff_exists'.mp named
    refine ⟨.table i, .ofFrame table, ?_, ?_⟩
    · rw [AddressSpace.extent?_table, unnamed, Option.map_none]
    · rw [AddressSpace.extent?_table, isTable, Option.map_some]
  · obtain ⟨frame, isFrame⟩ := Option.ne_none_iff_exists'.mp mapped
    refine ⟨.page page, .ofFrame frame, ?_, ?_⟩
    · rw [unbacked'.extent?_page stuck.copied.holds.shaped, unmapped, Option.map_none]
    · rw [unbacked.extent?_page shaped, isFrame, Option.map_some]

/-- A child that is stuck has fewer frames than its parent. -/
theorem countHeldBy_lt (stuck : Stuck parent child start mem) (ready : mem.Ready left)
    (startReady : start.Ready left') (parentHolds : Holds True parent none start)
    (unbacked : parent.Unbacked) (unbacked' : child.Unbacked) :
    Coremap.countHeldBy mem.descriptors child.owner <
      Coremap.countHeldBy start.descriptors parent.owner := by
  obtain ⟨slot, e, missing, named⟩ := stuck.exists_slot parentHolds.shaped unbacked unbacked'
  have missing' : withSpare (child.extent? mem.ram) none (some slot) = none := missing
  have named' : withSpare (parent.extent? start.ram) none (some slot) = some e := named
  refine stuck.copied.holds.accounted.countHeldBy_lt ready.coremap.sound.tiled
    parentHolds.accounted startReady.coremap.sound.tiled ?_ missing' named'
  rintro (_ | slot) e isSlot
  · cases isSlot
  · exact stuck.exists_extent parentHolds.shaped unbacked unbacked' isSlot

end Stuck

/-- A copy that was given up had fewer free frames than the space has that was to be copied. -/
theorem CopyStuck.card_free_lt (stuck : CopyStuck parent mem) (ready : mem.Ready left)
    (parentHolds : Holds True parent none mem) (unbacked : parent.Unbacked)
    (nothing : ∀ b, Live mem.descriptors b → b.owner ≠ .space mem.nextSpace) :
    (freeFrames mem.descriptors).card < Coremap.countHeldBy mem.descriptors parent.owner := by
  rcases stuck with starved | ⟨child, mem', left', isNext, unbacked', ready', stuck⟩
  · rw [starved.freeFrames_eq_empty, Finset.card_empty]
    exact parentHolds.countHeldBy_pos ready
  · have fewer := stuck.countHeldBy_lt ready' ready.named (parentHolds.renamed _) unbacked unbacked'
    have sum := stuck.copied.confined.card_free_add_countHeldBy ready.named ready'
    have none : Coremap.countHeldBy mem.named.descriptors child.owner = 0 :=
      countHeldBy_eq_zero ready.named (isNext ▸ nothing)
    rw [stuck.starved.freeFrames_eq_empty, Finset.card_empty, none] at sum
    have same : mem.named.descriptors = mem.descriptors := rfl
    rw [same] at sum fewer
    omega

/-- A copy has its frames from those that were free. -/
theorem CopyOf.countHeldBy_le (isCopy : CopyOf parent child mem mem') (ready : mem.Ready left)
    (ready' : mem'.Ready left')
    (nothing : ∀ b, Live mem.descriptors b → b.owner ≠ .space mem.nextSpace) :
    Coremap.countHeldBy mem'.descriptors child.owner ≤ (freeFrames mem.descriptors).card := by
  have sum := isCopy.copied.confined.card_free_add_countHeldBy ready.named ready'
  have isNext : child.owner = .space mem.nextSpace := congrArg Owner.space isCopy.id
  have none : Coremap.countHeldBy mem.named.descriptors child.owner = 0 :=
    countHeldBy_eq_zero ready.named (isNext ▸ nothing)
  have same : mem.named.descriptors = mem.descriptors := rfl
  rw [none, same] at sum
  omega

end PagedMemory
