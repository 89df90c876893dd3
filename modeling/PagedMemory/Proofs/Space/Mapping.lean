import PagedMemory.Proofs.Space.Growth

/-!
# Mapping pages

A page is mapped to a frame that was taken for it, or to the frame at its place
in the block of a segment. In both cases the tables grow and exactly one page is
new. A run of pages is mapped one by one; a single page is backed by a frame
that is given back if it cannot be mapped; a new space begins with a directory
that names nothing.
-/

namespace PagedMemory

variable {mem mem' : Memory (Coremap NoEviction)} {left : Nat} {context : Option Context}
  {frame table : Frame} {b : Block} {space : AddressSpace} {spare : Option Extent}
  {page : VirtPage} {address : VirtAddr} {complete : Prop}

/-! ## Pages -/

namespace Memory

/-- What one memory has become of another while a page was mapped to a frame. -/
structure Mapped (space : AddressSpace) (page : VirtPage) (frame : Frame)
    (mem mem' : Memory (Coremap NoEviction)) : Prop where
  extended : Extended space.owner space.directory (fun _ => False) mem mem'
  unmapped : mem.ram.page? space.directory page = none
  pages : mem'.ram.page? space.directory =
    Function.update (mem.ram.page? space.directory) page (some frame)
  tables : ∃ table, mem'.ram.table? space.directory =
    Function.update (mem.ram.table? space.directory) (.ofPage page) (some table)

theorem views_of_mapping (frame : Frame) (ready : mem.Ready left)
    (holds : Holds complete space spare mem)
    (named : mem.ram.table? space.directory (.ofPage page) = some table) :
    (mem.ram.setTableEntry table (.ofPage page) (.mapping frame)).table? space.directory =
        mem.ram.table? space.directory ∧
      (mem.ram.setTableEntry table (.ofPage page) (.mapping frame)).page? space.directory =
        Function.update (mem.ram.page? space.directory) page (some frame) := by
  obtain ⟨d, live, _, covers⟩ := holds.exists_live (uses_table named)
  have differ := Ram.differOn_setTableEntry mem.ram table (.ofPage page) (.mapping frame)
  have different := holds.table_ne_directory named
  constructor
  · exact funext (Ram.table?_eq_of_sameFrame (differ.same _ (Ne.symm different)))
  · apply Ram.page?_setTableEntry (ready.within live covers) named different
    exact fun j namedToo => holds.table_injective namedToo named

theorem extended_of_mapping (holds : Holds complete space spare mem) {i : DirectoryIndex}
    (named : mem.ram.table? space.directory i = some table)
    (unmapped : mem.ram.page? space.directory page = none) {ram : Ram}
    (differ : Ram.DifferOn (· = table) mem.ram ram)
    (tables : ram.table? space.directory = mem.ram.table? space.directory)
    (pages : ram.page? space.directory =
      Function.update (mem.ram.page? space.directory) page (some frame)) :
    Extended space.owner space.directory (fun _ => False) mem { mem with ram := ram } := by
  obtain ⟨d, live, mine, covers⟩ := holds.exists_live (uses_table named)
  constructor
  case confined => exact .of_write live mine covers differ
  case live => exact fun _ live => live
  case tables =>
    intro j other namedOther
    rw [tables, namedOther]
  case fresh =>
    intro j other namedOther
    rw [tables] at namedOther
    exact .inl namedOther
  case pages =>
    intro other otherFrame mapped
    rw [pages]
    exact update_eq_some_of_vacant unmapped mapped
  case same =>
    intro _ _ other _ _ notTable _
    apply differ.same
    rintro rfl
    exact notTable i named

end Memory

/-- What is not mapped was not mapped before if what is mapped stays so. -/
theorem absent_of_kept {place place' : VirtPage → Option Frame}
    (kept : ∀ page frame, place page = some frame → place' page = some frame)
    (absent : place' page = none) : place page = none := by
  rcases mapped : place page with _ | frame
  · rfl
  · cases absent.symm.trans (kept page frame mapped)

/-- What is mapped stays mapped when another page is. -/
theorem present_of_update {place place' : VirtPage → Option Frame} {other : VirtPage}
    (unmapped : place page = none) (pages : place' = Function.update place page (some frame))
    (present : place other ≠ none) : place' other ≠ none := by
  obtain ⟨frame, mapped⟩ := Option.ne_none_iff_exists'.mp present
  rw [pages, update_eq_some_of_vacant unmapped mapped]
  exact Option.some_ne_none frame

namespace Holds

/-- What is loaded stays loaded when a page is mapped. -/
theorem loaded_of_pages (holds : Holds complete space spare mem) {ram : Ram}
    (unmapped : mem.ram.page? space.directory page = none)
    (pages : ram.page? space.directory =
      Function.update (mem.ram.page? space.directory) page (some frame))
    (isLoaded : space.loaded = true) : space.Loaded ram := by
  have loaded := holds.loaded isLoaded
  refine ⟨loaded.regions, loaded.stack, ?_⟩
  intro name g found k small
  rw [pages]
  exact update_eq_some_of_vacant unmapped (loaded.mapped name g found k small)

/-- A spare frame becomes a page. -/
theorem map_spare (holds : Holds complete space (some (.ofFrame frame)) mem)
    (descriptors : mem'.descriptors = mem.descriptors)
    (tables : mem'.ram.table? space.directory = mem.ram.table? space.directory)
    (unmapped : mem.ram.page? space.directory page = none)
    (pages : mem'.ram.page? space.directory =
      Function.update (mem.ram.page? space.directory) page (some frame))
    (admitted : ∀ frame, mem.ram.Admitted frame → mem'.ram.Admitted frame) :
    Holds complete space none mem' := by
  have notSegment (name : SegmentName) (g : Segment) (found : space.segment? name = some g) :
      g.backs frame ≠ true := by
    intro backs
    have same := holds.slot_eq (uses_segment found backs) (uses_spare mem.ram)
    cases same
  have single : space.segments.backs frame = false := by
    rw [Bool.eq_false_iff]
    intro backs
    obtain ⟨name, g, found, backed⟩ := holds.shaped.backs_iff.mp backs
    exact notSegment name g found backed
  have old {name : SegmentName} {g : Segment} {other : VirtPage} {otherFrame : Frame}
      (found : space.segment? name = some g)
      (mapped : mem'.ram.page? space.directory other = some otherFrame)
      (backs : g.backs otherFrame = true) :
      mem.ram.page? space.directory other = some otherFrame := by
    rw [pages] at mapped
    rcases update_eq_some_iff.mp mapped with ⟨_, ⟨⟩⟩ | ⟨_, old⟩
    · exact absurd backs (notSegment name g found)
    · exact old
  constructor
  case shaped => exact holds.shaped
  case accounted =>
    have empty : withSpare (space.extent? mem.ram) (some (.ofFrame frame))
        (some (.page page)) = none := by
      rw [withSpare_some, AddressSpace.extent?_page, unmapped, Option.bind_none]
    have moved := holds.accounted.move (withSpare_none _ _) fun _ => empty
    rw [update_withSpare_none, update_withSpare_some] at moved
    rw [descriptors, AddressSpace.extent?_of_page tables pages single]
    exact moved
  case linear =>
    intro name g found other otherFrame mapped backs
    exact holds.linear name g found other otherFrame (old found mapped backs) backs
  case entered =>
    intro name g found other otherFrame mapped backs
    exact present_of_update unmapped pages
      (holds.entered name g found other otherFrame (old found mapped backs) backs)
  case loaded => exact holds.loaded_of_pages unmapped pages
  case directoryAdmitted => exact admitted _ holds.directoryAdmitted
  case tablesAdmitted =>
    rw [tables]
    exact fun i table named => admitted table (holds.tablesAdmitted i table named)

/-- A frame of a segment becomes the page at its place, the first one first. -/
theorem map_backed (ready : mem.Ready left) (holds : Holds complete space spare mem)
    {name : SegmentName} {g : Segment} (found : space.segment? name = some g) {k : Nat}
    (small : k < g.pages) (after : k = 0 ∨ mem.ram.page? space.directory g.page ≠ none)
    (descriptors : mem'.descriptors = mem.descriptors)
    (tables : mem'.ram.table? space.directory = mem.ram.table? space.directory)
    (unmapped : mem.ram.page? space.directory (g.page.plus k) = none)
    (pages : mem'.ram.page? space.directory =
      Function.update (mem.ram.page? space.directory) (g.page.plus k) (some (g.frame.plus k)))
    (admitted : ∀ frame, mem.ram.Admitted frame → mem'.ram.Admitted frame) :
    Holds complete space spare mem' := by
  have frameNumber := holds.number_segment_frame ready found small
  have pageNumber := holds.shaped.number_segment_page found small
  have backs := holds.backs_segment_frame ready found small
  have placed {name' : SegmentName} {g' : Segment} {other : VirtPage} {otherFrame : Frame}
      (found' : space.segment? name' = some g')
      (mapped : mem'.ram.page? space.directory other = some otherFrame)
      (backs' : g'.backs otherFrame = true) :
      (g' = g ∧ other = g.page.plus k ∧ otherFrame = g.frame.plus k) ∨
        mem.ram.page? space.directory other = some otherFrame := by
    rw [pages] at mapped
    rcases update_eq_some_iff.mp mapped with ⟨rfl, ⟨⟩⟩ | ⟨_, old⟩
    · have sameSlot := holds.slot_eq (uses_segment found backs) (uses_segment found' backs')
      cases sameSlot
      exact .inl ⟨Option.some.inj (found'.symm.trans found), rfl, rfl⟩
    · exact .inr old
  constructor
  case shaped => exact holds.shaped
  case accounted =>
    have backed := holds.shaped.backs_iff.mpr ⟨name, g, found, backs⟩
    rw [descriptors, AddressSpace.extent?_of_backed tables pages unmapped backed]
    exact holds.accounted
  case linear =>
    intro name' g' found' other otherFrame mapped backs'
    rcases placed found' mapped backs' with ⟨rfl, rfl, rfl⟩ | old
    · rw [frameNumber, pageNumber]
      omega
    · exact holds.linear name' g' found' other otherFrame old backs'
  case entered =>
    intro name' g' found' other otherFrame mapped backs'
    rcases placed found' mapped backs' with ⟨rfl, rfl, rfl⟩ | old
    · rcases after with rfl | before
      · rw [pages, Page.plus_zero, Function.update_self]
        exact Option.some_ne_none _
      · exact present_of_update unmapped pages before
    · exact present_of_update unmapped pages
        (holds.entered name' g' found' other otherFrame old backs')
  case loaded => exact holds.loaded_of_pages unmapped pages
  case directoryAdmitted => exact admitted _ holds.directoryAdmitted
  case tablesAdmitted =>
    rw [tables]
    exact fun i table named => admitted table (holds.tablesAdmitted i table named)

end Holds

namespace Memory

/-- Mapping a page. What the space is held as afterwards depends on what the
frame is to it. -/
theorem ends_mapPage (ready : mem.Ready left) (holds : Holds complete space spare mem)
    (spare' : Option Extent)
    (keeps : ∀ mem1 mem' left, Memory.Ready mem1 left → Holds complete space spare mem1 →
      mem'.descriptors = mem1.descriptors →
      mem'.ram.table? space.directory = mem1.ram.table? space.directory →
      mem1.ram.page? space.directory = mem.ram.page? space.directory →
      mem1.ram.page? space.directory page = none →
      mem'.ram.page? space.directory =
        Function.update (mem1.ram.page? space.directory) page (some frame) →
      (∀ frame, mem1.ram.Admitted frame → mem'.ram.Admitted frame) →
      Holds complete space spare' mem') :
    (space.mapPage (Coremap.source context) page frame).Ends left mem
      ⟨fun _ mem' left => mem'.Ready left ∧ Holds complete space spare' mem' ∧
          Mapped space page frame mem mem',
        fun e mem' left => e = .outOfMemory ⟨1⟩ ∧ Coremap.Starved mem.descriptors 1 ∧
          mem.ram.table? space.directory (.ofPage page) = none ∧ Unchanged mem mem' left,
        fun cause => Refused (¬ Able context mem ∨
          cause = .alreadyMapped page ∧ mem.ram.page? space.directory page ≠ none)
          space.owner mem⟩ := by
  refine ends_mapPage_of ((ends_ensureTable ready holds).mono ?_ ?_ ?_)
  rotate_left
  · rw [DirectoryIndex.ofAddr, Page.page_base]
    exact fun _ _ _ => id
  · exact fun _ _ refused => ⟨.inl refused.reason, refused.confined⟩
  rintro table mem1 left1 ⟨ready1, holds1, extended, tables, pages⟩
  rw [DirectoryIndex.ofAddr, Page.page_base] at tables
  have named : mem1.ram.table? space.directory (.ofPage page) = some table := by
    rw [tables, Function.update_self]
  have entry : mem1.ram.page? space.directory page = mem1.ram.mapping? table (.ofPage page) := by
    rw [Ram.page?, named, Option.bind_some]
  refine ⟨fun denied => absurd (holds1.tablesAdmitted _ table named) denied,
    fun present => ⟨.inr ⟨rfl, ?_⟩, extended.confined⟩, fun _ absent => ?_⟩
  · rw [← pages, entry]
    exact present
  · have unmapped := entry.trans absent
    obtain ⟨sameTables, newPages⟩ := views_of_mapping frame ready1 holds1 named
    have differ := Ram.differOn_setTableEntry mem1.ram table (.ofPage page) (.mapping frame)
    generalize mem1.ram.setTableEntry table (.ofPage page) (.mapping frame) = ram at *
    have mapping := extended_of_mapping holds1 named unmapped differ sameTables newPages
    have whole := extended.trans mapping fun _ _ _ _ => id
    refine ⟨whole.confined.ready ready1.coremap ready, ?_, whole, ?_, ?_, table, ?_⟩
    · exact keeps mem1 _ left1 ready1 holds1 rfl sameTables pages unmapped newPages
        differ.admitted
    · rw [← pages, unmapped]
    · rw [newPages, pages]
    · rw [sameTables, tables]

end Memory

/-! ## Single pages -/

namespace Memory

/-- What one memory has become of another when a step for a space was undone. -/
structure Restored (space : AddressSpace) (mem mem' : Memory (Coremap NoEviction)) : Prop where
  descriptors : mem'.descriptors = mem.descriptors
  extended : Extended space.owner space.directory (fun _ => False) mem mem'
  tables : mem'.ram.table? space.directory = mem.ram.table? space.directory
  pages : mem'.ram.page? space.directory = mem.ram.page? space.directory
  kept : ∀ frame : Frame, mem.descriptors[frame.number]? ≠ some .free →
    Ram.SameFrame frame mem.ram mem'.ram

theorem Unchanged.restored (same : Unchanged mem mem' left) (space : AddressSpace) :
    Restored space mem mem' where
  descriptors := same.descriptors
  extended := {
    confined := same.confined space.owner
    live := fun _ live => same.descriptors.symm ▸ live
    tables := fun _ _ named => by rw [same.ram, named]
    fresh := fun _ _ named => .inl (by rw [← named, same.ram])
    pages := fun _ _ mapped => by rw [same.ram, mapped]
    same := fun _ _ frame _ _ _ _ => by rw [same.ram]; exact .refl frame mem.ram }
  tables := by rw [same.ram]
  pages := by rw [same.ram]
  kept frame _ := by
    rw [same.ram]
    exact .refl frame mem.ram

/-- A space is held as before once a step for it was undone. -/
theorem Restored.holds (restored : Restored space mem mem')
    (holds : Holds complete space spare mem) : Holds complete space spare mem' :=
  holds.congr (fun _ _ => by rw [restored.descriptors]) restored.tables restored.pages
    restored.extended.confined.admitted

/-- A page was backed with a cleared frame that no block had. -/
structure Materialized (space : AddressSpace) (page : VirtPage) (frame : Frame)
    (mem mem' : Memory (Coremap NoEviction)) : Prop where
  mapped : Mapped space page frame mem mem'
  isClear : mem'.ram.ClearFrame frame
  fresh : ∀ b, Live mem.descriptors b → ¬ b.Covers frame.number

theorem Materialized.clear_of_gained (made : Materialized space page frame mem mem')
    {other : VirtPage} {otherFrame : Frame}
    (unmapped : mem.ram.page? space.directory other = none)
    (mapped : mem'.ram.page? space.directory other = some otherFrame) :
    mem'.ram.ClearFrame otherFrame := by
  rw [made.mapped.pages] at mapped
  rcases update_eq_some_iff.mp mapped with ⟨_, ⟨⟩⟩ | ⟨_, old⟩
  · exact made.isClear
  · cases unmapped.symm.trans old

/-- A frame that was taken for a space may be cleared before it is used. -/
theorem extended_of_spare (holds : Holds complete space none mem) {id : BlockId}
    (took : Took ⟨frame.number, 1, space.owner, id⟩ mem mem' left) {ram : Ram}
    (differ : Ram.DifferOn (· = frame) mem.ram ram) :
    Holds complete space (some (.ofFrame frame)) { mem' with ram := ram } ∧
      Extended space.owner space.directory (fun _ => False) mem { mem' with ram := ram } ∧
      ram.table? space.directory = mem.ram.table? space.directory ∧
      ram.page? space.directory = mem.ram.page? space.directory := by
  have covers : Block.Covers ⟨frame.number, 1, space.owner, id⟩ frame.number :=
    Block.covers_base took.vacant.nonempty
  have notDirectory : space.directory ≠ frame :=
    holds.ne_of_vacant took.vacant covers (uses_directory mem.ram)
  have notTable (i : DirectoryIndex) : mem.ram.table? space.directory i ≠ some frame :=
    fun named => holds.ne_of_vacant took.vacant covers (uses_table named) rfl
  rw [← took.ram] at differ notTable
  obtain ⟨holdsAfter, tables, pages⟩ :=
    (holds.take took rfl).of_write differ notDirectory notTable
  rw [took.ram] at tables pages
  refine ⟨holdsAfter, ?_, tables, pages⟩
  have taken : Extended space.owner space.directory (fun _ => False) mem mem' :=
    .of_took took rfl _ _
  refine taken.trans (.of_write took.live rfl covers differ notDirectory notTable) ?_
  rintro d live _ coversFrame rfl
  exact took.vacant.not_covers live coversFrame covers

/-- Giving the frame back undoes what was done with it. -/
theorem restored_of_gave {mem1 mem2 mem3 mem4 : Memory (Coremap NoEviction)}
    {left1 left3 left4 : Nat} (took : Took b mem mem1 left1)
    (frames : mem2.descriptors = mem1.descriptors)
    (extended : Extended space.owner space.directory (fun _ => False) mem mem2)
    (tables : mem2.ram.table? space.directory = mem.ram.table? space.directory)
    (pages : mem2.ram.page? space.directory = mem.ram.page? space.directory)
    (kept : ∀ frame : Frame, mem.descriptors[frame.number]? ≠ some .free →
      Ram.SameFrame frame mem.ram mem2.ram)
    (mine : b.owner = space.owner) (same : Unchanged mem2 mem3 left3)
    (gave : Gave b mem3 mem4 left4) : Restored space mem mem4 where
  descriptors := by
    rw [gave.descriptors, same.descriptors, frames, took.descriptors]
    exact took.vacant.fill_free_fill
  extended := by
    have descriptors : mem4.descriptors = mem.descriptors := by
      rw [gave.descriptors, same.descriptors, frames, took.descriptors]
      exact took.vacant.fill_free_fill
    have ram : mem4.ram = mem2.ram := gave.ram.trans same.ram
    constructor
    case confined =>
      exact (extended.confined.trans (same.confined space.owner)).trans (mine ▸ gave.confined)
    case live => exact fun d live => descriptors.symm ▸ live
    case tables =>
      rw [ram]
      exact extended.tables
    case fresh =>
      rw [ram]
      exact extended.fresh
    case pages =>
      rw [ram]
      exact extended.pages
    case same =>
      rw [ram]
      exact extended.same
  tables := by rw [gave.ram, same.ram, tables]
  pages := by rw [gave.ram, same.ram, pages]
  kept := by
    rw [gave.ram, same.ram]
    exact kept

/-- If no frame is free after one was taken, no other was free before. -/
theorem Took.eq_of_free {id : BlockId}
    (took : Took ⟨frame.number, 1, space.owner, id⟩ mem mem' left)
    (starved : Coremap.Starved mem'.descriptors 1) {i : Nat}
    (free : mem.descriptors[i]? = some .free) : i = frame.number := by
  by_contra other
  refine starved.not_free i ?_
  rw [took.descriptors, getElem?_fill_of_not_covers, free]
  rintro ⟨low, high⟩
  dsimp only at low high
  omega

theorem ends_materialize (ready : mem.Ready left) (holds : Holds complete space none mem) :
    (space.materialize (Coremap.source context) address).Ends left mem
      ⟨fun frame mem' left => mem'.Ready left ∧ Holds complete space none mem' ∧
          Materialized space address.page frame mem mem',
        fun e mem' left => e = .outOfMemory ⟨1⟩ ∧
          (Coremap.Starved mem.descriptors 1 ∨
            mem.ram.table? space.directory (.ofAddr address) = none ∧
              ∃ last, ∀ i : Nat, mem.descriptors[i]? = some .free → i = last) ∧
          mem'.Ready left ∧ Restored space mem mem',
        fun _ => Refused (¬ Able context mem ∨ mem.ram.page? space.directory address.page ≠ none)
          space.owner mem⟩ := by
  apply ends_allocateSingle_zeroFrame_of_ready ready
  · exact fun _ _ refused => ⟨.inl refused.reason, refused.confined⟩
  · exact fun _ _ starved same => ⟨rfl, .inl starved, same.ready, same.restored space⟩
  intro frame id mem1 ram left1 took covers differ isClear _
  obtain ⟨holds2, extended, tables, pages⟩ := extended_of_spare holds took differ
  have ready2 := extended.confined.ready took.ready.coremap ready
  have frames : descriptors { mem1 with ram := ram } = mem1.descriptors := rfl
  refine Operation.ends_bind.mpr (Operation.ends_attempt.mpr ?_)
  refine (ends_mapPage ready2 holds2 none ?_).mono ?_ ?_ ?_
  · exact fun _ _ _ _ holds3 descriptors tables _ unmapped pages admitted =>
      holds3.map_spare descriptors tables unmapped pages admitted
  · rintro ⟨⟩ mem3 left3 ⟨ready3, holds3, mapped⟩
    have kept : Ram.SameFrame frame ram mem3.ram := by
      refine mapped.extended.same _ took.live frame covers ?_ ?_ (not_false)
      · exact holds.ne_of_vacant took.vacant covers (uses_directory mem.ram) |>.symm
      · intro i named
        exact holds.ne_of_vacant took.vacant covers (uses_table (tables ▸ named)) rfl
    refine Operation.ends_bind.mpr (Operation.ends_log.mpr (Operation.ends_pure.mpr ?_))
    refine ⟨ready3, holds3, ⟨?_, ?_, ?_, ?_⟩, kept.clear isClear, ?_⟩
    · exact extended.trans mapped.extended fun _ _ _ _ => False.elim
    · exact pages ▸ mapped.unmapped
    · exact pages ▸ mapped.pages
    · exact tables ▸ mapped.tables
    · exact fun d live coversFrame => took.vacant.not_covers live coversFrame covers
  · rintro e mem3 left3 ⟨isMemory, starved, unnamed, same⟩
    have live : Live mem3.descriptors ⟨frame.number, 1, space.owner, id⟩ := by
      rw [same.descriptors]
      exact took.live
    have kept (other : Frame) (notFree : mem.descriptors[other.number]? ≠ some .free) :
        Ram.SameFrame other mem.ram ram := by
      apply differ.same
      rintro rfl
      exact notFree (took.vacant.free _ covers)
    refine Operation.Ends.bind (ends_freeSingle same.ready live rfl rfl) ?_
      (fun _ _ _ => False.elim) ?_
    · rintro ⟨⟩ mem4 _ ⟨rfl, gave⟩
      refine Operation.ends_fail.mpr ⟨isMemory, .inr ⟨tables ▸ unnamed, frame.number, ?_⟩,
        gave.ready, restored_of_gave took frames extended tables pages kept rfl same gave⟩
      exact fun i => took.eq_of_free starved
    · exact fun _ _ refused => refused.after (extended.confined.trans (same.confined space.owner))
        fun cannot => .inl fun able => cannot able.canSleep
  · exact fun _ _ refused => refused.after extended.confined
      (Or.imp extended.confined.not_able fun present => pages ▸ present.2)

end Memory

/-! ## Runs of pages -/

namespace Memory

/-- What one memory has become of another while the pages of a segment from page
`i` on were mapped. -/
structure Ran (space : AddressSpace) (g : Segment) (i : Nat)
    (mem mem' : Memory (Coremap NoEviction)) : Prop where
  extended : Extended space.owner space.directory
    (fun frame => ∃ k, i ≤ k ∧ k < g.pages ∧ frame = g.frame.plus k) mem mem'
  unmapped : ∀ k, i ≤ k → k < g.pages → mem.ram.page? space.directory (g.page.plus k) = none
  mapped : ∀ k, i ≤ k → k < g.pages →
    mem'.ram.page? space.directory (g.page.plus k) = some (g.frame.plus k)
  others : ∀ page, (∀ k, i ≤ k → k < g.pages → page ≠ g.page.plus k) →
    mem'.ram.page? space.directory page = mem.ram.page? space.directory page
  tables : ∀ j, mem'.ram.table? space.directory j ≠ none →
    mem.ram.table? space.directory j ≠ none ∨
      ∃ k, i ≤ k ∧ k < g.pages ∧ DirectoryIndex.ofPage (g.page.plus k) = j
  isClear : ∀ k, i ≤ k → k < g.pages → mem'.ram.ClearFrame (g.frame.plus k)

theorem ran_nil (space : AddressSpace) (g : Segment) (mem : Memory (Coremap NoEviction)) {i : Nat}
    (done : g.pages ≤ i) : Ran space g i mem mem where
  extended := .refl _ _ _ mem
  unmapped _ _ _ := by omega
  mapped _ _ _ := by omega
  others _ _ := rfl
  tables _ := .inl
  isClear _ _ _ := by omega

/-- What one memory has become of another while the frame at place `i` of a
segment was cleared and mapped. -/
structure Placed (space : AddressSpace) (g : Segment) (i : Nat)
    (mem mem' : Memory (Coremap NoEviction)) : Prop where
  extended : Extended space.owner space.directory (· = g.frame.plus i) mem mem'
  unmapped : mem.ram.page? space.directory (g.page.plus i) = none
  pages : mem'.ram.page? space.directory =
    Function.update (mem.ram.page? space.directory) (g.page.plus i) (some (g.frame.plus i))
  tables : ∃ table, mem'.ram.table? space.directory =
    Function.update (mem.ram.table? space.directory) (.ofPage (g.page.plus i)) (some table)
  isClear : mem'.ram.ClearFrame (g.frame.plus i)

variable {g : Segment} {name : SegmentName} {i : Nat}

/-- Clearing and mapping the frame at a place of a segment, and whatever follows. -/
theorem ends_place {α : Type} (ready : mem.Ready left) (holds : Holds complete space none mem)
    (found : space.segment? name = some g) (small : i < g.pages)
    (after : i = 0 ∨ mem.ram.page? space.directory g.page ≠ none)
    {next : Unit → Operation SpaceError (Memory (Coremap NoEviction)) α}
    {post : Post SpaceError (Memory (Coremap NoEviction)) α}
    (refused : ∀ cause mem', Refused (¬ Able context mem ∨ cause = .alreadyMapped (g.page.plus i) ∧
      mem.ram.page? space.directory (g.page.plus i) ≠ none) space.owner mem mem' →
      post.panic cause mem')
    (failed : ∀ mem' left, mem'.Ready left → Holds complete space none mem' →
      Extended space.owner space.directory (· = g.frame.plus i) mem mem' →
      mem'.ram.page? space.directory = mem.ram.page? space.directory →
      mem'.ram.table? space.directory (.ofPage (g.page.plus i)) = none →
      post.error (.outOfMemory ⟨1⟩) mem' left)
    (placed : ∀ mem' left, mem'.Ready left → Holds complete space none mem' →
      Placed space g i mem mem' → (next ()).Ends left mem' post) :
    (onRam (Ram.zeroFrame (g.frame.plus i)) >>= fun _ =>
      space.mapPage (Coremap.source context) (g.page.plus i) (g.frame.plus i) >>= next).Ends
      left mem post := by
  have backs := holds.backs_segment_frame ready found small
  have notDirectory := holds.backed_ne_directory found backs
  have notTable := holds.backed_ne_table found backs
  obtain ⟨b, live, mine, covers⟩ := holds.exists_live (uses_segment found backs)
  refine Operation.ends_bind.mpr (ends_onRam.mpr (Ram.ends_zeroFrame ?_ ?_))
  · exact fun denied cause => refused cause _
      ⟨.inl fun able => denied (ready.check able live covers), .refl _ _⟩
  intro ram _ differ isClear
  obtain ⟨holds1, tables, pages⟩ := holds.of_write differ notDirectory.symm notTable
  have cleared : Extended space.owner space.directory (· = g.frame.plus i) mem
      { mem with ram := ram } :=
    .of_write live mine covers differ notDirectory.symm notTable
  have ready1 := cleared.confined.ready ready.coremap ready
  refine Operation.Ends.bind (ends_mapPage ready1 holds1 none ?_) ?_ ?_ ?_
  · intro mem1 mem2 left1 ready1 holds1 descriptors sameTables samePages unmapped newPages admitted
    have after1 : i = 0 ∨ mem1.ram.page? space.directory g.page ≠ none := by
      rw [samePages, pages]
      exact after
    exact holds1.map_backed ready1 found small after1 descriptors sameTables unmapped newPages
      admitted
  · rintro ⟨⟩ mem2 left2 ⟨ready2, holds2, mapped⟩
    have kept : Ram.SameFrame (g.frame.plus i) ram mem2.ram := by
      apply mapped.extended.same b live _ covers notDirectory _ not_false
      rw [tables]
      exact notTable
    apply placed mem2 left2 ready2 holds2
    constructor
    case extended => exact cleared.trans mapped.extended fun _ _ _ _ => False.elim
    case unmapped => rw [← pages, mapped.unmapped]
    case pages => rw [mapped.pages, pages]
    case tables =>
      rw [← tables]
      exact mapped.tables
    case isClear => exact kept.clear isClear
  · rintro e mem2 left2 ⟨rfl, _, unnamed, same⟩
    apply failed mem2 left2 same.ready (holds1.unchanged same)
    · exact cleared.trans (same.restored space).extended fun _ _ _ _ => False.elim
    · rw [same.ram, pages]
    · rw [same.ram, unnamed]
  · exact fun cause mem2 gaveUp => refused cause mem2 (gaveUp.after cleared.confined
      (Or.imp cleared.confined.not_able (And.imp_right fun present => pages ▸ present)))

/-- Work at a place of a segment and then at the places behind it is work from that place on. -/
theorem Placed.extended_from (first : Placed space g i mem mem')
    {mem'' : Memory (Coremap NoEviction)} (small : i < g.pages)
    (rest : Extended space.owner space.directory
      (fun frame => ∃ k, i + 1 ≤ k ∧ k < g.pages ∧ frame = g.frame.plus k) mem' mem'') :
    Extended space.owner space.directory
      (fun frame => ∃ k, i ≤ k ∧ k < g.pages ∧ frame = g.frame.plus k) mem mem'' := by
  have begun : Extended space.owner space.directory
      (fun frame => ∃ k, i ≤ k ∧ k < g.pages ∧ frame = g.frame.plus k) mem mem' :=
    first.extended.mono fun _ _ _ _ same => ⟨i, Nat.le_refl i, small, same⟩
  refine begun.trans rest ?_
  rintro _ _ _ _ ⟨k, low, below, same⟩
  exact ⟨k, by omega, below, same⟩

/-- The frame at a place of a segment stays clear while the places behind it are mapped. -/
theorem Placed.clear_of_ran (first : Placed space g i mem mem')
    {mem'' : Memory (Coremap NoEviction)} (ready : mem.Ready left)
    (holds : Holds complete space none mem) (found : space.segment? name = some g)
    (small : i < g.pages) (rest : Ran space g (i + 1) mem' mem'') :
    mem''.ram.ClearFrame (g.frame.plus i) := by
  have backs := holds.backs_segment_frame ready found small
  obtain ⟨b, live, _, covers⟩ := holds.exists_live (uses_segment found backs)
  have still : Ram.SameFrame (g.frame.plus i) mem'.ram mem''.ram := by
    apply rest.extended.same b (first.extended.live b live) _ covers
    · exact holds.backed_ne_directory found backs
    · intro j named
      rcases first.extended.fresh j _ named with old | new
      · exact holds.backed_ne_table found backs j old
      · exact new b live covers
    · rintro ⟨k, behind, below, same⟩
      exact holds.segment_frame_ne ready found small below (by omega) same
  exact still.clear first.isClear

/-- The first page of a run, and then the rest. -/
theorem Placed.run (first : Placed space g i mem mem') {mem'' : Memory (Coremap NoEviction)}
    (ready : mem.Ready left) (holds : Holds complete space none mem)
    (found : space.segment? name = some g) (small : i < g.pages)
    (rest : Ran space g (i + 1) mem' mem'') : Ran space g i mem mem'' := by
  have cases {k : Nat} (low : i ≤ k) : k = i ∨ i + 1 ≤ k := by
    omega
  constructor
  case extended => exact first.extended_from small rest.extended
  case unmapped =>
    intro k low below
    rcases cases low with rfl | more
    · exact first.unmapped
    · exact absent_of_kept first.extended.pages (rest.unmapped k more below)
  case mapped =>
    intro k low below
    rcases cases low with rfl | more
    · apply rest.extended.pages
      rw [first.pages, Function.update_self]
    · exact rest.mapped k more below
  case others =>
    intro page outside
    rw [rest.others page fun k low => outside k (by omega), first.pages,
      Function.update_of_ne (outside i (Nat.le_refl i) small)]
  case tables =>
    intro j named
    rcases rest.tables j named with old | ⟨k, low, below, same⟩
    · obtain ⟨table, updated⟩ := first.tables
      rw [updated] at old
      rcases update_ne_none_iff.mp old with ⟨rfl, _⟩ | ⟨_, older⟩
      · exact .inr ⟨i, Nat.le_refl i, small, rfl⟩
      · exact .inl older
    · exact .inr ⟨k, by omega, below, same⟩
  case isClear =>
    intro k low below
    rcases cases low with rfl | more
    · exact first.clear_of_ran ready holds found below rest
    · exact rest.isClear k more below

/-- Pages that were mapped on the way are those of a segment from page `i` on, each to the
frame at its place. -/
def GainsOf (space : AddressSpace) (g : Segment) (i : Nat)
    (mem mem' : Memory (Coremap NoEviction)) : Prop :=
  ∀ page frame, mem.ram.page? space.directory page = none →
    mem'.ram.page? space.directory page = some frame →
      ∃ k, i ≤ k ∧ k < g.pages ∧ page = g.page.plus k ∧ frame = g.frame.plus k

/-- The first page of a run, and then some of the rest. -/
theorem Placed.gainsOf (first : Placed space g i mem mem') {mem'' : Memory (Coremap NoEviction)}
    (small : i < g.pages)
    (kept : ∀ page frame, mem'.ram.page? space.directory page = some frame →
      mem''.ram.page? space.directory page = some frame)
    (rest : GainsOf space g (i + 1) mem' mem'') : GainsOf space g i mem mem'' := by
  intro page frame unmapped mapped
  by_cases same : page = g.page.plus i
  · subst same
    have placed : mem'.ram.page? space.directory (g.page.plus i) = some (g.frame.plus i) := by
      rw [first.pages, Function.update_self]
    have same := mapped.symm.trans (kept _ _ placed)
    exact ⟨i, Nat.le_refl i, small, rfl, Option.some.inj same⟩
  · have stillUnmapped : mem'.ram.page? space.directory page = none := by
      rw [first.pages, Function.update_of_ne same, unmapped]
    obtain ⟨k, low, below, isPage, isFrame⟩ := rest page frame stillUnmapped mapped
    exact ⟨k, by omega, below, isPage, isFrame⟩

theorem ends_mapRun (ready : mem.Ready left) (holds : Holds complete space none mem)
    (found : space.segment? name = some g) {n : Nat} (rest : i + n = g.pages)
    (after : i = 0 ∨ mem.ram.page? space.directory g.page ≠ none) :
    (space.mapRun (Coremap.source context) g.page g.frame i n).Ends left mem
      ⟨fun _ mem' left => mem'.Ready left ∧ Holds complete space none mem' ∧
          Ran space g i mem mem',
        fun e mem' left => e = .outOfMemory ⟨1⟩ ∧ mem'.Ready left ∧ Holds complete space none mem' ∧
          Extended space.owner space.directory
            (fun frame => ∃ k, i ≤ k ∧ k < g.pages ∧ frame = g.frame.plus k) mem mem' ∧
          GainsOf space g i mem mem' ∧
          ∃ k, k < g.pages ∧ mem'.ram.table? space.directory (.ofPage (g.page.plus k)) = none,
        fun cause => Refused (¬ Able context mem ∨
          ∃ k, i ≤ k ∧ k < g.pages ∧ cause = .alreadyMapped (g.page.plus k) ∧
            mem.ram.page? space.directory (g.page.plus k) ≠ none)
          space.owner mem⟩ := by
  induction n generalizing i mem left with
  | zero => exact Operation.ends_pure.mpr ⟨ready, holds, ran_nil space g mem (by omega)⟩
  | succ n ih =>
    have small : i < g.pages := by omega
    apply ends_place ready holds found small after
    · exact fun cause mem' refused => ⟨refused.reason.imp id fun present =>
        ⟨i, Nat.le_refl i, small, present⟩, refused.confined⟩
    · intro mem1 left1 ready1 holds1 extended pages unnamed
      refine ⟨rfl, ready1, holds1, extended.mono ?_, ?_, i, small, unnamed⟩
      · exact fun _ _ _ _ same => ⟨i, Nat.le_refl i, small, same⟩
      · intro page frame unmapped mapped
        rw [pages, unmapped] at mapped
        cases mapped
    intro mem1 left1 ready1 holds1 first
    have entered : mem1.ram.page? space.directory g.page ≠ none := by
      rcases after with rfl | before
      · rw [first.pages, Page.plus_zero, Function.update_self]
        exact Option.some_ne_none _
      · obtain ⟨frame, isFrame⟩ := Option.ne_none_iff_exists'.mp before
        rw [first.extended.pages g.page frame isFrame]
        exact Option.some_ne_none frame
    refine (ih ready1 holds1 (by omega) (.inr entered)).mono ?_ ?_ ?_
    · rintro ⟨⟩ mem2 left2 ⟨ready2, holds2, ran⟩
      exact ⟨ready2, holds2, first.run ready holds found small ran⟩
    · rintro e mem2 left2 ⟨isMemory, ready2, holds2, extended, gains, unnamed⟩
      exact ⟨isMemory, ready2, holds2, first.extended_from small extended,
        first.gainsOf small extended.pages gains, unnamed⟩
    · refine fun cause mem2 refused => refused.after first.extended.confined
        (Or.imp first.extended.confined.not_able ?_)
      rintro ⟨k, low, below, isCause, present⟩
      refine ⟨k, by omega, below, isCause, ?_⟩
      have behind := holds.shaped.segment_page_ne found below small (by omega)
      rwa [first.pages, Function.update_of_ne behind] at present

/-- A page that is mapped is not mapped again. -/
theorem ends_mapPage_of_mapped (ready : mem.Ready left) (holds : Holds complete space spare mem)
    (present : mem.ram.page? space.directory page ≠ none) :
    (space.mapPage (Coremap.source context) page frame).Ends left mem
      ⟨fun _ _ _ => False, fun _ _ _ => False,
        fun cause =>
          Refused (¬ Able context mem ∨ cause = .alreadyMapped page) space.owner mem⟩ := by
  refine (ends_mapPage ready holds spare ?_).mono ?_ ?_ ?_
  · intro mem1 mem2 left1 _ _ _ _ samePages unmapped _ _
    exact absurd (samePages ▸ unmapped) present
  · exact fun _ _ _ ⟨_, _, mapped⟩ => present mapped.unmapped
  · rintro e mem1 left1 ⟨_, _, unnamed, _⟩
    exact present (Ram.page?_eq_none_of_table? unnamed)
  · exact fun _ _ refused => ⟨refused.reason.imp_right And.left, refused.confined⟩

/-- A spare block whose first page is mapped already is not mapped. -/
theorem ends_mapBlock_of_mapped (ready : mem.Ready left) (holds : Holds complete space spare mem)
    (isSpare : space.Uses spare mem.ram none frame) {pages : Nat} (positive : 0 < pages)
    (present : mem.ram.page? space.directory page ≠ none) :
    (space.mapBlock (Coremap.source context) page frame pages).Ends left mem
      ⟨fun _ _ _ => False, fun _ _ _ => False,
        fun cause =>
          Refused (¬ Able context mem ∨ cause = .alreadyMapped page) space.owner mem⟩ := by
  obtain ⟨n, rfl⟩ := Nat.exists_eq_succ_of_ne_zero (Nat.ne_of_gt positive)
  obtain ⟨b, live, mine, covers⟩ := holds.exists_live isSpare
  have notDirectory : space.directory ≠ frame := by
    rintro rfl
    cases holds.slot_eq isSpare (uses_directory mem.ram)
  have notTable (i : DirectoryIndex) : mem.ram.table? space.directory i ≠ some frame := by
    intro named
    cases holds.slot_eq isSpare (uses_table named)
  unfold AddressSpace.mapBlock AddressSpace.mapRun
  rw [Page.plus_zero, Page.plus_zero]
  refine Operation.ends_bind.mpr (ends_onRam.mpr (Ram.ends_zeroFrame ?_ ?_))
  · exact fun denied _ => ⟨.inl fun able => denied (ready.check able live covers), .refl _ _⟩
  intro ram _ differ _
  obtain ⟨holds1, _, pages1⟩ := holds.of_write differ notDirectory notTable
  have written : mem.Confined space.owner { mem with ram := ram } :=
    .of_write live mine covers differ
  have ready1 := written.ready ready.coremap ready
  refine Operation.Ends.bind (ends_mapPage_of_mapped ready1 holds1 ?_) (fun _ _ _ => False.elim)
    (fun _ _ _ => False.elim)
    (fun _ _ refused => refused.after written (Or.imp_left written.not_able))
  rw [pages1]
  exact present

end Memory

/-! ## New spaces -/

/-- A memory whose next space has been named. -/
def Memory.named (mem : Memory (Coremap NoEviction)) : Memory (Coremap NoEviction) :=
  { mem with nextSpace := mem.nextSpace.succ }

namespace Memory

/-- A space was created that has nothing but a cleared directory. -/
structure Created (space : AddressSpace) (mem mem' : Memory (Coremap NoEviction)) : Prop where
  isEmpty : space = .empty mem.nextSpace space.directory
  confined : mem.named.Confined space.owner mem'
  live : ∀ b, Live mem.descriptors b → Live mem'.descriptors b
  unnamed : ∀ i, mem'.ram.table? space.directory i = none
  fresh : ∀ b, Live mem.descriptors b → ¬ b.Covers space.directory.number

theorem ends_drawSpace {ε : Type} {post : Post ε (Memory (Coremap NoEviction)) SpaceId} :
    (drawSpace : Operation ε (Memory (Coremap NoEviction)) SpaceId).Ends left mem post ↔
      post.value mem.nextSpace mem.named left :=
  Operation.ends_of_run_value rfl

theorem Ready.named (ready : mem.Ready left) : mem.named.Ready left :=
  ⟨ready.coremap, ready.covered⟩

theorem able_named_iff : Able context mem.named ↔ Able context mem :=
  ⟨fun able => ⟨able.canSleep, able.admits⟩, fun able => ⟨able.canSleep, able.admits⟩⟩

/-- A space that has nothing but a directory, in a memory where its owner has
nothing else. -/
theorem holds_empty {id : SpaceId} {directory : Frame} {blockId : BlockId}
    (nothing : ∀ b, Live mem.descriptors b → b.owner ≠ .space id)
    (took : Took ⟨directory.number, 1, .space id, blockId⟩ mem mem' left) {ram : Ram}
    (unnamed : ∀ i, ram.table? directory i = none) (admitted : ram.Admitted directory) :
    Holds True (.empty id directory) none { mem' with ram := ram } where
  shaped := ⟨Nat.zero_le _, nofun, nofun, .nil⟩
  accounted := by
    have alone : withSpare ((AddressSpace.empty id directory).extent? ram) none =
        Function.update (fun _ => none) (some .directory) (some (.ofFrame directory)) := by
      funext slot
      rcases slot with _ | _ | i | name | page
      · rw [Function.update_of_ne (by simp), withSpare_none]
      · rw [Function.update_self, withSpare_some, AddressSpace.extent?_directory]
        rfl
      · rw [Function.update_of_ne (by simp), withSpare_some, AddressSpace.extent?_table]
        exact congrArg _ (unnamed i)
      · rw [Function.update_of_ne (by simp), withSpare_some, AddressSpace.extent?_segment]
        cases name <;> rfl
      · rw [Function.update_of_ne (by simp), withSpare_some, AddressSpace.extent?_page, Ram.page?]
        exact congrArg (fun table => (Option.bind table _).bind _) (unnamed (.ofPage page))
    rw [alone]
    exact took.descriptors.symm ▸ (accounted_none nothing).grant took.vacant rfl rfl
  linear := by
    rintro (_ | _) g found
    · cases found
    · cases found
  entered := by
    rintro (_ | _) g found
    · cases found
    · cases found
  loaded := nofun
  directoryAdmitted := admitted
  tablesAdmitted i table named := absurd ((unnamed i).symm.trans named) nofun

theorem ends_create (ready : mem.Ready left)
    (nothing : ∀ b, Live mem.descriptors b → b.owner ≠ .space mem.nextSpace) :
    (AddressSpace.create (Coremap.source context)).Ends left mem
      ⟨fun space mem' left => mem'.Ready left ∧ Holds True space none mem' ∧ Created space mem mem',
        fun e mem' left => e = .outOfMemory ⟨1⟩ ∧ Coremap.Starved mem.descriptors 1 ∧
          Unchanged mem.named mem' left,
        fun _ => Refused (¬ Able context mem) (.space mem.nextSpace) mem.named⟩ := by
  unfold AddressSpace.create
  refine Operation.ends_bind.mpr (ends_drawSpace.mpr ?_)
  apply ends_allocateSingle_zeroFrame_of_ready ready.named
  · exact fun _ _ refused =>
      ⟨fun able => refused.reason (able_named_iff.mpr able), refused.confined⟩
  · exact fun _ _ starved same => ⟨rfl, starved, same⟩
  · intro directory blockId mem1 ram left1 took covers differ isClear admitted
    have unnamed := Ram.table?_of_clearFrame isClear
    have confined : mem.named.Confined (.space mem.nextSpace) { mem1 with ram := ram } :=
      took.confined.trans (.of_write took.live rfl covers (took.ram ▸ differ))
    refine Operation.ends_bind.mpr (Operation.ends_log.mpr (Operation.ends_pure.mpr ?_))
    have nothingNamed : ∀ b, Live mem.named.descriptors b → b.owner ≠ .space mem.nextSpace :=
      nothing
    refine ⟨confined.ready took.ready.coremap ready.named,
      holds_empty nothingNamed took unnamed admitted, rfl, confined, ?_,
      unnamed, ?_⟩
    · exact fun b live => (took.live_iff b).mpr (.inr live)
    · exact fun b live coversToo => took.vacant.not_covers live coversToo covers

end Memory

end PagedMemory
