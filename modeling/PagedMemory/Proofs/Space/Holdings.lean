import PagedMemory.Proofs.Space.Slots

/-!
# Spaces held in memory

A memory is ready if its coremap is at rest and there is RAM behind every frame.
A space is held in such a memory if its slots are its owner's account, whatever
lies in the block of a segment is mapped to its linear place, a segment is mapped
from its first page on, and a space that counts as loaded is mapped completely.
What is done for one owner is confined: blocks of others stay as they are, and so
do the bytes of their frames.
-/

namespace PagedMemory

/-- What is recorded about all frames. -/
abbrev Memory.descriptors (mem : Memory (Coremap NoEviction)) : Array Descriptor :=
  mem.frames.frames

/-- The coremap is at rest with `left` identities to draw, and every frame that
it describes lies in RAM. -/
structure Memory.Ready (mem : Memory (Coremap NoEviction)) (left : Nat) : Prop where
  coremap : mem.frames.Ready left
  covered : mem.frames.reservation.frameCount * 4096 ≤ mem.ram.size

/-- Nothing outside a memory stands in the way of an operation: its caller may
sleep, and every frame can be accessed. -/
structure Able (context : Option Context) (mem : Memory (Coremap NoEviction)) : Prop where
  canSleep : CanSleep context
  admits : mem.ram.Admits mem.frames.reservation.frameCount

/-- What one memory has become of another by work for `owner`: the blocks of
others and the bytes of their frames are as they were, and so is what is reserved. -/
structure Memory.Confined (owner : Owner) (mem mem' : Memory (Coremap NoEviction)) : Prop where
  window : mem'.ram.window = mem.ram.window
  size : mem'.ram.size = mem.ram.size
  reservation : mem'.frames.reservation = mem.frames.reservation
  nextSpace : mem'.nextSpace = mem.nextSpace
  live_iff : ∀ b, b.owner ≠ owner → (Live mem'.descriptors b ↔ Live mem.descriptors b)
  same : ∀ b, Live mem.descriptors b → b.owner ≠ owner → ∀ frame : Frame,
    b.Covers frame.number → Ram.SameFrame frame mem.ram mem'.ram
  fixed : ∀ i : Nat, mem.descriptors[i]? = some .fixed → mem'.descriptors[i]? = some .fixed
  unwritten : ∀ frame : Frame, mem.descriptors[frame.number]? = some .fixed →
    Ram.SameFrame frame mem.ram mem'.ram

/-- Work for `owner` was given up on the way, for some reason. -/
structure Memory.Refused (reason : Prop) (owner : Owner)
    (mem mem' : Memory (Coremap NoEviction)) : Prop where
  reason : reason
  confined : mem.Confined owner mem'

variable {mem mem' mem'' : Memory (Coremap NoEviction)} {owner : Owner} {left : Nat}
  {context : Option Context} {frame : Frame} {b : Block} {complete complete' : Prop}

namespace Memory

theorem Ready.number_lt (ready : mem.Ready left) (live : Live mem.descriptors b)
    (covers : b.Covers frame.number) : frame.number < mem.frames.reservation.frameCount := by
  rw [← ready.coremap.sound.size_eq]
  exact Nat.lt_of_lt_of_le covers.2 live.within

theorem Ready.of_room (ready : mem.Ready left) {left' : Nat} (room : mem.frames.Room left') :
    mem.Ready left' :=
  ⟨⟨ready.coremap.sound, room⟩, ready.covered⟩

theorem Ready.mono (ready : mem.Ready left) {less : Nat} (fewer : less ≤ left) : mem.Ready less :=
  ready.of_room (Nat.lt_of_le_of_lt (Nat.add_le_add_left fewer _) ready.coremap.room)

theorem Ready.within (ready : mem.Ready left) (live : Live mem.descriptors b)
    (covers : b.Covers frame.number) : frame.number * 4096 + 4096 ≤ mem.ram.size := by
  calc frame.number * 4096 + 4096
    _ = (frame.number + 1) * 4096 := (Nat.succ_mul _ _).symm
    _ ≤ mem.frames.reservation.frameCount * 4096 :=
      Nat.mul_le_mul_right 4096 (ready.number_lt live covers)
    _ ≤ mem.ram.size := ready.covered

theorem Ready.check (ready : mem.Ready left) (able : Able context mem)
    (live : Live mem.descriptors b) (covers : b.Covers frame.number) :
    mem.ram.Admitted frame :=
  able.admits frame (ready.number_lt live covers)

namespace Confined

protected theorem refl (owner : Owner) (mem : Memory (Coremap NoEviction)) :
    Confined owner mem mem :=
  ⟨rfl, rfl, rfl, rfl, fun _ _ => Iff.rfl, fun _ _ _ frame _ => .refl frame mem.ram, fun _ => id,
    fun frame _ => .refl frame mem.ram⟩

protected theorem trans (first : Confined owner mem mem') (second : Confined owner mem' mem'') :
    Confined owner mem mem'' where
  window := second.window.trans first.window
  size := second.size.trans first.size
  reservation := second.reservation.trans first.reservation
  nextSpace := second.nextSpace.trans first.nextSpace
  live_iff b others := (second.live_iff b others).trans (first.live_iff b others)
  same b live others frame covers :=
    (first.same b live others frame covers).trans
      (second.same b ((first.live_iff b others).mpr live) others frame covers)
  fixed i isFixed := second.fixed i (first.fixed i isFixed)
  unwritten frame isFixed :=
    (first.unwritten frame isFixed).trans (second.unwritten frame (first.fixed _ isFixed))

theorem able_iff (confined : Confined owner mem mem') (context : Option Context) :
    Able context mem' ↔ Able context mem := by
  have admits : mem'.ram.Admits mem'.frames.reservation.frameCount ↔
      mem.ram.Admits mem.frames.reservation.frameCount := by
    rw [Ram.admits_iff_of_eq confined.window confined.size, confined.reservation]
  exact ⟨fun able => ⟨able.canSleep, admits.mp able.admits⟩,
    fun able => ⟨able.canSleep, admits.mpr able.admits⟩⟩

theorem not_able (confined : Confined owner mem mem') (cannot : ¬ Able context mem') :
    ¬ Able context mem :=
  fun able => cannot ((confined.able_iff context).mpr able)

theorem admitted (confined : Confined owner mem mem') (frame : Frame)
    (admitted : mem.ram.Admitted frame) : mem'.ram.Admitted frame :=
  (Ram.admitted_iff_of_eq confined.window confined.size).mpr admitted

theorem ready (confined : Confined owner mem mem') (coremap : mem'.frames.Ready left)
    {left' : Nat} (ready : mem.Ready left') : mem'.Ready left where
  coremap := coremap
  covered := by
    rw [confined.reservation, confined.size]
    exact ready.covered

/-- The descriptors are those of equally many frames, of which the same are reserved. -/
theorem tiled (confined : Confined owner mem mem') {left' : Nat} (ready : mem.Ready left)
    (ready' : mem'.Ready left') :
    mem'.descriptors.size = mem.descriptors.size ∧
      Tiled mem.frames.reservation.firstAllocatable mem'.descriptors := by
  rw [ready'.coremap.sound.size_eq, ready.coremap.sound.size_eq, ← confined.reservation]
  exact ⟨rfl, ready'.coremap.sound.tiled⟩

/-- A block is claimed for the owner. -/
theorem of_claim (mem : Memory (Coremap NoEviction)) {c : Coremap NoEviction}
    (reservation : c.reservation = mem.frames.reservation) (vacant : Vacant mem.descriptors b)
    (frames : c.frames = Coremap.fill b.descriptor mem.descriptors b.base b.size) :
    Confined b.owner mem { mem with frames := c } where
  window := rfl
  size := rfl
  reservation := reservation
  nextSpace := rfl
  live_iff d others := by
    simp only [descriptors, frames]
    rw [vacant.live_fill_iff]
    constructor
    · rintro (rfl | live)
      · exact absurd rfl others
      · exact live
    · exact .inr
  same _ _ _ frame _ := .refl frame mem.ram
  fixed i isFixed := by
    simp only [descriptors, frames]
    rw [getElem?_fill_of_not_covers (vacant.not_covers_of_fixed isFixed)]
    exact isFixed
  unwritten frame _ := .refl frame mem.ram

/-- A block of the owner is freed. -/
theorem of_free (mem : Memory (Coremap NoEviction)) {c : Coremap NoEviction}
    (reservation : c.reservation = mem.frames.reservation) (live : Live mem.descriptors b)
    (frames : c.frames = Coremap.fill .free mem.descriptors b.base b.size) :
    Confined b.owner mem { mem with frames := c } where
  window := rfl
  size := rfl
  reservation := reservation
  nextSpace := rfl
  live_iff d others := by
    simp only [descriptors, frames]
    rw [live.live_fill_free_iff]
    constructor
    · exact And.left
    · intro liveOther
      refine ⟨liveOther, ?_⟩
      rintro rfl
      exact others rfl
  same _ _ _ frame _ := .refl frame mem.ram
  fixed i isFixed := by
    simp only [descriptors, frames]
    rw [getElem?_fill_of_not_covers (live.not_covers_of_fixed isFixed)]
    exact isFixed
  unwritten frame _ := .refl frame mem.ram

/-- No block changes hands and no byte. -/
theorem of_frames_eq (mem : Memory (Coremap NoEviction)) {c : Coremap NoEviction}
    (reservation : c.reservation = mem.frames.reservation) (frames : c.frames = mem.descriptors) :
    Confined owner mem { mem with frames := c } where
  window := rfl
  size := rfl
  reservation := reservation
  nextSpace := rfl
  live_iff d _ := by
    simp only [descriptors, frames]
  same _ _ _ frame _ := .refl frame mem.ram
  fixed i isFixed := by
    simp only [descriptors, frames]
    exact isFixed
  unwritten frame _ := .refl frame mem.ram

/-- A frame of the owner is written. -/
theorem of_write (live : Live mem.descriptors b) (mine : b.owner = owner)
    (covers : b.Covers frame.number) {ram : Ram} (differ : Ram.DifferOn (· = frame) mem.ram ram) :
    Confined owner mem { mem with ram := ram } where
  window := differ.window
  size := differ.size
  reservation := rfl
  nextSpace := rfl
  live_iff _ _ := Iff.rfl
  same d liveOther others other inOther := by
    apply differ.same
    rintro rfl
    exact others ((live.eq_of_covers liveOther covers inOther) ▸ mine)
  fixed _ := id
  unwritten other isFixed := by
    apply differ.same
    rintro rfl
    exact live.not_covers_of_fixed isFixed covers

end Confined

/-- What was given up was begun by other work for the same owner. -/
theorem Refused.after {reason reason' : Prop} (refused : Refused reason owner mem' mem'')
    (confined : Confined owner mem mem') (because : reason → reason') :
    Refused reason' owner mem mem'' :=
  ⟨because refused.reason, confined.trans refused.confined⟩

end Memory

/-! ## A space in memory -/

/-- A space all of whose segments are backed and mapped. -/
structure AddressSpace.Loaded (space : AddressSpace) (ram : Ram) : Prop where
  regions : ∀ region ∈ space.regions, region.backing.isSome
  stack : space.stack.isSome
  mapped : ∀ name g, space.segment? name = some g → ∀ k, k < g.pages →
    ram.page? space.directory (g.page.plus k) = some (g.frame.plus k)

/-- A space as memory holds it, with a spare run of frames or none. Unless its
account is complete there may be blocks that it has forgotten. Its directory and
its tables can be accessed, since they were cleared when they were taken. -/
structure Holds (complete : Prop) (space : AddressSpace) (spare : Option Extent)
    (mem : Memory (Coremap NoEviction)) : Prop where
  shaped : space.Shaped
  accounted : Accounted complete mem.descriptors space.owner
    (withSpare (space.extent? mem.ram) spare)
  linear : ∀ name g, space.segment? name = some g → ∀ page frame,
    mem.ram.page? space.directory page = some frame → g.backs frame = true →
      page.number + g.frame.number = g.page.number + frame.number
  entered : ∀ name g, space.segment? name = some g → ∀ page frame,
    mem.ram.page? space.directory page = some frame → g.backs frame = true →
      mem.ram.page? space.directory g.page ≠ none
  loaded : space.loaded = true → space.Loaded mem.ram
  directoryAdmitted : mem.ram.Admitted space.directory
  tablesAdmitted : ∀ i table, mem.ram.table? space.directory i = some table →
    mem.ram.Admitted table

variable {space : AddressSpace} {spare : Option Extent} {i j : DirectoryIndex}
  {page page' : VirtPage} {table : Frame} {name : SegmentName} {g : Segment}

/-- A frame lies in the run that a slot names. -/
def AddressSpace.Uses (space : AddressSpace) (spare : Option Extent) (ram : Ram)
    (slot : Option Slot) (frame : Frame) : Prop :=
  ∃ e, withSpare (space.extent? ram) spare slot = some e ∧ e.Covers frame.number

theorem uses_directory (ram : Ram) : space.Uses spare ram (some .directory) space.directory :=
  ⟨.ofFrame space.directory, AddressSpace.extent?_directory space ram,
    Extent.covers_ofFrame_iff.mpr rfl⟩

theorem uses_table {ram : Ram} (named : ram.table? space.directory i = some table) :
    space.Uses spare ram (some (.table i)) table := by
  refine ⟨.ofFrame table, ?_, Extent.covers_ofFrame_iff.mpr rfl⟩
  rw [withSpare_some, AddressSpace.extent?_table, named, Option.map_some]

theorem uses_spare (ram : Ram) : space.Uses (some (.ofFrame frame)) ram none frame :=
  ⟨.ofFrame frame, withSpare_none _ _, Extent.covers_ofFrame_iff.mpr rfl⟩

theorem Segment.backs_iff :
    g.backs frame = true ↔
      g.frame.number ≤ frame.number ∧ frame.number < g.frame.number + g.pages := by
  simp only [backs, Bool.and_eq_true, decide_eq_true_eq]
  omega

theorem uses_segment {ram : Ram} (found : space.segment? name = some g)
    (backs : g.backs frame = true) : space.Uses spare ram (some (.segment name)) frame := by
  refine ⟨⟨g.frame.number, g.pages⟩, ?_, Segment.backs_iff.mp backs⟩
  rw [withSpare_some, AddressSpace.extent?_segment, found, Option.map_some]

/-- A mapped frame lies in a slot of its own page or in the block of a segment. -/
theorem exists_uses_page (shaped : space.Shaped) {ram : Ram}
    (mapped : ram.page? space.directory page = some frame) :
    ∃ slot, space.Uses spare ram (some slot) frame ∧
      (slot = .page page ∨ ∃ name g, slot = .segment name ∧ space.segment? name = some g ∧
        g.backs frame = true) := by
  by_cases backs : space.segments.backs frame = true
  · obtain ⟨name, g, found, backed⟩ := shaped.backs_iff.mp backs
    exact ⟨_, uses_segment found backed, .inr ⟨name, g, rfl, found, backed⟩⟩
  · refine ⟨.page page, ⟨.ofFrame frame, ?_, Extent.covers_ofFrame_iff.mpr rfl⟩, .inl rfl⟩
    rw [withSpare_some, AddressSpace.extent?_page, mapped, Option.bind_some, if_neg backs]

/-- A memory in which the directory and the tables are the same maps alike. -/
theorem views_eq {ram ram' : Ram} {directory : Frame}
    (sameDirectory : Ram.SameFrame directory ram ram')
    (sameTables : ∀ i table, ram.table? directory i = some table → Ram.SameFrame table ram ram') :
    ram'.table? directory = ram.table? directory ∧ ram'.page? directory = ram.page? directory :=
  ⟨funext (Ram.table?_eq_of_sameFrame sameDirectory),
    funext (Ram.page?_eq_of_sameFrames sameDirectory sameTables)⟩

namespace Holds

theorem slot_eq (holds : Holds complete space spare mem) {slot slot' : Option Slot}
    (first : space.Uses spare mem.ram slot frame) (second : space.Uses spare mem.ram slot' frame) :
    slot = slot' := by
  obtain ⟨e, named, covers⟩ := first
  obtain ⟨e', named', covers'⟩ := second
  exact holds.accounted.slot_eq named named' covers covers'

/-- Every frame of a slot lies in a live block of the owner. -/
theorem exists_live (holds : Holds complete space spare mem) {slot : Option Slot}
    (uses : space.Uses spare mem.ram slot frame) :
    ∃ b, Live mem.descriptors b ∧ b.owner = space.owner ∧ b.Covers frame.number := by
  obtain ⟨e, named, covers⟩ := uses
  obtain ⟨id, live⟩ := holds.accounted.live slot e named
  exact ⟨_, live, rfl, covers⟩

/-- A frame belongs to one owner. -/
theorem owner_eq (holds : Holds complete space spare mem) {space' : AddressSpace}
    {spare' : Option Extent} (holds' : Holds complete' space' spare' mem)
    {slot slot' : Option Slot} (uses : space.Uses spare mem.ram slot frame)
    (uses' : space'.Uses spare' mem.ram slot' frame) : space.owner = space'.owner := by
  obtain ⟨b, live, mine, covers⟩ := holds.exists_live uses
  obtain ⟨b', live', mine', covers'⟩ := holds'.exists_live uses'
  rw [← mine, ← mine', live.eq_of_covers live' covers covers']

theorem table_ne_directory (holds : Holds complete space spare mem)
    (named : mem.ram.table? space.directory i = some table) : table ≠ space.directory := by
  rintro rfl
  have same := holds.slot_eq (uses_table named) (uses_directory mem.ram)
  cases same

theorem table_injective (holds : Holds complete space spare mem)
    (named : mem.ram.table? space.directory i = some table)
    (named' : mem.ram.table? space.directory j = some table) : i = j := by
  have same := holds.slot_eq (uses_table named) (uses_table named')
  cases same
  rfl

theorem page_ne_directory (holds : Holds complete space spare mem)
    (mapped : mem.ram.page? space.directory page = some frame) : frame ≠ space.directory := by
  rintro rfl
  obtain ⟨slot, uses, isPage⟩ := exists_uses_page holds.shaped mapped
  have same := holds.slot_eq uses (uses_directory mem.ram)
  rcases isPage with rfl | ⟨name, _, rfl, _⟩ <;> cases same

theorem page_ne_table (holds : Holds complete space spare mem)
    (mapped : mem.ram.page? space.directory page = some frame)
    (named : mem.ram.table? space.directory i = some table) : frame ≠ table := by
  rintro rfl
  obtain ⟨slot, uses, isPage⟩ := exists_uses_page holds.shaped mapped
  have same := holds.slot_eq uses (uses_table named)
  rcases isPage with rfl | ⟨name, _, rfl, _⟩ <;> cases same

/-- A frame is mapped at most once. -/
theorem page_injective (holds : Holds complete space spare mem)
    (mapped : mem.ram.page? space.directory page = some frame)
    (mapped' : mem.ram.page? space.directory page' = some frame) : page = page' := by
  obtain ⟨slot, uses, isPage⟩ := exists_uses_page holds.shaped mapped
  obtain ⟨slot', uses', isPage'⟩ := exists_uses_page holds.shaped mapped'
  have same := holds.slot_eq uses uses'
  rcases isPage with rfl | ⟨name, g, rfl, found, backs⟩
  · rcases isPage' with rfl | ⟨name', _, rfl, _⟩
    · cases same
      rfl
    · cases same
  · rcases isPage' with rfl | ⟨name', _, rfl, _, _⟩
    · cases same
    · have first := holds.linear name g found page frame mapped backs
      have second := holds.linear name g found page' frame mapped' backs
      exact Page.ext (by omega)

theorem backed_ne_directory (holds : Holds complete space spare mem)
    (found : space.segment? name = some g) (backs : g.backs frame = true) :
    frame ≠ space.directory := by
  rintro rfl
  have same := holds.slot_eq (uses_segment found backs) (uses_directory mem.ram)
  cases same

theorem backed_ne_table (holds : Holds complete space spare mem)
    (found : space.segment? name = some g) (backs : g.backs frame = true) (i : DirectoryIndex) :
    mem.ram.table? space.directory i ≠ some frame := by
  intro named
  have same := holds.slot_eq (uses_segment found backs) (uses_table named)
  cases same

/-- The block of a segment lies among the frames that a 32-bit RAM has. -/
theorem segment_within (holds : Holds complete space spare mem) (ready : mem.Ready left)
    (found : space.segment? name = some g) : g.frame.number + g.pages ≤ 0x100000 := by
  have named : withSpare (space.extent? mem.ram) spare (some (.segment name)) =
      some ⟨g.frame.number, g.pages⟩ := by
    rw [withSpare_some, AddressSpace.extent?_segment, found, Option.map_some]
  obtain ⟨id, live⟩ := holds.accounted.live _ _ named
  have within : g.frame.number + g.pages ≤ mem.descriptors.size := live.within
  have few : mem.descriptors.size ≤ 0x100000 := ready.coremap.sound.few
  exact Nat.le_trans within few

/-- The frames of a segment follow each other. -/
theorem number_segment_frame (holds : Holds complete space spare mem) (ready : mem.Ready left)
    (found : space.segment? name = some g) {k : Nat} (small : k < g.pages) :
    (g.frame.plus k).number = g.frame.number + k := by
  have within := holds.segment_within ready found
  exact Page.number_ofNumber_of_lt (by omega)

/-- Two places of a segment are two frames. -/
theorem segment_frame_ne (holds : Holds complete space spare mem) (ready : mem.Ready left)
    (found : space.segment? name = some g) {k k' : Nat} (small : k < g.pages)
    (small' : k' < g.pages) (different : k ≠ k') : g.frame.plus k ≠ g.frame.plus k' := by
  intro same
  have numbers := congrArg Page.number same
  rw [holds.number_segment_frame ready found small,
    holds.number_segment_frame ready found small'] at numbers
  omega

theorem backs_segment_frame (holds : Holds complete space spare mem) (ready : mem.Ready left)
    (found : space.segment? name = some g) {k : Nat} (small : k < g.pages) :
    g.backs (g.frame.plus k) = true := by
  rw [Segment.backs_iff, holds.number_segment_frame ready found small]
  omega

/-- Less may be said of a space. -/
theorem weaken (holds : Holds complete space spare mem) (less : complete' → complete) :
    Holds complete' space spare mem :=
  { holds with accounted := holds.accounted.weaken less }

/-- What depends on a space's own blocks and tables alone stays. -/
theorem congr (holds : Holds complete space spare mem)
    (live_iff : ∀ b, b.owner = space.owner → (Live mem'.descriptors b ↔ Live mem.descriptors b))
    (tables : mem'.ram.table? space.directory = mem.ram.table? space.directory)
    (pages : mem'.ram.page? space.directory = mem.ram.page? space.directory)
    (admitted : ∀ frame, mem.ram.Admitted frame → mem'.ram.Admitted frame) :
    Holds complete space spare mem' where
  shaped := holds.shaped
  accounted := by
    rw [AddressSpace.extent?_eq tables pages]
    exact holds.accounted.congr live_iff
  linear := by
    rw [pages]
    exact holds.linear
  entered := by
    rw [pages]
    exact holds.entered
  loaded isLoaded := by
    have loaded := holds.loaded isLoaded
    refine ⟨loaded.regions, loaded.stack, ?_⟩
    rw [pages]
    exact loaded.mapped
  directoryAdmitted := admitted _ holds.directoryAdmitted
  tablesAdmitted i table named :=
    admitted table (holds.tablesAdmitted i table ((congrFun tables i).symm.trans named))

/-- Naming another space changes nothing of those there are. -/
theorem renamed (holds : Holds complete space spare mem) (next : SpaceId) :
    Holds complete space spare { mem with nextSpace := next } :=
  holds.congr (fun _ _ => Iff.rfl) rfl rfl fun _ => id

/-- Another record of the space with the same segments. -/
theorem of_segments (holds : Holds complete space spare mem) {space' : AddressSpace}
    (owner : space'.owner = space.owner) (directory : space'.directory = space.directory)
    (segments : space'.segment? = space.segment?) (shaped : space'.Shaped)
    (unloaded : space'.loaded = false) : Holds complete space' spare mem where
  shaped := shaped
  accounted := by
    have backs (frame : Frame) : space'.segments.backs frame = space.segments.backs frame := by
      rw [Bool.eq_iff_iff, shaped.backs_iff, holds.shaped.backs_iff, segments]
    have extents : space'.extent? mem.ram = space.extent? mem.ram := by
      funext slot
      cases slot with
      | directory =>
        rw [AddressSpace.extent?_directory, AddressSpace.extent?_directory, directory]
      | table i => rw [AddressSpace.extent?_table, AddressSpace.extent?_table, directory]
      | segment name => rw [AddressSpace.extent?_segment, AddressSpace.extent?_segment, segments]
      | page page =>
        rw [AddressSpace.extent?_page, AddressSpace.extent?_page, directory]
        simp only [backs]
    rw [extents, owner]
    exact holds.accounted
  linear := by
    rw [segments, directory]
    exact holds.linear
  entered := by
    rw [segments, directory]
    exact holds.entered
  loaded isLoaded := by
    rw [unloaded] at isLoaded
    cases isLoaded
  directoryAdmitted := directory ▸ holds.directoryAdmitted
  tablesAdmitted := directory ▸ holds.tablesAdmitted

/-- Work for another owner leaves a space as it is. -/
theorem of_confined (holds : Holds complete space spare mem) (confined : mem.Confined owner mem')
    (others : space.owner ≠ owner) :
    Holds complete space spare mem' ∧
      mem'.ram.table? space.directory = mem.ram.table? space.directory ∧
      mem'.ram.page? space.directory = mem.ram.page? space.directory := by
  have same {slot : Option Slot} {frame : Frame}
      (uses : space.Uses spare mem.ram slot frame) : Ram.SameFrame frame mem.ram mem'.ram := by
    obtain ⟨b, live, mine, covers⟩ := holds.exists_live uses
    exact confined.same b live (mine ▸ others) frame covers
  have views := views_eq (same (uses_directory mem.ram)) fun i table named =>
    same (uses_table named)
  refine ⟨holds.congr (fun b mine => ?_) views.1 views.2 confined.admitted, views⟩
  exact confined.live_iff b (mine ▸ others)

/-- A write to a frame that is no table of the space leaves it as it is. -/
theorem of_write (holds : Holds complete space spare mem) {ram : Ram}
    (differ : Ram.DifferOn (· = frame) mem.ram ram) (notDirectory : space.directory ≠ frame)
    (notTable : ∀ i, mem.ram.table? space.directory i ≠ some frame) :
    Holds complete space spare { mem with ram := ram } ∧
      ram.table? space.directory = mem.ram.table? space.directory ∧
      ram.page? space.directory = mem.ram.page? space.directory := by
  have views := views_eq (differ.same _ notDirectory) fun i table named =>
    differ.same table fun same => notTable i (same ▸ named)
  exact ⟨holds.congr (fun _ _ => Iff.rfl) views.1 views.2 differ.admitted, views⟩

end Holds

end PagedMemory
