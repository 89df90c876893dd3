import PagedMemory.Proofs.Coremap.Consultation
import PagedMemory.Proofs.PartialMaps
import PagedMemory.Proofs.Space.Sources

/-!
# Backing a page while frames are taken away

A page is backed by two allocations if no table covers it yet: one for its frame and one
for the table. Under a policy that gives up neither the directories nor the tables of
spaces, these stay where they are, and the frame and the table are two frames, unless
the policy gives up the frame that was just allocated: between the two allocations no
table leads to it, and the second may take it away.
-/

namespace PagedMemory

open Coremap (Consulted GivesUp Granted)

variable {π : Type} [EvictionPolicy π]

theorem Block.covers_single {n i : Nat} {owner : Owner} {id : BlockId} :
    Block.Covers ⟨n, 1, owner, id⟩ i ↔ i = n := by
  change n ≤ i ∧ i < n + 1 ↔ i = n
  omega

/-- A frame holds the directory of a space or one of its tables. -/
def AddressSpace.Serves (space : AddressSpace) (ram : Ram) (frame : Frame) : Prop :=
  frame = space.directory ∨ ∃ i, ram.table? space.directory i = some frame

namespace Memory

variable {spaces : List AddressSpace} {mem mem' : Memory (Coremap π)} {space : AddressSpace}
  {frame table : Frame} {ram : Ram} {t : Coremap π} {b : Block} {victims : List Block}
  {address : VirtAddr} {context : Option Context} {left : Nat}

/-- The directories and the tables of some spaces are single frames in use for the space,
no directory is a table, and each space has a directory of its own. -/
structure Housed (spaces : List AddressSpace) (mem : Memory (Coremap π)) : Prop where
  sound : mem.frames.Sound
  covered : mem.frames.frames.size * 4096 ≤ mem.ram.size
  held : ∀ space ∈ spaces, ∀ frame, space.Serves mem.ram frame →
    ∃ id, Live mem.frames.frames ⟨frame.number, 1, space.owner, id⟩
  apart : ∀ space ∈ spaces, ∀ other ∈ spaces, ∀ i table,
    mem.ram.table? space.directory i = some table → other.directory ≠ table
  alone : ∀ space ∈ spaces, ∀ other ∈ spaces, other.directory = space.directory → other = space

/-- The policy gives up no directory and no table of some spaces. -/
def Spares (spaces : List AddressSpace) (mem : Memory (Coremap π)) : Prop :=
  ∀ space ∈ spaces, ∀ frame, space.Serves mem.ram frame →
    ∀ descriptor, mem.frames.frames[frame.number]? = some descriptor →
      ¬ GivesUp mem.frames.policy frame descriptor

omit [EvictionPolicy π] in
theorem Housed.within (housed : Housed spaces mem) (inList : space ∈ spaces) :
    space.directory.number * 4096 + 4096 ≤ mem.ram.size := by
  obtain ⟨id, live⟩ := housed.held space inList space.directory (.inl rfl)
  calc space.directory.number * 4096 + 4096
    _ = (space.directory.number + 1) * 4096 := (Nat.succ_mul _ _).symm
    _ ≤ mem.frames.frames.size * 4096 := Nat.mul_le_mul_right 4096 live.within
    _ ≤ mem.ram.size := housed.covered

/-! ## Writes -/

variable {written : Frame → Prop}

omit [EvictionPolicy π] in
/-- The tables are the same after writes to frames that hold no directory. -/
theorem table?_of_write (differ : Ram.DifferOn written mem.ram ram)
    (away : ¬ written space.directory) :
    ram.table? space.directory = mem.ram.table? space.directory :=
  funext (Ram.table?_eq_of_sameFrame (differ.same _ away))

omit [EvictionPolicy π] in
theorem serves_of_write (differ : Ram.DifferOn written mem.ram ram)
    (away : ¬ written space.directory) (other : Frame) :
    space.Serves ram other ↔ space.Serves mem.ram other := by
  rw [AddressSpace.Serves, AddressSpace.Serves, table?_of_write differ away]

omit [EvictionPolicy π] in
theorem Housed.write (housed : Housed spaces mem) (differ : Ram.DifferOn written mem.ram ram)
    (away : ∀ space ∈ spaces, ¬ written space.directory) :
    Housed spaces { mem with ram := ram } where
  sound := housed.sound
  covered := differ.size ▸ housed.covered
  held space inList other serves :=
    housed.held space inList other ((serves_of_write differ (away space inList) other).mp serves)
  apart space inList other isOther i table named := by
    rw [table?_of_write differ (away space inList)] at named
    exact housed.apart space inList other isOther i table named
  alone := housed.alone

theorem Spares.write (spares : Spares spaces mem) (differ : Ram.DifferOn written mem.ram ram)
    (away : ∀ space ∈ spaces, ¬ written space.directory) :
    Spares spaces { mem with ram := ram } := fun space inList other serves =>
  spares space inList other ((serves_of_write differ (away space inList) other).mp serves)

omit [EvictionPolicy π] in
/-- A frame that is in use for a space and holds no directory may become a table of it. -/
theorem Housed.enter (housed : Housed spaces mem) (inList : space ∈ spaces) {id : BlockId}
    (live : Live mem.frames.frames ⟨table.number, 1, space.owner, id⟩)
    (away : ∀ space ∈ spaces, space.directory ≠ table) {i : DirectoryIndex}
    (differ : Ram.DifferOn (· = space.directory) mem.ram ram)
    (updated : ram.table? space.directory =
      Function.update (mem.ram.table? space.directory) i (some table)) :
    Housed spaces { mem with ram := ram } := by
  have named (other : AddressSpace) (isOther : other ∈ spaces) (j : DirectoryIndex) (found : Frame)
      (isNamed : ram.table? other.directory j = some found) :
      other = space ∧ found = table ∨ mem.ram.table? other.directory j = some found := by
    by_cases same : other.directory = space.directory
    · have isSpace := housed.alone space inList other isOther same
      rw [same, updated] at isNamed
      rcases update_eq_some_iff.mp isNamed with ⟨_, ⟨⟩⟩ | ⟨_, old⟩
      · exact .inl ⟨isSpace, rfl⟩
      · exact .inr (same ▸ old)
    · rw [table?_of_write differ same] at isNamed
      exact .inr isNamed
  constructor
  case sound => exact housed.sound
  case covered => exact differ.size ▸ housed.covered
  case held =>
    rintro other isOther found (isDirectory | ⟨j, isNamed⟩)
    · exact housed.held other isOther found (.inl isDirectory)
    · rcases named other isOther j found isNamed with ⟨isSpace, isTable⟩ | before
      · exact ⟨id, isSpace ▸ isTable ▸ live⟩
      · exact housed.held other isOther found (.inr ⟨j, before⟩)
  case apart =>
    intro other isOther third isThird j found isNamed
    rcases named other isOther j found isNamed with ⟨_, isTable⟩ | before
    · exact isTable ▸ away third isThird
    · exact housed.apart other isOther third isThird j found before
  case alone => exact housed.alone

/-! ## Allocations -/

/-- The directories and tables stay where they are when a block is allocated, and the block
has none of their frames. -/
theorem Housed.granted (housed : Housed spaces mem) (spares : Spares spaces mem)
    (granted : Granted mem.frames t b victims) :
    Housed spaces { mem with frames := t } ∧ Spares spaces { mem with frames := t } ∧
      ∀ space ∈ spaces, ∀ frame, space.Serves mem.ram frame → ¬ b.Covers frame.number := by
  have kept (space : AddressSpace) (inList : space ∈ spaces) (frame : Frame)
      (serves : space.Serves mem.ram frame) : ∃ id,
        Live mem.frames.frames ⟨frame.number, 1, space.owner, id⟩ ∧
          Live t.frames ⟨frame.number, 1, space.owner, id⟩ := by
    obtain ⟨id, live⟩ := housed.held space inList frame serves
    refine ⟨id, live, granted.kept live fun i _ covers givenUp => ?_⟩
    obtain rfl := Block.covers_single.mp covers
    refine spares space inList frame serves _ (live.recorded _ covers) ?_
    rwa [Page.ofNumber_number] at givenUp
  refine ⟨⟨granted.sound, ?_, ?_, housed.apart, housed.alone⟩, ?_, ?_⟩
  · rw [granted.size_eq housed.sound]
    exact housed.covered
  · intro space inList frame serves
    obtain ⟨id, _, live⟩ := kept space inList frame serves
    exact ⟨id, live⟩
  · intro space inList frame serves descriptor recorded givenUp
    obtain ⟨id, before, after⟩ := kept space inList frame serves
    have covers := Block.covers_base before.nonempty
    refine spares space inList frame serves descriptor ?_ (granted.consulted.givesUp givenUp)
    rw [before.recorded _ covers, ← after.recorded _ covers]
    exact recorded
  · intro space inList frame serves
    obtain ⟨id, before, after⟩ := kept space inList frame serves
    exact granted.apart before after _ (Block.covers_base before.nonempty)

/-! ## Extending the tables of a space -/

/-- The table that covers an address, when it is needed: it is there, or it is a frame that
was allocated for it. -/
structure Covered (spaces : List AddressSpace) (space : AddressSpace) (address : VirtAddr)
    (mem mem' : Memory (Coremap π)) (table : Frame) : Prop where
  housed : Housed spaces mem'
  named : mem'.ram.table? space.directory (.ofAddr address) = some table
  admitted : mem'.ram.Admitted space.directory
  source : mem' = mem ∨ mem.ram.table? space.directory (.ofAddr address) = none ∧
    ∃ victims, Granted mem.frames mem'.frames
      ⟨table.number, 1, space.owner, mem.frames.nextBlock⟩ victims

omit [EvictionPolicy π] in
theorem Housed.missed (housed : Housed spaces mem) (room : mem.frames.Room 1) (policy : π) :
    Housed spaces { mem with
      frames := { mem.frames with nextBlock := mem.frames.nextBlock.succ, policy := policy } } where
  sound := by
    have sound := housed.sound.advance 0 room
    exact ⟨sound.tiled, sound.size_eq, sound.few, sound.positive, sound.drawn, sound.cursor,
      sound.unlocked⟩
  covered := housed.covered
  held := housed.held
  apart := housed.apart
  alone := housed.alone

theorem ends_ensureTable_housed (housed : Housed spaces mem) (spares : Spares spaces mem)
    (room : mem.frames.Room 1) (inList : space ∈ spaces) :
    (space.ensureTable (Coremap.source context) address).Ends left mem
      ⟨fun table mem' _ => Covered spaces space address mem mem' table,
        fun _ mem' _ => ∃ policy, mem' = { mem with frames := { mem.frames with
          nextBlock := mem.frames.nextBlock.succ, policy := policy } },
        fun _ _ => True⟩ := by
  apply ends_ensureTable_of
  · exact fun _ _ => trivial
  · exact fun admitted table named => ⟨housed, named, admitted, .inl rfl⟩
  intro admitted unnamed
  refine (Coremap.ends_allocate_granted housed.sound room).mono ?_ ?_ (fun _ _ => id)
  · rintro table frames _ ⟨victims, granted⟩
    refine ⟨fun _ _ => trivial, fun ram differ _ => ?_⟩
    obtain ⟨housed1, _, untouched⟩ := housed.granted spares granted
    have away (other : AddressSpace) (isOther : other ∈ spaces) : other.directory ≠ table := by
      intro same
      exact untouched other isOther other.directory (.inl rfl)
        (same ▸ Block.covers_base granted.live.nonempty)
    have housed2 := housed1.write differ away
    have entered := Ram.differOn_setDirectoryEntry ram space.directory (.ofAddr address)
      (.table table)
    have updated :=
      Ram.table?_setDirectoryEntry_table (housed2.within inList) (.ofAddr address) table
    generalize ram.setDirectoryEntry space.directory (.ofAddr address) (.table table) = ram' at *
    refine ⟨housed2.enter inList granted.live away entered updated, ?_, ?_, .inr ⟨unnamed, ?_⟩⟩
    · exact (congrFun updated _).trans (Function.update_self _ _ _)
    · exact entered.admitted _ (differ.admitted _ admitted)
    · exact ⟨victims, granted⟩
  · rintro e frames _ ⟨policy, rfl⟩
    exact ⟨policy, rfl⟩

/-! ## Backing a page -/

/-- How the frame of a page and the table that covers it are held when the page was backed.
They are two frames of two blocks, or else the frame was given up while the table was
allocated. -/
structure Backed (space : AddressSpace) (address : VirtAddr) (mem mem' : Memory (Coremap π))
    (frame table : Frame) (id id' : BlockId) : Prop where
  named : mem'.ram.table? space.directory (.ofAddr address) = some table
  frame_live : Live mem'.frames.frames ⟨frame.number, 1, space.owner, id⟩
  table_live : Live mem'.frames.frames ⟨table.number, 1, space.owner, id'⟩
  apart_or : frame ≠ table ∧ id ≠ id' ∨
    frame = table ∧ mem.ram.table? space.directory (.ofAddr address) = none ∧
      GivesUp mem.frames.policy frame (.inUse space.owner mem.frames.nextBlock 1)

omit [EvictionPolicy π] in
theorem id_ne_of_live {frames : Array Descriptor} {owner : Owner} {id id' : BlockId}
    (first : Live frames ⟨frame.number, 1, owner, id⟩)
    (second : Live frames ⟨table.number, 1, owner, id'⟩) (different : frame ≠ table) :
    id ≠ id' := by
  rintro rfl
  exact different (Page.ext (congrArg Block.base (first.eq_of_id second rfl)))

/-- What has become of a frame that had just been allocated when a table was needed. -/
theorem Covered.backed {mem1 mem2 : Memory (Coremap π)} {c : Coremap π}
    (covered : Covered spaces space address mem1 mem2 table) (inList : space ∈ spaces)
    (granted : Granted c mem1.frames ⟨frame.number, 1, space.owner, c.nextBlock⟩ victims)
    (untouched : mem1.ram.table? space.directory (.ofAddr address) ≠ some frame) :
    ∃ id id', Live mem2.frames.frames ⟨frame.number, 1, space.owner, id⟩ ∧
      Live mem2.frames.frames ⟨table.number, 1, space.owner, id'⟩ ∧
      (frame ≠ table ∧ id ≠ id' ∨
        frame = table ∧ mem1.ram.table? space.directory (.ofAddr address) = none ∧
          GivesUp c.policy frame (.inUse space.owner c.nextBlock 1)) := by
  obtain ⟨id', tableLive⟩ := covered.housed.held space inList table (.inr ⟨_, covered.named⟩)
  rcases covered.source with rfl | ⟨unnamed, victims', granted'⟩
  · have different : frame ≠ table := by
      rintro rfl
      exact untouched covered.named
    exact ⟨c.nextBlock, id', granted.live, tableLive,
      .inl ⟨different, id_ne_of_live granted.live tableLive different⟩⟩
  by_cases same : frame = table
  · refine ⟨id', id', same ▸ tableLive, tableLive, .inr ⟨same, unnamed, ?_⟩⟩
    -- Had the policy not given the frame up, its block would still be there.
    by_contra spared
    have kept : Live mem2.frames.frames ⟨frame.number, 1, space.owner, c.nextBlock⟩ := by
      refine granted'.kept granted.live fun i _ inFrame givenUp => spared ?_
      rw [Block.covers_single.mp inFrame, Page.ofNumber_number] at givenUp
      exact granted.consulted.givesUp givenUp
    exact granted'.apart granted.live kept frame.number (Block.covers_single.mpr rfl)
      (Block.covers_single.mpr (congrArg Page.number same))
  · have kept : Live mem2.frames.frames ⟨frame.number, 1, space.owner, c.nextBlock⟩ := by
      refine granted'.kept granted.live fun i inTable inFrame _ => same (Page.ext ?_)
      exact (Block.covers_single.mp inFrame).symm.trans (Block.covers_single.mp inTable)
    exact ⟨c.nextBlock, id', kept, tableLive, .inl ⟨same, id_ne_of_live kept tableLive same⟩⟩

omit [EvictionPolicy π] in
/-- Giving back a frame that holds no directory and no table. -/
theorem Housed.freed (housed : Housed spaces mem) (live : Live mem.frames.frames b)
    (untouched : ∀ space ∈ spaces, ∀ frame, space.Serves mem.ram frame →
      ¬ b.Covers frame.number) :
    Housed spaces { mem with
      frames := { mem.frames with
        frames := Coremap.fill .free mem.frames.frames b.base b.size, cursor := b.base } } where
  sound := housed.sound.free live
  covered := (Coremap.size_fill _ _ _ _).symm ▸ housed.covered
  held space inList frame serves := by
    obtain ⟨id, before⟩ := housed.held space inList frame serves
    refine ⟨id, live.live_fill_free_iff.mpr ⟨before, ?_⟩⟩
    rintro rfl
    exact untouched space inList frame serves (Block.covers_single.mpr rfl)
  apart := housed.apart
  alone := housed.alone

theorem ends_materialize_housed (housed : Housed spaces mem) (spares : Spares spaces mem)
    (room : mem.frames.Room 2) (inList : space ∈ spaces) :
    (space.materialize (Coremap.source context) address).Ends left mem
      ⟨fun frame mem' _ => Housed spaces mem' ∧ mem'.ram.Admitted space.directory ∧
          ∃ table id id', Backed space address mem mem' frame table id id',
        fun _ mem' _ => Housed spaces mem',
        fun _ _ => True⟩ := by
  apply ends_materialize_of
  have room1 : mem.frames.Room 1 := by
    unfold Coremap.Room at room ⊢
    omega
  refine (Coremap.ends_allocate_granted housed.sound room1).mono ?_ ?_ (fun _ _ => id)
  · rintro frame frames _ ⟨victims, granted⟩
    refine ⟨fun _ _ => trivial, fun ram differ _ _ => ?_⟩
    obtain ⟨housed1, spares1, untouched⟩ := housed.granted spares granted
    have away (other : AddressSpace) (isOther : other ∈ spaces) : other.directory ≠ frame := by
      rintro rfl
      exact untouched other isOther other.directory (.inl rfl) (Block.covers_single.mpr rfl)
    have housed2 := housed1.write differ away
    have spares2 := spares1.write differ away
    have sameTables := table?_of_write differ (away space inList)
    apply ends_mapPage_of
    refine (ends_ensureTable_housed housed2 spares2 (granted.room room) inList).mono ?_ ?_
      (fun _ _ => id)
    · rintro table mem3 _ covered
      refine ⟨fun _ _ => trivial, fun _ => trivial, fun _ _ => ?_⟩
      have entered := Ram.differOn_setTableEntry mem3.ram table (.ofPage address.page)
        (.mapping frame)
      generalize mem3.ram.setTableEntry table (.ofPage address.page) (.mapping frame) = ram' at *
      have notTable (other : AddressSpace) (isOther : other ∈ spaces) : other.directory ≠ table :=
        covered.housed.apart space inList other isOther _ table covered.named
      have unmoved := table?_of_write entered (notTable space inList)
      obtain ⟨id, id', frameLive, tableLive, apart⟩ := covered.backed inList granted
        fun named => untouched space inList frame (.inr ⟨_, sameTables ▸ named⟩)
          (Block.covers_single.mpr rfl)
      have named := covered.named
      rw [DirectoryIndex.ofAddr_base] at named apart
      rw [sameTables] at apart
      exact ⟨covered.housed.write entered notTable, entered.admitted _ covered.admitted, table, id,
        id', (congrFun unmoved _).trans named, frameLive, tableLive, apart⟩
    · rintro e mem3 _ ⟨policy, rfl⟩
      have housed3 := housed2.missed (granted.room room) policy
      refine (Coremap.ends_releaseBlock_of_live housed3.sound.unlocked granted.live rfl
        fun _ => rfl).mono ?_ (fun _ _ _ => id) (fun _ _ _ => trivial)
      rintro ⟨⟩ t _ ⟨_, rfl⟩
      refine housed3.freed granted.live fun other isOther found serves => ?_
      exact untouched other isOther found
        ((serves_of_write differ (away other isOther) found).mp serves)
  · rintro e frames _ ⟨policy, rfl⟩
    exact housed.missed room1 policy

end Memory

end PagedMemory
