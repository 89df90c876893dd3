import PagedMemory.Proofs.Space.Supply

/-!
# How tables grow

While a space is walked, loaded or backed page by page, its tables grow: a table
or a page that is there stays, a table that is new lies on a frame that no block
had, and the frames of all blocks keep their bytes, but for the tables
themselves and for what is overwritten on purpose. A table that is missing is
added so, or nothing is changed.
-/

namespace PagedMemory

variable {mem mem' mem'' : Memory (Coremap NoEviction)} {owner : Owner} {left : Nat}
  {context : Option Context} {directory frame table : Frame} {b : Block} {space : AddressSpace}
  {spare : Option Extent} {written written' : Frame → Prop} {page : VirtPage}
  {address : VirtAddr} {complete : Prop}

namespace Memory

/-- What one memory has become of another while the tables of a directory grew
and the frames in `written` were overwritten. -/
structure Extended (owner : Owner) (directory : Frame) (written : Frame → Prop)
    (mem mem' : Memory (Coremap NoEviction)) : Prop where
  confined : mem.Confined owner mem'
  live : ∀ b, Live mem.descriptors b → Live mem'.descriptors b
  tables : ∀ i table, mem.ram.table? directory i = some table →
    mem'.ram.table? directory i = some table
  fresh : ∀ i table, mem'.ram.table? directory i = some table →
    mem.ram.table? directory i = some table ∨
      ∀ b, Live mem.descriptors b → ¬ b.Covers table.number
  pages : ∀ page frame, mem.ram.page? directory page = some frame →
    mem'.ram.page? directory page = some frame
  same : ∀ b, Live mem.descriptors b → ∀ frame : Frame, b.Covers frame.number →
    frame ≠ directory → (∀ i, mem.ram.table? directory i ≠ some frame) → ¬ written frame →
      Ram.SameFrame frame mem.ram mem'.ram

namespace Extended

protected theorem refl (owner : Owner) (directory : Frame) (written : Frame → Prop)
    (mem : Memory (Coremap NoEviction)) : Extended owner directory written mem mem where
  confined := .refl owner mem
  live _ live := live
  tables _ _ named := named
  fresh _ _ named := .inl named
  pages _ _ mapped := mapped
  same _ _ frame _ _ _ _ := .refl frame mem.ram

/-- Of what is overwritten later, only the frames count that had a block. -/
theorem trans (first : Extended owner directory written mem mem')
    (second : Extended owner directory written' mem' mem'')
    (sub : ∀ b, Live mem.descriptors b → ∀ frame : Frame, b.Covers frame.number →
      written' frame → written frame) :
    Extended owner directory written mem mem'' where
  confined := first.confined.trans second.confined
  live b live := second.live b (first.live b live)
  tables i table named := second.tables i table (first.tables i table named)
  fresh i table named := by
    rcases second.fresh i table named with old | new
    · exact first.fresh i table old
    · exact .inr fun b live => new b (first.live b live)
  pages page frame mapped := second.pages page frame (first.pages page frame mapped)
  same b live frame covers notDirectory notTable outside := by
    have notTable' (i : DirectoryIndex) : mem'.ram.table? directory i ≠ some frame := by
      intro named
      rcases first.fresh i frame named with old | new
      · exact notTable i old
      · exact new b live covers
    exact (first.same b live frame covers notDirectory notTable outside).trans
      (second.same b (first.live b live) frame covers notDirectory notTable'
        fun inside => outside (sub b live frame covers inside))

theorem of_took (took : Took b mem mem' left) (mine : b.owner = owner) (directory : Frame)
    (written : Frame → Prop) : Extended owner directory written mem mem' where
  confined := mine ▸ took.confined
  live d live := (took.live_iff d).mpr (.inr live)
  tables _ _ := by rw [took.ram]; exact id
  fresh _ _ := by rw [took.ram]; exact .inl
  pages _ _ := by rw [took.ram]; exact id
  same _ _ frame _ _ _ _ := by rw [took.ram]; exact .refl frame mem.ram

/-- A frame of the owner is overwritten that is no table. -/
theorem of_write (live : Live mem.descriptors b) (mine : b.owner = owner)
    (covers : b.Covers frame.number) {ram : Ram} (differ : Ram.DifferOn (· = frame) mem.ram ram)
    (notDirectory : directory ≠ frame) (notTable : ∀ i, mem.ram.table? directory i ≠ some frame) :
    Extended owner directory (· = frame) mem { mem with ram := ram } := by
  have views := views_eq (differ.same _ notDirectory) fun i table named =>
    differ.same table fun same => notTable i (same ▸ named)
  exact {
    confined := .of_write live mine covers differ
    live := fun _ => id
    tables := fun i table named => (congrFun views.1 i).trans named
    fresh := fun i table named => .inl ((congrFun views.1 i).symm.trans named)
    pages := fun page frame mapped => (congrFun views.2 page).trans mapped
    same := fun _ _ other _ _ _ outside => differ.same other outside }

theorem mono (extended : Extended owner directory written mem mem')
    (sub : ∀ b, Live mem.descriptors b → ∀ frame : Frame, b.Covers frame.number →
      written frame → written' frame) :
    Extended owner directory written' mem mem' :=
  (Extended.refl owner directory written' mem).trans extended sub

end Extended

end Memory

/-! ## Tables -/

namespace Holds

/-- A spare run is no part of any other slot. -/
theorem ne_of_vacant (holds : Holds complete space spare mem) (vacant : Vacant mem.descriptors b)
    (covers : b.Covers table.number) {slot : Option Slot}
    (uses : space.Uses spare mem.ram slot frame) : frame ≠ table := by
  rintro rfl
  obtain ⟨d, live, _, coversFrame⟩ := holds.exists_live uses
  exact vacant.not_covers live coversFrame covers

/-- A table that was taken and is named belongs to the space. -/
theorem name_table (holds : Holds complete space spare mem) {id : BlockId} {i : DirectoryIndex}
    (took : Memory.Took ⟨table.number, 1, space.owner, id⟩ mem mem' left) {ram : Ram}
    (unnamed : mem.ram.table? space.directory i = none)
    (tables : ram.table? space.directory =
      Function.update (mem.ram.table? space.directory) i (some table))
    (pages : ram.page? space.directory = mem.ram.page? space.directory)
    (admitted : ∀ frame, mem.ram.Admitted frame → ram.Admitted frame)
    (tableAdmitted : ram.Admitted table) :
    Holds complete space spare { mem' with ram := ram } where
  shaped := holds.shaped
  accounted := by
    rw [AddressSpace.extent?_of_table tables pages, ← update_withSpare_some]
    have empty : withSpare (space.extent? mem.ram) spare (some (.table i)) = none := by
      rw [withSpare_some, AddressSpace.extent?_table, unnamed, Option.map_none]
    exact took.descriptors.symm ▸ holds.accounted.grant took.vacant rfl empty
  linear := by
    rw [pages]
    exact holds.linear
  entered := by
    rw [pages]
    exact holds.entered
  loaded isLoaded := by
    have loaded := holds.loaded isLoaded
    refine ⟨loaded.regions, loaded.stack, ?_⟩
    rw [pages]
    exact loaded.mapped
  directoryAdmitted := admitted _ holds.directoryAdmitted
  tablesAdmitted j other named := by
    rw [tables] at named
    rcases update_eq_some_iff.mp named with ⟨_, ⟨⟩⟩ | ⟨_, old⟩
    · exact tableAdmitted
    · exact admitted other (holds.tablesAdmitted j other old)

end Holds

namespace Memory

/-- A frame that was taken for a space, cleared and named in its directory is a
table of the space. -/
theorem extended_of_table (holds : Holds complete space spare mem) {id : BlockId}
    {i : DirectoryIndex} (took : Took ⟨table.number, 1, space.owner, id⟩ mem mem' left)
    (unnamed : mem.ram.table? space.directory i = none) {ram ram' : Ram}
    (differ : Ram.DifferOn (· = table) mem.ram ram)
    (differDirectory : Ram.DifferOn (· = space.directory) ram ram')
    (tables : ram'.table? space.directory =
      Function.update (mem.ram.table? space.directory) i (some table))
    (pages : ram'.page? space.directory = mem.ram.page? space.directory) :
    Extended space.owner space.directory (fun _ => False) mem { mem' with ram := ram' } := by
  obtain ⟨d, live, mine, coversDirectory⟩ := holds.exists_live (uses_directory mem.ram)
  have covers : Block.Covers ⟨table.number, 1, space.owner, id⟩ table.number :=
    Block.covers_base took.vacant.nonempty
  constructor
  case confined =>
    have cleared : mem.Confined space.owner { mem' with ram := ram } :=
      took.confined.trans (.of_write took.live rfl covers (took.ram.symm ▸ differ))
    have stillLive : Live (descriptors { mem' with ram := ram }) d :=
      (took.live_iff d).mpr (.inr live)
    exact cleared.trans (.of_write stillLive mine coversDirectory differDirectory)
  case live => exact fun d live => (took.live_iff d).mpr (.inr live)
  case tables =>
    intro j other named
    rw [tables]
    exact update_eq_some_of_vacant unnamed named
  case fresh =>
    intro j other named
    rw [tables] at named
    rcases update_eq_some_iff.mp named with ⟨_, ⟨⟩⟩ | ⟨_, old⟩
    · exact .inr fun d live coversTable => took.vacant.not_covers live coversTable covers
    · exact .inl old
  case pages =>
    intro page frame mapped
    rw [pages, mapped]
  case same =>
    intro d live frame coversFrame notDirectory _ _
    have notNew : frame ≠ table := by
      rintro rfl
      exact took.vacant.not_covers live coversFrame covers
    exact (differ.same frame notNew).trans (differDirectory.same frame notDirectory)

theorem views_of_table (ready : mem.Ready left) (holds : Holds complete space spare mem)
    {i : DirectoryIndex} (vacant : Vacant mem.descriptors b) (covers : b.Covers table.number)
    (unnamed : mem.ram.table? space.directory i = none) {ram : Ram}
    (differ : Ram.DifferOn (· = table) mem.ram ram) (isClear : ram.ClearFrame table) :
    (ram.setDirectoryEntry space.directory i (.table table)).table? space.directory =
        Function.update (mem.ram.table? space.directory) i (some table) ∧
      (ram.setDirectoryEntry space.directory i (.table table)).page? space.directory =
        mem.ram.page? space.directory := by
  have notDirectory : space.directory ≠ table :=
    holds.ne_of_vacant vacant covers (uses_directory mem.ram)
  obtain ⟨sameTables, samePages⟩ := views_eq (differ.same _ notDirectory) fun j other named =>
    differ.same other (holds.ne_of_vacant vacant covers (uses_table named))
  obtain ⟨d, live, mine, coversDirectory⟩ := holds.exists_live (uses_directory mem.ram)
  have within : space.directory.number * 4096 + 4096 ≤ ram.size := by
    rw [differ.size]
    exact ready.within live coversDirectory
  constructor
  · rw [Ram.table?_setDirectoryEntry_table within, sameTables]
  · rw [Ram.page?_setDirectoryEntry within ((congrFun sameTables i).trans unnamed) isClear
      (Ne.symm notDirectory), samePages]
    rintro j other named rfl
    exact holds.table_ne_directory ((congrFun sameTables j).symm.trans named) rfl

theorem ends_ensureTable (ready : mem.Ready left) (holds : Holds complete space spare mem) :
    (space.ensureTable (Coremap.source context) address).Ends left mem
      ⟨fun table mem' left => mem'.Ready left ∧ Holds complete space spare mem' ∧
          Extended space.owner space.directory (fun _ => False) mem mem' ∧
          mem'.ram.table? space.directory =
            Function.update (mem.ram.table? space.directory) (.ofAddr address) (some table) ∧
          mem'.ram.page? space.directory = mem.ram.page? space.directory,
        fun e mem' left => e = .outOfMemory ⟨1⟩ ∧ Coremap.Starved mem.descriptors 1 ∧
          mem.ram.table? space.directory (.ofAddr address) = none ∧ Unchanged mem mem' left,
        fun _ => Refused (¬ Able context mem) space.owner mem⟩ := by
  unfold AddressSpace.ensureTable
  refine Operation.ends_bind.mpr (ends_onRam.mpr (Ram.ends_walk ?_ fun _ => ?_))
  · exact fun denied => absurd holds.directoryAdmitted denied
  rcases named : mem.ram.table? space.directory (.ofAddr address) with _ | table
  · apply ends_allocateSingle_zeroFrame_of_ready ready
    · exact fun _ _ => id
    · exact fun mem1 left1 starved same => ⟨rfl, starved, rfl, same⟩
    · intro table id mem1 ram left1 took covers differ isClear admitted
      refine Operation.ends_bind.mpr (ends_onRam.mpr (Ram.ends_writeDirectory ?_ ?_))
      · exact fun denied => absurd (differ.admitted _ holds.directoryAdmitted) denied
      refine Operation.ends_bind.mpr (Operation.ends_log.mpr (Operation.ends_pure.mpr ?_))
      obtain ⟨tables, pages⟩ := views_of_table ready holds took.vacant covers named differ isClear
      have differDirectory := Ram.differOn_setDirectoryEntry ram space.directory
        (.ofAddr address) (.table table)
      have extended := extended_of_table holds took named differ differDirectory tables pages
      have still (frame : Frame) (before : mem.ram.Admitted frame) :=
        differDirectory.admitted frame (differ.admitted frame before)
      dsimp only
      exact ⟨extended.confined.ready took.ready.coremap ready,
        holds.name_table took named tables pages still (differDirectory.admitted table admitted),
        extended, tables, pages⟩
  · refine Operation.ends_pure.mpr ⟨ready, holds, .refl _ _ _ mem, ?_, rfl⟩
    exact (Function.update_eq_self_iff.mpr named.symm).symm

end Memory

end PagedMemory
