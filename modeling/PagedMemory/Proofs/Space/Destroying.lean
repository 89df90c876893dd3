import PagedMemory.Proofs.Space.Supply
import PagedMemory.Proofs.Space.Visiting

/-!
# Destroying a space

What a space gives back is the account of its owner, slot by slot: the pages and
the table of each directory entry, then the segments, then the directory. The
loops keep as their invariant that the slots that are still to come are the
account of what is left. RAM is only read, so the tables say to the end what
they said at the beginning, and no identity is drawn.
-/

namespace PagedMemory

variable {mem mem' : Memory (Coremap NoEviction)} {left most : Nat} {context : Option Context}
  {space : AddressSpace} {b : Block} {complete : Prop}

/-- No segment comes twice. -/
theorem AddressSpace.Shaped.nodup_segments (shaped : space.Shaped) :
    space.segments.toList.Nodup := by
  have byName : [SegmentName.region 0, .region 1, .stack].filterMap space.segment? =
      space.segments.toList := rfl
  rw [← byName]
  apply List.Nodup.filterMap
  · exact fun name name' g found found' => shaped.segment_injective found found'
  · decide

/-- The slots that are kept, and nothing in the others. -/
def onlyKept (kept : Slot → Bool) (place : Slot → Option Extent) : Slot → Option Extent :=
  fun slot => if kept slot then place slot else none

/-- What is left of a space of which only the slots in `kept` were not given
back. -/
structure Dissolved (complete : Prop) (space : AddressSpace) (mem : Memory (Coremap NoEviction))
    (kept : Slot → Bool) (mem' : Memory (Coremap NoEviction)) (left : Nat) : Prop where
  ready : mem'.Ready left
  ram : mem'.ram = mem.ram
  confined : mem.Confined space.owner mem'
  live : ∀ b, Live mem'.descriptors b → Live mem.descriptors b
  accounted :
    Accounted complete mem'.descriptors space.owner (onlyKept kept (space.extent? mem.ram))

namespace Dissolved

variable {kept kept' : Slot → Bool} {slot : Slot} {e : Extent}

/-- Nothing was given back yet. -/
theorem start (ready : mem.Ready left) (holds : Holds complete space none mem) :
    Dissolved complete space mem (fun _ => true) mem left where
  ready := ready
  ram := rfl
  confined := .refl _ mem
  live _ := id
  accounted := by
    constructor
    · exact fun slot e named => holds.accounted.live (some slot) e named
    · intro isComplete b live mine
      obtain ⟨slot | slot, named⟩ := holds.accounted.told isComplete b live mine
      · cases named
      · exact ⟨slot, named⟩
    · exact fun slot slot' e named named' =>
        Option.some.inj (holds.accounted.once (some slot) (some slot') e named named')

/-- Only the slots that name a run matter. -/
theorem congr (dissolved : Dissolved complete space mem kept mem' left)
    (same : ∀ slot e, space.extent? mem.ram slot = some e → kept' slot = kept slot) :
    Dissolved complete space mem kept' mem' left where
  ready := dissolved.ready
  ram := dissolved.ram
  confined := dissolved.confined
  live := dissolved.live
  accounted := by
    have equal :
        onlyKept kept' (space.extent? mem.ram) = onlyKept kept (space.extent? mem.ram) := by
      funext slot
      rcases named : space.extent? mem.ram slot with _ | e
      · rw [onlyKept, onlyKept, named, ite_self, ite_self]
      · rw [onlyKept, onlyKept, same slot e named]
    rw [equal]
    exact dissolved.accounted

/-- A slot that is kept names a live block. -/
theorem exists_live (dissolved : Dissolved complete space mem kept mem' left)
    (named : space.extent? mem.ram slot = some e) (isKept : kept slot = true) :
    ∃ id, Live mem'.descriptors (e.block space.owner id) := by
  apply dissolved.accounted.live slot e
  rw [onlyKept, if_pos isKept, named]

/-- The block of a slot was given back. -/
theorem give {mem'' : Memory (Coremap NoEviction)} {left' : Nat}
    (dissolved : Dissolved complete space mem kept mem' left) (live : Live mem'.descriptors b)
    (mine : b.owner = space.owner) (gave : Memory.Gave b mem' mem'' left')
    (named : space.extent? mem.ram slot = some b.extent) (isKept : kept slot = true)
    (rest : ∀ other e, space.extent? mem.ram other = some e →
      (kept' other = true ↔ kept other = true ∧ other ≠ slot)) :
    Dissolved complete space mem kept' mem'' left' where
  ready := gave.ready
  ram := gave.ram.trans dissolved.ram
  confined := dissolved.confined.trans (mine ▸ gave.confined)
  live d liveAfter := dissolved.live d ((gave.live_iff live d).mp liveAfter).1
  accounted := by
    have equal : onlyKept kept' (space.extent? mem.ram) =
        Function.update (onlyKept kept (space.extent? mem.ram)) slot none := by
      funext other
      by_cases same : other = slot
      · subst same
        have gone : ¬ kept' other = true := fun still => ((rest other _ named).mp still).2 rfl
        rw [Function.update_self, onlyKept, if_neg gone]
      · rw [Function.update_of_ne same]
        rcases namedOther : space.extent? mem.ram other with _ | e
        · rw [onlyKept, onlyKept, namedOther, ite_self, ite_self]
        · have still : kept' other = kept other := by
            rw [Bool.eq_iff_iff, rest other e namedOther]
            exact and_iff_left same
          rw [onlyKept, onlyKept, still]
    have keptSlot : onlyKept kept (space.extent? mem.ram) slot = some b.extent := by
      rw [onlyKept, if_pos isKept, named]
    rw [equal, gave.descriptors]
    exact dissolved.accounted.release live keptSlot

/-- Giving back a single frame. -/
theorem ends_freeSingle {ε : Type} {frame : Frame} (kept' : Slot → Bool)
    {post : Post ε (Memory (Coremap NoEviction)) Unit}
    (dissolved : Dissolved complete space mem kept mem' most)
    (named : space.extent? mem.ram slot = some (.ofFrame frame)) (isKept : kept slot = true)
    (rest : ∀ other e, space.extent? mem.ram other = some e →
      (kept' other = true ↔ kept other = true ∧ other ≠ slot))
    (refused : ∀ cause mem'', mem.Refused (¬ CanSleep context) space.owner mem'' →
      post.panic cause mem'')
    (done : ∀ mem'', Dissolved complete space mem kept' mem'' most → post.value () mem'' left) :
    (Memory.freeSingle (Coremap.source context) frame).Ends left mem' post := by
  obtain ⟨blockId, live⟩ := dissolved.exists_live named isKept
  refine (Memory.ends_freeSingle dissolved.ready live rfl rfl).mono ?_ (fun _ _ _ => False.elim) ?_
  · rintro ⟨⟩ mem'' _ ⟨rfl, gave⟩
    exact done mem'' (dissolved.give live rfl gave named isKept rest)
  · exact fun cause mem'' gaveUp => refused cause mem'' (gaveUp.after dissolved.confined id)

end Dissolved

/-! ## What is still to come -/

namespace Slot

/-- What is kept while the directory entries in `todo` are still to come. -/
def beforeTables (todo : List DirectoryIndex) : Slot → Bool
  | .directory | .segment _ => true
  | .table i => i ∈ todo
  | .page p => DirectoryIndex.ofPage p ∈ todo

/-- What is kept while the entries in `entries` of the table at `i` are still to
come, and then the directory entries in `todo`. -/
def beforePages (i : DirectoryIndex) (entries : List TableIndex) (todo : List DirectoryIndex) :
    Slot → Bool
  | .directory | .segment _ => true
  | .table j => j = i ∨ j ∈ todo
  | .page p => (DirectoryIndex.ofPage p = i ∧ TableIndex.ofPage p ∈ entries) ∨
      DirectoryIndex.ofPage p ∈ todo

theorem beforePages_cons_iff {i : DirectoryIndex} {k : TableIndex} {entries : List TableIndex}
    {todo : List DirectoryIndex} (new : k ∉ entries) (ahead : i ∉ todo) (slot : Slot) :
    beforePages i entries todo slot = true ↔
      beforePages i (k :: entries) todo slot = true ∧ slot ≠ .page (VirtPage.ofIndices i k) := by
  cases slot with
  | directory | segment name | table j => simp [beforePages]
  | page p =>
    simp only [beforePages, List.mem_cons, decide_eq_true_eq, ne_eq, Slot.page.injEq,
      VirtPage.eq_ofIndices_iff]
    constructor
    · rintro (⟨same, inEntries⟩ | inTodo)
      · exact ⟨.inl ⟨same, .inr inEntries⟩, fun isThis => new (isThis.2 ▸ inEntries)⟩
      · exact ⟨.inr inTodo, fun isThis => ahead (isThis.1 ▸ inTodo)⟩
    · rintro ⟨⟨same, isThis | inEntries⟩ | inTodo, notThis⟩
      · exact absurd ⟨same, isThis⟩ notThis
      · exact .inl ⟨same, inEntries⟩
      · exact .inr inTodo

theorem beforeTables_iff {i : DirectoryIndex} {todo : List DirectoryIndex} (ahead : i ∉ todo)
    (slot : Slot) :
    beforeTables todo slot = true ↔ beforePages i [] todo slot = true ∧ slot ≠ .table i := by
  cases slot with
  | directory | segment name | page p => simp [beforePages, beforeTables]
  | table j =>
    simp only [beforePages, beforeTables, decide_eq_true_eq, ne_eq, Slot.table.injEq]
    constructor
    · exact fun inTodo => ⟨.inr inTodo, fun same => ahead (same ▸ inTodo)⟩
    · rintro ⟨same | inTodo, different⟩
      · exact absurd same different
      · exact inTodo

/-- What is kept while the segments in `todo` are still to come. -/
def beforeSegments (space : AddressSpace) (todo : List Segment) : Slot → Bool
  | .directory => true
  | .segment name => (space.segment? name).any (· ∈ todo)
  | .table _ | .page _ => false

theorem beforeSegments_cons_iff (shaped : space.Shaped) {g : Segment} {name : SegmentName}
    {todo : List Segment} (found : space.segment? name = some g) (new : g ∉ todo) (slot : Slot) :
    beforeSegments space todo slot = true ↔
      beforeSegments space (g :: todo) slot = true ∧ slot ≠ .segment name := by
  cases slot with
  | directory | table i | page p => simp [beforeSegments]
  | segment name' =>
    rcases found' : space.segment? name' with _ | g'
    · simp [beforeSegments, found']
    · simp only [beforeSegments, found', Option.any_some, List.mem_cons, decide_eq_true_eq,
        ne_eq, Slot.segment.injEq]
      constructor
      · intro inTodo
        refine ⟨.inr inTodo, ?_⟩
        rintro rfl
        obtain rfl := Option.some.inj (found.symm.trans found')
        exact new inTodo
      · rintro ⟨same | inTodo, different⟩
        · exact absurd (shaped.segment_injective found' (same ▸ found)) different
        · exact inTodo

end Slot

namespace Dissolved

open Slot (beforeTables beforePages beforeSegments)

variable {i : DirectoryIndex} {k : TableIndex} {todo : List DirectoryIndex}
  {entries : List TableIndex} {table frame : Frame}

/-- A directory entry that names no table leaves nothing to give back. -/
theorem skip_table (dissolved : Dissolved complete space mem (beforeTables (i :: todo)) mem' left)
    (unnamed : mem.ram.table? space.directory i = none) :
    Dissolved complete space mem (beforeTables todo) mem' left := by
  apply dissolved.congr
  intro slot e named
  cases slot with
  | directory | segment name => rfl
  | table j =>
    have other : j ≠ i := by
      rintro rfl
      rw [AddressSpace.extent?_table, unnamed] at named
      cases named
    simp [beforeTables, other]
  | page page =>
    have other : DirectoryIndex.ofPage page ≠ i := by
      intro same
      rw [AddressSpace.extent?_page, Ram.page?, same, unnamed] at named
      cases named
    simp [beforeTables, other]

/-- The pages of a table come before the table. -/
theorem enter_table
    (dissolved : Dissolved complete space mem (beforeTables (i :: todo)) mem' left) :
    Dissolved complete space mem (beforePages i TableIndex.all todo) mem' left := by
  apply dissolved.congr
  intro slot e _
  cases slot with
  | directory | segment name => rfl
  | table j => simp [beforeTables, beforePages]
  | page page => simp [beforeTables, beforePages, TableIndex.mem_all]

/-- A table entry without a frame of its own leaves nothing to give back. -/
theorem skip_page
    (dissolved : Dissolved complete space mem (beforePages i (k :: entries) todo) mem' left)
    (empty : space.extent? mem.ram (.page (VirtPage.ofIndices i k)) = none) :
    Dissolved complete space mem (beforePages i entries todo) mem' left := by
  apply dissolved.congr
  intro slot e named
  cases slot with
  | directory | segment name | table j => rfl
  | page page =>
    have other : page ≠ VirtPage.ofIndices i k := by
      rintro rfl
      rw [named] at empty
      cases empty
    rw [Ne, VirtPage.eq_ofIndices_iff] at other
    simp only [beforePages, List.mem_cons, decide_eq_decide]
    tauto

theorem skip_page_of_unmapped
    (dissolved : Dissolved complete space mem (beforePages i (k :: entries) todo) mem' left)
    (named : mem.ram.table? space.directory i = some table)
    (unmapped : mem.ram.mapping? table k = none) :
    Dissolved complete space mem (beforePages i entries todo) mem' left := by
  apply dissolved.skip_page
  rw [AddressSpace.extent?_page, Ram.page?_ofIndices named, unmapped, Option.bind_none]

theorem skip_page_of_backed
    (dissolved : Dissolved complete space mem (beforePages i (k :: entries) todo) mem' left)
    (named : mem.ram.table? space.directory i = some table)
    (mapped : mem.ram.mapping? table k = some frame)
    (backed : space.segments.backs frame = true) :
    Dissolved complete space mem (beforePages i entries todo) mem' left := by
  apply dissolved.skip_page
  rw [AddressSpace.extent?_page, Ram.page?_ofIndices named, mapped, Option.bind_some, if_pos backed]

/-- Giving back the pages of a table. -/
theorem ends_pages {ε : Type} {post : Post ε (Memory (Coremap NoEviction)) Unit}
    (holds : Holds complete space none mem) (named : mem.ram.table? space.directory i = some table)
    (ahead : i ∉ todo)
    (dissolved : Dissolved complete space mem (beforePages i TableIndex.all todo) mem' most)
    (refused : ∀ cause mem'', mem.Refused (¬ CanSleep context) space.owner mem'' →
      post.panic cause mem'')
    (done : ∀ mem'', Dissolved complete space mem (beforePages i [] todo) mem'' most →
      post.value () mem'' left) :
    (AddressSpace.eachMapping table fun _ frame =>
      if space.segments.backs frame then pure ()
      else Memory.freeSingle (Coremap.source context) frame).Ends left mem' post := by
  apply AddressSpace.ends_eachMapping (fun entries mem'' now =>
    now = left ∧ entries.Nodup ∧
      Dissolved complete space mem (beforePages i entries todo) mem'' most)
  case start => exact ⟨rfl, TableIndex.nodup_all, dissolved⟩
  case refused =>
    rintro _ mem'' _ ⟨_, _, dissolved⟩ denied
    rw [dissolved.ram] at denied
    exact absurd (holds.tablesAdmitted i table named) denied
  case present =>
    rintro k entries mem'' _ frame ⟨rfl, distinct, dissolved⟩ mapped
    rw [dissolved.ram] at mapped
    obtain ⟨new, distinct⟩ := List.nodup_cons.mp distinct
    split
    · rename_i backed
      exact Operation.ends_pure.mpr
        ⟨rfl, distinct, dissolved.skip_page_of_backed named mapped backed⟩
    · rename_i single
      have isPage : space.extent? mem.ram (.page (VirtPage.ofIndices i k)) =
          some (.ofFrame frame) := by
        rw [AddressSpace.extent?_page, Ram.page?_ofIndices named, mapped, Option.bind_some,
          if_neg single]
      apply dissolved.ends_freeSingle (beforePages i entries todo) isPage
      · simp [beforePages]
      · exact fun other _ _ => Slot.beforePages_cons_iff new ahead other
      · exact refused
      · exact fun mem3 dissolved => ⟨rfl, distinct, dissolved⟩
  case absent =>
    rintro k entries mem'' _ ⟨rfl, distinct, dissolved⟩ unmapped
    rw [dissolved.ram] at unmapped
    exact ⟨rfl, (List.nodup_cons.mp distinct).2, dissolved.skip_page_of_unmapped named unmapped⟩
  case finish =>
    rintro mem'' _ ⟨rfl, _, dissolved⟩
    exact done mem'' dissolved

/-- Giving back the tables and all pages that lie in no segment's block. -/
theorem ends_tables {ε : Type} {post : Post ε (Memory (Coremap NoEviction)) Unit}
    (ready : mem.Ready most) (holds : Holds complete space none mem)
    (refused : ∀ cause mem'', mem.Refused (¬ CanSleep context) space.owner mem'' →
      post.panic cause mem'')
    (done : ∀ mem'', Dissolved complete space mem (beforeTables []) mem'' most →
      post.value () mem'' left) :
    (AddressSpace.eachTable space.directory fun _ table => do
      AddressSpace.eachMapping table fun _ frame =>
        if space.segments.backs frame then pure ()
        else Memory.freeSingle (Coremap.source context) frame
      Memory.freeSingle (Coremap.source context) table).Ends left mem post := by
  apply AddressSpace.ends_eachTable (fun todo mem'' now =>
    now = left ∧ todo.Nodup ∧ Dissolved complete space mem (beforeTables todo) mem'' most)
  case start =>
    refine ⟨rfl, DirectoryIndex.nodup_all, (Dissolved.start ready holds).congr ?_⟩
    intro slot _ _
    cases slot <;> simp [beforeTables, DirectoryIndex.mem_all]
  case refused =>
    rintro _ mem'' _ ⟨_, _, dissolved⟩ denied
    rw [dissolved.ram] at denied
    exact absurd holds.directoryAdmitted denied
  case present =>
    rintro i todo mem'' _ table ⟨rfl, distinct, dissolved⟩ named
    rw [dissolved.ram] at named
    obtain ⟨ahead, distinct⟩ := List.nodup_cons.mp distinct
    refine Operation.ends_bind.mpr (ends_pages holds named ahead dissolved.enter_table refused ?_)
    intro mem3 emptied
    have isTable : space.extent? mem.ram (.table i) = some (.ofFrame table) := by
      rw [AddressSpace.extent?_table, named, Option.map_some]
    apply emptied.ends_freeSingle (beforeTables todo) isTable
    · simp [beforePages]
    · exact fun other _ _ => Slot.beforeTables_iff ahead other
    · exact refused
    · exact fun mem4 dissolved => ⟨rfl, distinct, dissolved⟩
  case absent =>
    rintro i todo mem'' _ ⟨rfl, distinct, dissolved⟩ unnamed
    rw [dissolved.ram] at unnamed
    exact ⟨rfl, (List.nodup_cons.mp distinct).2, dissolved.skip_table unnamed⟩
  case finish =>
    rintro mem'' _ ⟨rfl, _, dissolved⟩
    exact done mem'' dissolved

/-- When no table is left, the segments come next. -/
theorem enter_segments (shaped : space.Shaped)
    (dissolved : Dissolved complete space mem (beforeTables []) mem' left) :
    Dissolved complete space mem (beforeSegments space space.segments.toList) mem' left := by
  apply dissolved.congr
  intro slot e named
  cases slot with
  | directory => rfl
  | table i => simp [beforeSegments, beforeTables]
  | page p => simp [beforeSegments, beforeTables]
  | segment name =>
    rw [AddressSpace.extent?_segment, Option.map_eq_some_iff] at named
    obtain ⟨g, found, _⟩ := named
    simp [beforeSegments, beforeTables, found, shaped.mem_segments_iff.mpr ⟨name, found⟩]

/-- Giving back the blocks of the segments. -/
theorem ends_segments {ε : Type} {post : Post ε (Memory (Coremap NoEviction)) Unit}
    (holds : Holds complete space none mem)
    (dissolved : Dissolved complete space mem (beforeTables []) mem' most)
    (refused : ∀ cause mem'', mem.Refused (¬ CanSleep context) space.owner mem'' →
      post.panic cause mem'')
    (done : ∀ mem'', Dissolved complete space mem (beforeSegments space []) mem'' most →
      post.value () mem'' left) :
    (space.segments.toList.forM fun segment =>
      Memory.free (Coremap.source context) segment.frame).Ends left mem' post := by
  apply Operation.Ends.forM (fun todo mem'' now => now = left ∧ todo.Nodup ∧
    (∀ g ∈ todo, ∃ name, space.segment? name = some g) ∧
      Dissolved complete space mem (beforeSegments space todo) mem'' most)
  · rintro g todo mem'' _ ⟨rfl, distinct, areSegments, dissolved⟩
    obtain ⟨new, distinct⟩ := List.nodup_cons.mp distinct
    obtain ⟨name, found⟩ := areSegments g (List.mem_cons_self ..)
    have named : space.extent? mem.ram (.segment name) = some ⟨g.frame.number, g.pages⟩ := by
      rw [AddressSpace.extent?_segment, found, Option.map_some]
    have isKept : beforeSegments space (g :: todo) (.segment name) = true := by
      simp [beforeSegments, found]
    obtain ⟨blockId, live⟩ := dissolved.exists_live named isKept
    refine (Memory.ends_free dissolved.ready live rfl).mono ?_ (fun _ _ _ => False.elim) ?_
    · rintro ⟨⟩ mem3 _ ⟨rfl, gave⟩
      refine ⟨rfl, distinct, fun g inTodo => areSegments g (List.mem_cons_of_mem _ inTodo), ?_⟩
      exact dissolved.give live rfl gave named isKept
        fun other _ _ => Slot.beforeSegments_cons_iff holds.shaped found new other
    · exact fun cause mem3 gaveUp => refused cause mem3 (gaveUp.after dissolved.confined id)
  · rintro mem'' _ ⟨rfl, _, _, dissolved⟩
    exact done mem'' dissolved
  · exact ⟨rfl, holds.shaped.nodup_segments,
      fun g inList => holds.shaped.mem_segments_iff.mp inList,
      dissolved.enter_segments holds.shaped⟩

end Dissolved

namespace Memory

/-- A space was destroyed: the blocks of its owner are gone, but for those that it
had forgotten, and nothing else. -/
structure Destroyed (complete : Prop) (owner : Owner) (mem mem' : Memory (Coremap NoEviction)) :
    Prop where
  ram : mem'.ram = mem.ram
  confined : mem.Confined owner mem'
  live : ∀ b, Live mem'.descriptors b → Live mem.descriptors b
  gone : complete → ∀ b, Live mem'.descriptors b → b.owner ≠ owner

theorem destroyed_of_dissolved
    (dissolved : Dissolved complete space mem (fun _ => false) mem' most) :
    Destroyed complete space.owner mem mem' where
  ram := dissolved.ram
  confined := dissolved.confined
  live := dissolved.live
  gone isComplete b live mine := by
    obtain ⟨slot, named⟩ := dissolved.accounted.told isComplete b live mine
    cases named

theorem Destroyed.live_iff {owner : Owner} (destroyed : Destroyed complete owner mem mem')
    (isComplete : complete) (b : Block) :
    Live mem'.descriptors b ↔ Live mem.descriptors b ∧ b.owner ≠ owner := by
  constructor
  · exact fun live => ⟨destroyed.live b live, destroyed.gone isComplete b live⟩
  · exact fun ⟨live, others⟩ => (destroyed.confined.live_iff b others).mpr live

/-- A space that is held can be destroyed by whoever may sleep. -/
theorem ends_destroy {ε : Type} (ready : mem.Ready most) (holds : Holds complete space none mem) :
    (space.destroy (Coremap.source context) :
        Operation ε (Memory (Coremap NoEviction)) Unit).Ends left mem
      ⟨fun _ mem' left' => left' = left ∧ mem'.Ready most ∧ Destroyed complete space.owner mem mem',
        fun _ _ _ => False, fun _ => Refused (¬ CanSleep context) space.owner mem⟩ := by
  refine Operation.ends_bind.mpr (Dissolved.ends_tables ready holds (fun _ _ => id) ?_)
  intro mem1 tables
  refine Operation.ends_bind.mpr (Dissolved.ends_segments holds tables (fun _ _ => id) ?_)
  intro mem2 segments
  have isDirectory := AddressSpace.extent?_directory space mem.ram
  refine Operation.ends_bind.mpr (segments.ends_freeSingle (fun _ => false) isDirectory rfl ?_
    (fun _ _ => id) ?_)
  · intro slot e _
    cases slot with
    | segment name => cases space.segment? name <;> simp [Slot.beforeSegments]
    | directory | table i | page p => simp [Slot.beforeSegments]
  intro mem3 dissolved
  exact Operation.ends_log.mpr ⟨rfl, dissolved.ready, destroyed_of_dissolved dissolved⟩

end Memory

end PagedMemory
