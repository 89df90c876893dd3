import PagedMemory.Proofs.Machine.FirstSpace
import PagedMemory.Proofs.Space.Twins

/-!
# What a copy is

A copy of a space that succeeds has the layout of its parent, tables and pages in
the same places, and in each page the bytes of the parent's page. All of its
frames are its own, and nothing of the parent has changed. A copy that fails, for
want of frames at whichever point, leaves every descriptor as it was, and no
space has changed.
-/

namespace PagedMemory

/-- A space is a private copy of another. The descriptors and the RAM before the
copy are `frames` and `ram`, and those after it `frames'` and `ram'`, when
`spaces` live. -/
structure Forked (parent child : AddressSpace) (spaces : List AddressSpace)
    (frames frames' : Array Descriptor) (ram ram' : Ram) : Prop where
  regions : child.regions.map Region.unbacked = parent.regions.map Region.unbacked
  heap : child.heap = parent.heap
  loaded : child.loaded = parent.loaded
  /-- The child has a table exactly where its parent has one. -/
  tables : ∀ i, (ram'.table? child.directory i).isSome = (ram.table? parent.directory i).isSome
  /-- The child maps exactly the addresses that its parent maps. -/
  lookup : ∀ address,
    (ram'.lookup child.directory address).isSome = (ram.lookup parent.directory address).isSome
  /-- What the child maps is its own and not its parent's. -/
  own : ∀ address frame, ram'.lookup child.directory address = some frame →
    frame.number ∈ heldFrames frames' child.owner ∧ frame.number ∉ heldFrames frames' parent.owner
  /-- What the child maps is mapped nowhere else. -/
  alone : ∀ address frame, ram'.lookup child.directory address = some frame →
    ∀ space ∈ spaces, ∀ address', ram'.lookup space.directory address' = some frame →
      space = child ∧ address'.page = address.page
  /-- The child's pages hold the bytes of its parent's. -/
  bytes : ∀ address frame original, ram'.lookup child.directory address = some frame →
    ram.lookup parent.directory address = some original → ram'.SameBytes frame original
  /-- All of a loaded child is backed, by blocks of its own that it maps one page
  after the other. -/
  segments : child.loaded = true → (∀ region ∈ child.regions, region.backing.isSome) ∧
    child.stack.isSome ∧ ∀ g ∈ child.segments.toList,
      (∃ id, Live frames' ⟨g.frame.number, g.pages, child.owner, id⟩) ∧ ∀ k, k < g.pages →
        ram'.lookup child.directory (g.page.plus k).base = some (g.frame.plus k)
  parentHeld : heldFrames frames' parent.owner = heldFrames frames parent.owner
  parentDirectory : Ram.SameFrame parent.directory ram ram'
  parentTables : ∀ i table, ram.table? parent.directory i = some table →
    Ram.SameFrame table ram ram'
  parentLookup : ∀ address,
    ram'.lookup parent.directory address = ram.lookup parent.directory address
  parentPages : ∀ address frame, ram.lookup parent.directory address = some frame →
    Ram.SameFrame frame ram ram'
  /-- Both have equally many frames. -/
  count : Coremap.countHeldBy frames' child.owner = Coremap.countHeldBy frames' parent.owner

variable {mem mem' : Memory (Coremap NoEviction)} {spaces : List AddressSpace}
  {held : List VirtAddr} {failed retried : List SpaceId} {parent child : AddressSpace}

namespace CopyOf

/-- A copy and its parent are twins once the copy is complete. -/
theorem twins (isCopy : CopyOf parent child mem mem') (ready' : mem'.Ready 0)
    (parentHolds : Holds True parent none mem) (whole : parent.Whole)
    (others : parent.owner ≠ child.owner) : Twins parent child mem' mem' := by
  have copied := isCopy.copied
  obtain ⟨parentHolds', sameTables, samePages⟩ :=
    (parentHolds.renamed mem.named.nextSpace).of_confined copied.confined others
  constructor
  case ready => exact ready'
  case ready' => exact ready'
  case holds => exact parentHolds'
  case holds' => exact copied.holds
  case whole => exact whole
  case whole' => exact isCopy.whole
  case loaded => exact isCopy.loaded
  case regions => exact isCopy.regions
  case tables =>
    intro i
    rw [sameTables, Bool.eq_iff_iff, Option.isSome_iff_ne_none, Option.isSome_iff_ne_none]
    exact ⟨copied.tablesOnly i, copied.tables i not_false⟩
  case pages =>
    intro page
    rw [samePages, Bool.eq_iff_iff, Option.isSome_iff_ne_none, Option.isSome_iff_ne_none]
    constructor
    · exact copied.pagesOnly page
    · intro mapped
      obtain ⟨frame, isFrame⟩ := Option.ne_none_iff_exists'.mp mapped
      obtain ⟨own, isOwn, _⟩ := copied.pages page frame not_false isFrame
      rw [isOwn]
      exact Option.some_ne_none own

variable {address address' : VirtAddr} {frame original : Frame}

/-- What a copy maps is held for it and not for its parent. -/
theorem own (isCopy : CopyOf parent child mem mem') (ready' : mem'.Ready 0)
    (others : parent.owner ≠ child.owner)
    (mapped : mem'.ram.lookup child.directory address = some frame) :
    frame.number ∈ heldFrames mem'.descriptors child.owner ∧
      frame.number ∉ heldFrames mem'.descriptors parent.owner := by
  have tiled' := ready'.coremap.sound.tiled
  obtain ⟨b, live, mine, covers⟩ := isCopy.copied.holds.exists_live_page mapped
  rw [tiled'.mem_heldFrames_iff, tiled'.mem_heldFrames_iff]
  constructor
  · exact ⟨b, live, mine, covers⟩
  · rintro ⟨d, liveToo, isParents, coversToo⟩
    obtain rfl := live.eq_of_covers liveToo covers coversToo
    exact others (isParents.symm.trans mine)

/-- What a copy maps is mapped in one place, as long as only spaces of other owners live
beside it. -/
theorem alone (isCopy : CopyOf parent child mem mem')
    (oldHolds : ∀ space ∈ spaces, ∃ complete, Holds complete space none mem')
    (notChild : ∀ space ∈ spaces, space.owner ≠ child.owner)
    (mapped : mem'.ram.lookup child.directory address = some frame) {space : AddressSpace}
    (inList : space ∈ spaces ++ [child])
    (mappedToo : mem'.ram.lookup space.directory address' = some frame) :
    space = child ∧ address'.page = address.page := by
  have childHolds := isCopy.copied.holds
  rcases List.mem_append.mp inList with old | new
  · obtain ⟨_, holds⟩ := oldHolds space old
    obtain ⟨_, uses, _⟩ := exists_uses_page childHolds.shaped mapped
    obtain ⟨_, usesToo, _⟩ := exists_uses_page holds.shaped mappedToo
    exact absurd (holds.owner_eq childHolds usesToo uses) (notChild space old)
  · obtain rfl := List.mem_singleton.mp new
    exact ⟨rfl, childHolds.page_injective mappedToo mapped⟩

/-- The pages of a copy hold what its parent's pages held. -/
theorem bytes (isCopy : CopyOf parent child mem mem')
    (mapped : mem'.ram.lookup child.directory address = some frame)
    (isOriginal : mem.ram.lookup parent.directory address = some original) :
    mem'.ram.SameBytes frame original := by
  obtain ⟨_, isOwn, equal⟩ := isCopy.copied.pages address.page original not_false isOriginal
  obtain rfl := Option.some.inj (isOwn.symm.trans mapped)
  exact equal

end CopyOf

/-- All of a loaded space is backed, by blocks of its own that it maps one page after
the other. -/
theorem Holds.segments_backed {space : AddressSpace} {complete : Prop}
    (holds : Holds complete space none mem) (isLoaded : space.loaded = true) :
    (∀ region ∈ space.regions, region.backing.isSome) ∧ space.stack.isSome ∧
      ∀ g ∈ space.segments.toList,
        (∃ id, Live mem.descriptors ⟨g.frame.number, g.pages, space.owner, id⟩) ∧
        ∀ k, k < g.pages →
          mem.ram.lookup space.directory (g.page.plus k).base = some (g.frame.plus k) := by
  have loaded := holds.loaded isLoaded
  refine ⟨loaded.regions, loaded.stack, ?_⟩
  intro g inSegments
  obtain ⟨name, found⟩ := holds.shaped.mem_segments_iff.mp inSegments
  constructor
  · have named : withSpare (space.extent? mem.ram) none (some (.segment name)) =
        some ⟨g.frame.number, g.pages⟩ := by
      rw [withSpare_some, AddressSpace.extent?_segment, found, Option.map_some]
    exact holds.accounted.live _ _ named
  · intro k small
    rw [Ram.lookup_eq_page?, Page.page_base]
    exact loaded.mapped name g found k small

/-- A copy of a whole space in a settled memory is private. -/
theorem Settled.forked (settled : Settled mem spaces held failed retried) (inList : parent ∈ spaces)
    (notFailed : parent.id ∉ failed) (notRetried : parent.id ∉ retried) (ready' : mem'.Ready 0)
    (isCopy : CopyOf parent child mem mem') :
    Forked parent child (spaces ++ [child]) mem.descriptors mem'.descriptors mem.ram mem'.ram := by
  have copied := isCopy.copied
  have confined := copied.confined
  have tiled' := ready'.coremap.sound.tiled
  have notChild (space : AddressSpace) (old : space ∈ spaces) : space.owner ≠ child.owner := by
    intro same
    exact settled.id_ne_next old ((Owner.space.inj same).trans isCopy.id)
  have others := notChild parent inList
  have oldHolds (space : AddressSpace) (old : space ∈ spaces) :
      ∃ complete, Holds complete space none mem' :=
    ⟨_, (((settled.holds space old).renamed mem.named.nextSpace).of_confined confined
      (notChild space old)).1⟩
  have parentHolds : Holds True parent none mem :=
    (settled.holds parent inList).weaken fun _ => notRetried
  obtain ⟨_, sameTables, samePages⟩ :=
    (parentHolds.renamed mem.named.nextSpace).of_confined confined others
  have twins := isCopy.twins ready' parentHolds (settled.whole parent inList notFailed) others
  have same {slot : Option Slot} {frame : Frame} (uses : parent.Uses none mem.ram slot frame) :
      Ram.SameFrame frame mem.ram mem'.ram := by
    obtain ⟨b, live, mine, covers⟩ := parentHolds.exists_live uses
    exact confined.same b live (mine ▸ others) frame covers
  constructor
  case regions => exact isCopy.regions
  case heap => exact isCopy.heap
  case loaded => exact isCopy.loaded
  case tables =>
    intro i
    rw [twins.tables, sameTables]
  case lookup =>
    intro address
    rw [Ram.lookup_eq_page?, Ram.lookup_eq_page?, twins.pages, samePages]
  case own => exact fun _ _ mapped => isCopy.own ready' others mapped
  case alone => exact fun _ _ mapped _ live _ => isCopy.alone oldHolds notChild mapped live
  case bytes => exact fun _ _ _ mapped => isCopy.bytes mapped
  case segments => exact copied.holds.segments_backed
  case parentHeld =>
    exact settled.ready.coremap.sound.tiled.heldFrames_eq tiled' fun b mine =>
      confined.live_iff b (mine ▸ others)
  case parentDirectory => exact same (uses_directory mem.ram)
  case parentTables => exact fun _ _ named => same (uses_table named)
  case parentLookup =>
    intro address
    rw [Ram.lookup_eq_page?, Ram.lookup_eq_page?, samePages]
  case parentPages =>
    intro _ _ mapped
    obtain ⟨_, uses, _⟩ := exists_uses_page parentHolds.shaped mapped
    exact same uses
  case count => exact twins.countHeldBy_eq

/-- A copy has as many frames as its parent had before. -/
theorem Forked.countHeldBy_eq {frames frames' : Array Descriptor} {ram ram' : Ram}
    (forked : Forked parent child spaces frames frames' ram ram') :
    Coremap.countHeldBy frames' child.owner = Coremap.countHeldBy frames parent.owner := by
  rw [forked.count, countHeldBy_eq_card, countHeldBy_eq_card, forked.parentHeld]

namespace Session

open Machine

variable {left : Nat} {session : Session} {context : Context}

/-- A space is copied, or frames run out and what was taken is given back. -/
theorem ends_copy (stealer : Stealer) (machine : Machine (Coremap NoEviction))
    (settled : Settled machine.memory machine.spaces held failed retried)
    (ready : machine.memory.Ready left) (inList : parent ∈ machine.spaces) :
    (sourced fun source => Machine.copy source parent.id).Ends left (withStealer stealer machine)
      ⟨fun child outer left' => ∃ mem', outer = withStealer stealer
          { machine with memory := mem', spaces := machine.spaces ++ [child] } ∧
          mem'.Ready left' ∧ CopyOf parent child machine.memory mem',
        fun e outer _ => (∃ n, e = .space (.outOfMemory ⟨n⟩)) ∧
          (parent.loaded = false →
            e = .space (.outOfMemory ⟨1⟩) ∧ CopyStuck parent machine.memory) ∧ ∃ mem',
          outer = withStealer stealer { machine with memory := mem' } ∧ mem'.Ready 0 ∧
          machine.memory.named.Confined (.space machine.memory.nextSpace) mem' ∧
          ∀ b, Live mem'.descriptors b ↔ Live machine.memory.descriptors b,
        fun _ _ => ¬ Able (some machine.context) machine.memory⟩ := by
  have found := space?_of_mem settled.distinct inList
  apply Request.ends_sourced.mpr
  apply Machine.ends_copyOf settled ready
  · intro unknown
    rw [found] at unknown
    cases unknown
  · exact fun _ _ refused => refused.reason
  · intro found' n mem' left' isFound ready' stuck confined live_iff
    obtain rfl := Option.some.inj (found.symm.trans isFound)
    refine ⟨⟨n, rfl⟩, fun unloaded => ?_, mem', rfl, ready'.mono (Nat.zero_le _), confined,
      live_iff⟩
    obtain ⟨rfl, isStuck⟩ := stuck unloaded
    exact ⟨rfl, isStuck⟩
  · intro found' child mem' left' isFound ready' isCopy
    obtain rfl := Option.some.inj (found.symm.trans isFound)
    exact ⟨mem', rfl, ready', isCopy⟩

/-- A whole space that is not loaded is copied exactly if as many frames are free as it has. -/
theorem ends_copy_of_unloaded (stealer : Stealer) (machine : Machine (Coremap NoEviction))
    (settled : Settled machine.memory machine.spaces held failed retried)
    (ready : machine.memory.Ready left) (inList : parent ∈ machine.spaces)
    (notFailed : parent.id ∉ failed) (notRetried : parent.id ∉ retried)
    (unloaded : parent.loaded = false) :
    (sourced fun source => Machine.copy source parent.id).Ends left (withStealer stealer machine)
      ⟨fun child outer left' =>
          Coremap.countHeldBy machine.memory.descriptors parent.owner ≤
            (freeFrames machine.memory.descriptors).card ∧
          ∃ mem', outer = withStealer stealer
            { machine with memory := mem', spaces := machine.spaces ++ [child] } ∧
          mem'.Ready left' ∧ CopyOf parent child machine.memory mem',
        fun e _ _ => e = .space (.outOfMemory ⟨1⟩) ∧
          (freeFrames machine.memory.descriptors).card <
            Coremap.countHeldBy machine.memory.descriptors parent.owner,
        fun _ _ => ¬ Able (some machine.context) machine.memory⟩ := by
  refine (ends_copy stealer machine settled ready inList).mono ?_ ?_ (fun _ _ => id)
  · rintro child outer left' ⟨mem', isOuter, ready', isCopy⟩
    refine ⟨?_, mem', isOuter, ready', isCopy⟩
    rw [← (settled.forked inList notFailed notRetried (ready'.mono (Nat.zero_le _))
      isCopy).countHeldBy_eq]
    exact isCopy.countHeldBy_le ready ready' settled.nothing
  · rintro e outer left' ⟨_, stuck, _⟩
    obtain ⟨rfl, isStuck⟩ := stuck unloaded
    have unbacked : parent.Unbacked := by
      refine (settled.whole parent inList notFailed).resolve_left ?_
      rw [unloaded]
      exact Bool.false_ne_true
    have parentHolds := (settled.holds parent inList).weaken fun _ : True => notRetried
    exact ⟨rfl, isStuck.card_free_lt ready parentHolds unbacked settled.nothing⟩

/-- A space with few regions, each of one page, is copied with few identities. -/
theorem Sole.drawsOfCopy_le {free : Nat} (sole : session.Sole parent free left)
    (reachable : Reachable session) : AddressSpace.drawsOfCopy parent ≤ 0x300000 := by
  obtain ⟨stealer, machine, _, settled, inList, _⟩ :=
    reachable.exists_machine sole.alone sole.notFailed
  have few := (settled.holds parent inList).shaped.few
  rw [AddressSpace.drawsOfCopy, AddressSpace.drawsOfRegions_eq, sole.sum_pages]
  unfold Layout.maxRegions at few
  unfold Layout.stackPages
  omega

/-! ## Copies that succeed -/

/-- What a session has in stock when a space was copied. -/
theorem Stocked.copied {free free' : Nat} {stealer : Stealer}
    {machine : Machine (Coremap NoEviction)} (stocked : session.Stocked free left)
    (isMachine : session.machine = withStealer stealer machine)
    (settled : Settled machine.memory machine.spaces held failed retried)
    (inList : parent ∈ machine.spaces) (notFailed : parent.id ∉ failed)
    (notRetried : parent.id ∉ retried) {session' : Session}
    {machine' : Machine (Coremap NoEviction)}
    (isMachine' : session'.machine = withStealer stealer machine') {more : Nat}
    (ready' : machine'.memory.Ready more) (fewer : more + 1 ≤ left)
    (isCopy : CopyOf parent child machine.memory machine'.memory)
    (needs : free = free' + Coremap.countHeldBy machine.memory.descriptors parent.owner) :
    session'.Stocked free' more := by
  have names : machine.memory.nextSpace.number + left < 0x100000000 := by
    have names := stocked.names
    rwa [isMachine] at names
  have next : machine.memory.named.nextSpace.number = machine.memory.nextSpace.number + 1 :=
    Nat.mod_eq_of_lt (Nat.lt_of_le_of_lt (by omega) names)
  have isNext : child.owner = .space machine.memory.nextSpace := congrArg Owner.space isCopy.id
  have nothing : Coremap.countHeldBy machine.memory.named.descriptors child.owner = 0 :=
    countHeldBy_eq_zero settled.ready.named (isNext ▸ settled.nothing)
  have forked :=
    settled.forked inList notFailed notRetried (ready'.mono (Nat.zero_le _)) isCopy
  have count : Coremap.countHeldBy machine'.memory.descriptors child.owner =
      Coremap.countHeldBy machine.memory.named.descriptors child.owner +
        Coremap.countHeldBy machine.memory.descriptors parent.owner := by
    rw [nothing, Nat.zero_add, forked.countHeldBy_eq]
  have sameFrames : machine.memory.named.frames = machine.memory.frames := rfl
  have rest := stocked.work isMachine isMachine' sameFrames rfl settled.ready.named ready'
    isCopy.copied.confined (by omega) count
  rwa [needs, Nat.add_sub_cancel] at rest

/-- A space with one page is copied exactly if there are frames for a directory, a table and a
page. -/
theorem Paged.ends_copy {page : VirtPage} {free : Nat} {stealer : Stealer}
    {machine : Machine (Coremap NoEviction)} (paged : session.Paged parent page free left)
    (isMachine : session.machine = withStealer stealer machine)
    (settled : Settled machine.memory machine.spaces session.held session.failed session.retried)
    (inList : parent ∈ machine.spaces) (notRetried : parent.id ∉ session.retried) :
    (sourced fun source => Machine.copy source parent.id).Ends left
      (withStealer stealer { machine with context := ⟨1, false⟩ })
      ⟨fun child outer left' => 3 ≤ free ∧ ∃ mem, outer = withStealer stealer { machine with
            context := ⟨1, false⟩, memory := mem, spaces := machine.spaces ++ [child] } ∧
          mem.Ready left' ∧ CopyOf parent child machine.memory mem,
        fun e _ _ => e = .space (.outOfMemory ⟨1⟩) ∧ free < 3, fun _ _ => False⟩ := by
  have ⟨⟨_, notFailed, _, unloaded, _, stocked⟩, _, _, held⟩ := paged
  have notFailed : parent.id ∉ session.failed := notFailed ▸ List.not_mem_nil
  have card := stocked.card_free isMachine
  have ready := stocked.ready isMachine settled
  have able := stocked.able isMachine
  rw [isMachine] at held
  have three : Coremap.countHeldBy machine.memory.descriptors parent.owner = 3 := held _ rfl
  let asked : Machine (Coremap NoEviction) := { machine with context := ⟨1, false⟩ }
  refine (ends_copy_of_unloaded stealer asked settled ready inList notFailed notRetried
    unloaded).mono ?_ ?_ fun _ _ cannot => cannot able
  · rintro child outer left' ⟨enough, isCopied⟩
    exact ⟨card ▸ three ▸ enough, isCopied⟩
  · rintro e outer left' ⟨isMemory, lacking⟩
    exact ⟨isMemory, card ▸ three ▸ lacking⟩

/-- If there are, the copy lives beside its parent, and maps nothing that its parent does not. -/
theorem Paged.exists_copy {page : VirtPage} {free : Nat}
    (paged : session.Paged parent page free left) (reachable : Reachable session)
    (enough : 3 ≤ free) (room : 0x300000 ≤ left) :
    ∃ child machine' shown, (sourced fun source => Machine.copy source parent.id).run
        { session.machine with context := ⟨1, false⟩ } = ⟨.value child, machine', shown⟩ ∧
      session.NoWrap (.copy parent.id) shown ∧ machine'.spaces = [parent, child] ∧
      child.id ≠ parent.id ∧ machine'.memory.ram.page? parent.directory page ≠ none ∧
      (∀ other ≠ page, machine'.memory.ram.page? child.directory other = none) ∧
      ∀ session' : Session, session'.machine = machine' →
        session'.Stocked (free - 3) (left - 0x300000) := by
  have ⟨⟨alone, notFailed, _, _, _, stocked⟩, mapped, others, held⟩ := paged
  obtain ⟨stealer, machine, isMachine, settled, inList, notRetried⟩ :=
    reachable.exists_machine alone notFailed
  have notFailed : parent.id ∉ session.failed := notFailed ▸ List.not_mem_nil
  rw [isMachine] at alone mapped others held
  let asked : Machine (Coremap NoEviction) := { machine with context := ⟨1, false⟩ }
  have found : asked.space? parent.id = some parent := space?_of_mem settled.distinct inList
  have most := paged.drawsOfCopy_le reachable
  obtain ⟨child, _, shown, run, ⟨_, mem, rfl, ready', isCopy⟩, few⟩ := exists_run isMachine
    ((paged.ends_copy isMachine settled inList notRetried).mono (fun _ _ _ => id)
      (fun _ _ _ ⟨_, lacking⟩ => Nat.not_le_of_lt lacking enough) fun _ _ => id)
    (draws_copy_le found) (Nat.le_trans most room)
  have few := Nat.le_trans few most
  have others' : parent.owner ≠ child.owner := fun same =>
    settled.id_ne_next inList ((Owner.space.inj same).trans isCopy.id)
  obtain ⟨_, _, samePages⟩ := ((settled.holds parent inList).renamed
    machine.memory.named.nextSpace).of_confined isCopy.copied.confined others'
  have needs : free = free - 3 + Coremap.countHeldBy machine.memory.descriptors parent.owner := by
    rw [show Coremap.countHeldBy machine.memory.descriptors parent.owner = 3 from held _ rfl]
    omega
  refine ⟨child, _, shown, run, stocked.noWrap (by omega) (Nat.le_trans few room),
    congrArg (· ++ [child]) alone, ?_, ?_, ?_, fun session' isMachine' => ?_⟩
  · exact fun same => others' (congrArg Owner.space same.symm)
  · exact fun unmapped => mapped ((congrFun samePages page).symm.trans unmapped)
  · exact fun other different =>
      not_not.mp (mt (isCopy.copied.pagesOnly other) (not_not.mpr (others other different)))
  · exact stocked.copied isMachine settled inList notFailed notRetried isMachine'
      (ready'.mono (by omega)) (by omega) isCopy needs

/-- If there are not, the copy reports that frames have run out. -/
theorem Paged.exists_copy_error {page : VirtPage} {free : Nat}
    (paged : session.Paged parent page free left) (reachable : Reachable session)
    (few : free < 3) (room : 0x300000 ≤ left) :
    ∃ machine' shown, (sourced fun source => Machine.copy source parent.id).run
        { session.machine with context := ⟨1, false⟩ } =
          ⟨.error (.space (.outOfMemory ⟨1⟩)), machine', shown⟩ ∧
      session.NoWrap (.copy parent.id) shown := by
  obtain ⟨stealer, machine, isMachine, settled, inList, notRetried⟩ :=
    reachable.exists_machine paged.alone paged.notFailed
  let asked : Machine (Coremap NoEviction) := { machine with context := ⟨1, false⟩ }
  have found : asked.space? parent.id = some parent := space?_of_mem settled.distinct inList
  have most := paged.drawsOfCopy_le reachable
  obtain ⟨_, machine', shown, run, ⟨rfl, _⟩, drawn⟩ := exists_run_error isMachine
    ((paged.ends_copy isMachine settled inList notRetried).mono
      (fun _ _ _ ⟨enough, _⟩ => Nat.not_le_of_lt few enough) (fun _ _ _ => id) fun _ _ => id)
    (draws_copy_le found) (Nat.le_trans most room)
  exact ⟨machine', shown, run,
    paged.stocked.noWrap (by omega) (Nat.le_trans drawn (Nat.le_trans most room))⟩

/-- In every state of a run, a copy that succeeds is private, unless loading its
parent had failed. No identity of a block or of a space has come round again in a run,
and no identity of a block does in the copying. -/
theorem forked_of_copy (reachable : Reachable session)
    (inList : parent ∈ session.machine.spaces) (notFailed : parent.id ∉ session.failed)
    {machine' : Machine (FrameSupply NoEviction)} {shown : List Event}
    (copied : (sourced fun source => Machine.copy source parent.id).run
      { session.machine with context := context } = ⟨.value child, machine', shown⟩)
    (noWrap : ∀ coremap, session.machine.memory.frames.coremap = some coremap →
      coremap.nextBlock.number + draws shown < 0x100000000) :
    ∃ coremap coremap', session.machine.memory.frames.coremap = some coremap ∧
      machine'.memory.frames.coremap = some coremap' ∧
      machine'.spaces = session.machine.spaces ++ [child] ∧
      Forked parent child machine'.spaces coremap.frames coremap'.frames
        session.machine.memory.ram machine'.memory.ram := by
  have notRetried : parent.id ∉ session.retried := fun inRetried =>
    notFailed (reachable.retried_subset inRetried)
  obtain ⟨stealer, machine, isMachine, settled⟩ := reachable.atRest
  rw [isMachine] at inList copied noWrap ⊢
  let asked : Machine (Coremap NoEviction) := { machine with context := context }
  have ready : asked.memory.Ready (draws shown) :=
    settled.ready.of_room (noWrap machine.memory.frames rfl)
  have ends := ends_copy stealer asked settled ready inList
  obtain ⟨mem', rfl, ready', isCopy⟩ := ends.of_value copied (Nat.le_refl _)
  exact ⟨machine.memory.frames, mem'.frames, rfl, rfl, rfl,
    settled.forked inList notFailed notRetried (ready'.mono (Nat.zero_le _)) isCopy⟩

/-- A space with a table and a page has a private copy. -/
theorem forked_of_copy_paged :
    ∃ session parent page child machine' shown coremap coremap', Reachable session ∧
      session.machine.spaces = [parent] ∧
      session.machine.memory.ram.page? parent.directory page ≠ none ∧
      (sourced fun source => Machine.copy source parent.id).run
        { session.machine with context := ⟨1, false⟩ } = ⟨.value child, machine', shown⟩ ∧
      session.machine.memory.frames.coremap = some coremap ∧
      machine'.memory.frames.coremap = some coremap' ∧
      Forked parent child machine'.spaces coremap.frames coremap'.frames
        session.machine.memory.ram machine'.memory.ram := by
  obtain ⟨parent, blank⟩ := exists_blank_opened
  obtain ⟨session, reachable, paged⟩ :=
    blank.exists_paged reachable_opened.1 (.ofNat 0x1000) (by decide) (by decide)
  obtain ⟨child, machine', shown, run, noWrap, _⟩ :=
    paged.exists_copy reachable (by decide) (by decide)
  have inList := paged.mem_spaces
  have notFailed : parent.id ∉ session.failed := paged.notFailed ▸ List.not_mem_nil
  obtain ⟨coremap, coremap', isCoremap, isCoremap', _, forked⟩ :=
    forked_of_copy reachable inList notFailed run noWrap.blocks
  exact ⟨session, parent, _, child, machine', shown, coremap, coremap', reachable, paged.alone,
    paged.mapped, run, isCoremap, isCoremap', forked⟩

/-! ## Copies that fail -/

/-- Nothing can be seen of a copy that failed: every descriptor is as it was, no
block is the child's, and no space was disturbed. -/
structure Traceless (spaces spaces' : List AddressSpace) (child : Owner)
    (frames frames' : Array Descriptor) (ram ram' : Ram) : Prop where
  same : spaces' = spaces
  descriptors : frames' = frames
  nothing : heldFrames frames' child = ∅
  undisturbed : ∀ space ∈ spaces, Undisturbed space spaces' ram ram'

/-- In every state of a run, and however many frames are left where, a copy that
fails does so for want of frames and leaves no trace. It does not panic if its
caller may sleep and every frame can be accessed. As in all of the run, no identity
of a block comes round again in the copying. -/
theorem traceless_of_copy (reachable : Reachable session)
    (inList : parent ∈ session.machine.spaces)
    {outcome : Outcome VmError (Machine (FrameSupply NoEviction)) AddressSpace}
    (copied : (sourced fun source => Machine.copy source parent.id).run
      { session.machine with context := context } = outcome)
    (noWrap : ∀ coremap, session.machine.memory.frames.coremap = some coremap →
      coremap.nextBlock.number + draws outcome.events < 0x100000000) :
    ∃ coremap, session.machine.memory.frames.coremap = some coremap ∧
      (∀ e, outcome.result = .error e → (∃ n, e = .space (.outOfMemory ⟨n⟩)) ∧
        ∃ coremap', outcome.state.memory.frames.coremap = some coremap' ∧
          Traceless session.machine.spaces outcome.state.spaces
            (.space session.machine.memory.nextSpace) coremap.frames coremap'.frames
            session.machine.memory.ram outcome.state.memory.ram) ∧
      (CanSleep (some context) →
        session.machine.memory.ram.Admits coremap.reservation.frameCount →
        ∀ cause, outcome.result ≠ .panic cause) := by
  obtain ⟨stealer, machine, isMachine, settled⟩ := reachable.atRest
  rw [isMachine] at inList copied noWrap ⊢
  let asked : Machine (Coremap NoEviction) := { machine with context := context }
  have ready : asked.memory.Ready (draws outcome.events) :=
    settled.ready.of_room (noWrap machine.memory.frames rfl)
  have ends := ends_copy stealer asked settled ready inList
  refine ⟨machine.memory.frames, rfl, ?_, ?_⟩
  · rcases outcome with ⟨_ | e | _, state, shown⟩ <;> rintro e ⟨⟩
    obtain ⟨isMemory, _, mem', rfl, ready', confined, live_iff⟩ :=
      ends.of_error copied (Nat.le_refl _)
    have tiled := settled.ready.coremap.sound.tiled
    obtain ⟨sameSize, tiled'⟩ := confined.tiled settled.ready.named ready'
    have descriptors : mem'.descriptors = machine.memory.descriptors := by
      apply Array.ext_getElem?
      exact fun i => tiled.getElem?_eq_of_live_iff tiled' sameSize fun b _ => live_iff b
    refine ⟨isMemory, mem'.frames, rfl, rfl, descriptors, ?_, ?_⟩
    · rw [Finset.eq_empty_iff_forall_notMem]
      intro i
      rw [tiled'.mem_heldFrames_iff]
      rintro ⟨b, live, mine, _⟩
      exact settled.nothing b ((live_iff b).mp live) mine
    · intro space old
      exact confined.undisturbed (fun same => settled.id_ne_next old (Owner.space.inj same))
        (settled.holds space old) old
  · intro canSleep admits cause panics
    rcases outcome with ⟨_ | _ | cause, state, shown⟩ <;> cases panics
    exact ends.of_panic copied (Nat.le_refl _) ⟨canSleep, admits⟩

/-- Two frames are left for the copy of a space with a table and a page. They are taken for its
directory and its table, and there is none for its page. -/
theorem traceless_of_copy_paged :
    ∃ session parent page outcome coremap coremap', Reachable session ∧
      session.machine.spaces = [parent] ∧
      session.machine.memory.ram.page? parent.directory page ≠ none ∧
      (sourced fun source => Machine.copy source parent.id).run
        { session.machine with context := ⟨1, false⟩ } = outcome ∧
      outcome.result = .error (.space (.outOfMemory ⟨1⟩)) ∧
      session.machine.memory.frames.coremap = some coremap ∧
      (Coremap.countStates coremap.frames).free = 2 ∧
      outcome.state.memory.frames.coremap = some coremap' ∧
      Traceless session.machine.spaces outcome.state.spaces
        (.space session.machine.memory.nextSpace) coremap.frames coremap'.frames
        session.machine.memory.ram outcome.state.memory.ram := by
  obtain ⟨reachableSmall, window⟩ : Reachable (inhabited 6) ∧ _ :=
    reachable_inhabited (by decide +kernel) (by decide +kernel) (by decide +kernel)
      (noWrap_of_all (by decide +kernel) (by decide +kernel))
  obtain ⟨parent, blank⟩ : ∃ space, (inhabited 6).Blank space 4 0x1000000 :=
    exists_blank window (by decide +kernel)
  obtain ⟨session, reachable, paged⟩ :=
    blank.exists_paged reachableSmall (.ofNat 0x1000) (by decide) (by decide)
  obtain ⟨machine', shown, run, noWrap⟩ :=
    paged.exists_copy_error reachable (by decide) (by decide)
  have inList := paged.mem_spaces
  obtain ⟨coremap, isCoremap, traceless, _⟩ :=
    traceless_of_copy reachable inList run noWrap.blocks
  obtain ⟨_, coremap', isCoremap', noTrace⟩ := traceless _ rfl
  obtain ⟨_, isFree, _⟩ := paged.stocked.stock coremap isCoremap
  exact ⟨session, parent, _, _, coremap, coremap', reachable, paged.alone, paged.mapped, run, rfl,
    isCoremap, isFree, isCoremap', noTrace⟩

end Session

end PagedMemory
