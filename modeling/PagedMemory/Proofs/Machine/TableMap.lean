import PagedMemory.Proofs.Machine.Agreement

/-!
# Two levels of tables are one map

What a space answers of its tables is a map from pages to frames, over a map from slots of
4 MiB to second-level tables. Looking changes nothing. Backing a page enters one page in the
first map, at a frame that was free, and walking with creation enters one slot in the second
and leaves the first alone. That both are kept as words in frames of the same RAM does not
show.
-/

namespace PagedMemory

open Operation

variable {stealer : Stealer} {space : AddressSpace} {address : VirtAddr}
  {frame table : Frame} {mem mem' : Memory (Coremap NoEviction)}
  {machine : Machine (Coremap NoEviction)} {tables : Nat → Option Frame} {complete : Prop}
  {left left' : Nat}

/-! ## Walks that change nothing -/

namespace Machine

/-- With a coremap, an operation that takes its frames from it and changes nothing. -/
theorem run_sourced {α : Type} {a : α}
    {op : FrameSource (Coremap NoEviction) → Operation SpaceError (Machine (Coremap NoEviction)) α}
    (run : (op (Coremap.source (some machine.context))).run machine = ⟨.value a, machine, []⟩) :
    (sourced op).run (withStealer stealer machine) =
      ⟨.value a, withStealer stealer machine, []⟩ := by
  rcases machine with ⟨⟨coremap, ram, nextSpace⟩, spaces, interrupts, firstTlb, secondTlb, running⟩
  unfold sourced
  rw [run_read_bind]
  simp only [withStealer, Operation.run, withCoremap, Operation.mapError] at run ⊢
  rw [run]

theorem run_walk (found : machine.space? space.id = some space)
    (admitted : machine.memory.ram.Admitted space.directory) {create : Bool}
    (there : create = true →
      (machine.memory.ram.table? space.directory (.ofAddr address)).isSome) :
    (sourced fun source => walk source space.id address create).run (withStealer stealer machine) =
      ⟨.value (machine.memory.ram.table? space.directory (.ofAddr address)),
        withStealer stealer machine, []⟩ := by
  apply run_sourced
  rw [walk, run_bind_of_value (run_findSpace found),
    run_onMemory (Memory.run_walk admitted there), List.nil_append]

/-! ## What a machine answers -/

/-- Whichever thread asks, the machine gives this answer and stays as it is. -/
def Answers {α : Type} (machine : Machine (FrameSupply NoEviction))
    (question : Operation VmError (Machine (FrameSupply NoEviction)) α) (answer : α) : Prop :=
  ∀ context, question.run { machine with context := context } =
    ⟨.value answer, { machine with context := context }, []⟩

/-- What a machine says of a space: its tables map pages to frames, and slots of 4 MiB to
second-level tables. -/
structure Charted (machine : Machine (FrameSupply NoEviction)) (id : SpaceId)
    (pages : VirtPage → Option Frame) (tables : Nat → Option Frame) : Prop where
  lookup : ∀ address, machine.Answers (lookup id address) (pages address.page)
  translate : ∀ address, machine.Answers (translate id address)
    ((pages address.page).map fun frame => frame.join address.offset)
  walk : ∀ address, machine.Answers (sourced fun source => walk source id address false)
    (tables (address.toNat / 0x400000))

/-- A page of a space was backed: it is entered in the map at a frame that was free and is
clear now, and the table that covers it is entered as well, unless it was there. -/
structure Backed (before after : Machine (FrameSupply NoEviction)) (id : SpaceId)
    (pages : VirtPage → Option Frame) (tables : Nat → Option Frame) (address : VirtAddr)
    (frame : Frame) : Prop where
  free : ∃ coremap, before.memory.frames.coremap = some coremap ∧
    coremap.frames[frame.number]? = some .free
  clear : after.memory.ram.ClearFrame frame
  charted : ∃ table, (∀ old, tables (address.toNat / 0x400000) = some old → old = table) ∧
    after.Charted id (Function.update pages address.page (some frame))
      (Function.update tables (address.toNat / 0x400000) (some table))

/-- A table of a space was asked for: it is entered in the map of tables, unless it was
there, no page is entered, and whoever asks again gets it and changes nothing. -/
structure Tabled (after : Machine (FrameSupply NoEviction)) (id : SpaceId)
    (pages : VirtPage → Option Frame) (tables : Nat → Option Frame) (address : VirtAddr)
    (table : Frame) : Prop where
  kept : ∀ old, tables (address.toNat / 0x400000) = some old → old = table
  charted : after.Charted id pages
    (Function.update tables (address.toNat / 0x400000) (some table))
  again : after.Answers (sourced fun source => walk source id address true) (some table)

/-- A machine says of a space what the tables in RAM say. -/
theorem charted_of_holds (found : machine.space? space.id = some space)
    (holds : Holds complete space none machine.memory)
    (names : machine.memory.ram.NamesTables space.directory tables) :
    (withStealer stealer machine).Charted space.id (machine.memory.ram.page? space.directory)
      tables where
  lookup address _ := by
    apply run_lookup
    · exact found
    · exact holds.directoryAdmitted
    · exact holds.tablesAdmitted
  translate address _ := by
    apply run_translate
    · exact found
    · exact holds.directoryAdmitted
    · exact holds.tablesAdmitted
  walk address context := by
    let asked : Machine (Coremap NoEviction) := { machine with context := context }
    have found : asked.space? space.id = some space := found
    rw [← names address]
    exact run_walk found holds.directoryAdmitted nofun

/-- A table that is there is found, and no other is made. -/
theorem answers_walk_of_table (found : machine.space? space.id = some space)
    (holds : Holds complete space none machine.memory)
    (named : machine.memory.ram.table? space.directory (.ofAddr address) = some table) :
    (withStealer stealer machine).Answers (sourced fun source => walk source space.id address true)
      (some table) := by
  intro context
  let asked : Machine (Coremap NoEviction) := { machine with context := context }
  have found : asked.space? space.id = some space := found
  rw [← named]
  exact run_walk found holds.directoryAdmitted fun _ => Option.isSome_of_eq_some named

end Machine

/-! ## Changes of the map -/

namespace Memory

/-- What a block has now that no block had was free. -/
theorem Confined.free_of_fresh {owner : Owner} {b : Block} {i : Nat}
    (confined : mem.Confined owner mem') (ready : mem.Ready left) (ready' : mem'.Ready left')
    (live : Live mem'.descriptors b) (covers : b.Covers i)
    (fresh : ∀ d, Live mem.descriptors d → ¬ d.Covers i) : mem.descriptors[i]? = some .free := by
  obtain ⟨sameSize, tiled'⟩ := confined.tiled ready ready'
  have notReserved := Nat.le_trans (tiled'.reserved_le live) covers.1
  have inRam : i < mem.descriptors.size := sameSize ▸ Nat.lt_of_lt_of_le covers.2 live.within
  rw [ready.coremap.sound.tiled.getElem?_of_not_covers fresh,
    if_neg (Nat.not_lt_of_le notReserved), if_pos inRam]

/-- The frame that a page was backed with was free. -/
theorem Materialized.free (made : Materialized space address.page frame mem mem')
    (ready : mem.Ready left) (ready' : mem'.Ready left')
    (holds' : Holds complete space none mem') :
    mem.descriptors[frame.number]? = some .free := by
  have mapped : mem'.ram.page? space.directory address.page = some frame := by
    rw [made.mapped.pages, Function.update_self]
  obtain ⟨b, live, _, covers⟩ := holds'.exists_live_page mapped
  exact made.mapped.extended.confined.free_of_fresh ready ready' live covers made.fresh

/-- If the table was there, backing a page takes no frame but the one for the page. -/
theorem Materialized.getElem?_of_ne (made : Materialized space page frame mem mem')
    (ready : mem.Ready left) (ready' : mem'.Ready left') (holds : Holds complete space none mem)
    (holds' : Holds complete space none mem') (isComplete : complete)
    (named : mem.ram.table? space.directory (.ofPage page) = some table) {i : Nat}
    (other : i ≠ frame.number) : mem'.descriptors[i]? = mem.descriptors[i]? := by
  obtain ⟨extended, unmapped, pages, new, entered⟩ := made.mapped
  obtain ⟨sameSize, tiled'⟩ := extended.confined.tiled ready ready'
  have tables : mem'.ram.table? space.directory = mem.ram.table? space.directory := by
    have still := extended.tables _ table named
    rw [entered, Function.update_self] at still
    rw [entered, still, ← named, Function.update_eq_self]
  have single := made.backs_eq_false holds
  refine ready.coremap.sound.tiled.getElem?_eq_of_live_iff tiled' sameSize fun b covers =>
    ⟨fun live => ?_, extended.live b⟩
  by_cases mine : b.owner = space.owner
  · obtain ⟨slot, isSlot⟩ := holds'.accounted.told isComplete b live mine
    rw [AddressSpace.extent?_of_page tables pages single, ← update_withSpare_some] at isSlot
    rcases update_eq_some_iff.mp isSlot with ⟨_, isNew⟩ | ⟨_, older⟩
    · have coversToo : Extent.Covers (.ofFrame frame) i := Option.some.inj isNew ▸ covers
      exact absurd (Extent.covers_ofFrame_iff.mp coversToo) other
    · obtain ⟨id, old⟩ := holds.accounted.live slot b.extent older
      rwa [live.eq_of_covers (extended.live _ old) covers covers]
  · exact (extended.confined.live_iff b mine).mp live

/-- A table that was there is the one that is entered. -/
theorem Extended.eq_of_names {old : Frame}
    (extended : Extended space.owner space.directory (fun _ => False) mem mem')
    (names : mem.ram.NamesTables space.directory tables)
    (named : mem'.ram.table? space.directory (.ofAddr address) = some table)
    (isOld : tables (address.toNat / 0x400000) = some old) : old = table := by
  have stays := extended.tables _ old ((names address).trans isOld)
  exact Option.some.inj (stays.symm.trans named)

end Memory

namespace Machine

variable {held : List VirtAddr} {failed retried : List SpaceId}

/-- Backing a page of a space that lives needs a frame for the page, and another for its
table unless that is there. -/
theorem ends_materialize_of_mem
    (settled : Settled machine.memory machine.spaces held failed retried)
    (ready : machine.memory.Ready left) (inList : space ∈ machine.spaces)
    (names : machine.memory.ram.NamesTables space.directory tables) :
    (sourced fun source => materialize source space.id address).Ends left
      (withStealer stealer machine)
      ⟨fun frame after _ => Backed (withStealer stealer machine) after space.id
          (machine.memory.ram.page? space.directory) tables address frame,
        fun _ _ _ => Coremap.Starved machine.memory.descriptors 1 ∨
          machine.memory.ram.table? space.directory (.ofAddr address) = none,
        fun _ _ => ¬ Able (some machine.context) machine.memory ∨
          machine.memory.ram.page? space.directory address.page ≠ none⟩ := by
  refine Request.ends_sourced.mpr (ends_bind.mpr ?_)
  refine (ends_findSpace_of_mem settled.distinct inList).mpr (ends_onMemory.mpr ?_)
  refine (Memory.ends_materialize ready (settled.holds space inList)).mono ?_ ?_ ?_
  · rintro frame mem' left' ⟨ready', holds', made⟩
    have found : Machine.space? { machine with memory := mem' } space.id = some space :=
      space?_of_mem settled.distinct inList
    obtain ⟨table, entered⟩ := made.mapped.tables
    have named : mem'.ram.table? space.directory (.ofAddr address) = some table := by
      rw [entered, DirectoryIndex.ofAddr, Function.update_self]
    refine ⟨⟨machine.memory.frames, rfl, made.free ready ready' holds'⟩, made.isClear, table,
      fun _ => made.mapped.extended.eq_of_names names named, ?_⟩
    rw [← made.mapped.pages]
    exact charted_of_holds found holds' (names.update entered)
  · rintro e mem' left' ⟨_, starved, _⟩
    exact starved.imp_right And.left
  · exact fun _ _ refused => refused.reason

/-- Walking with creation in a space that lives needs a frame at most. -/
theorem ends_walk_of_mem
    (settled : Settled machine.memory machine.spaces held failed retried)
    (ready : machine.memory.Ready left) (inList : space ∈ machine.spaces)
    (names : machine.memory.ram.NamesTables space.directory tables) :
    (sourced fun source => walk source space.id address true).Ends left
      (withStealer stealer machine)
      ⟨fun answer after _ => ∃ table, answer = some table ∧ Tabled after space.id
          (machine.memory.ram.page? space.directory) tables address table,
        fun _ _ _ => Coremap.Starved machine.memory.descriptors 1,
        fun _ _ => ¬ Able (some machine.context) machine.memory⟩ := by
  refine Request.ends_sourced.mpr (ends_bind.mpr ?_)
  refine (ends_findSpace_of_mem settled.distinct inList).mpr (ends_onMemory.mpr ?_)
  refine Ends.bind (Memory.ends_ensureTable ready (settled.holds space inList)) ?_ ?_ ?_
  · rintro table mem' _ ⟨_, holds', extended, entered, pages⟩
    have found : Machine.space? { machine with memory := mem' } space.id = some space :=
      space?_of_mem settled.distinct inList
    have named : mem'.ram.table? space.directory (.ofAddr address) = some table := by
      rw [entered, Function.update_self]
    refine ends_pure.mpr ⟨table, rfl, fun _ => extended.eq_of_names names named, ?_, ?_⟩
    · rw [← pages]
      exact charted_of_holds found holds' (names.update entered)
    · exact answers_walk_of_table found holds' named
  · rintro e mem' left' ⟨_, starved, _⟩
    exact starved
  · exact fun _ _ refused => refused.reason

end Machine

namespace Session

open Machine

variable {session : Session}

/-- In every state of a run there is a coremap, and a space that lives is held in memory and
answered for by its tables in RAM. -/
theorem Reachable.exists_settled (reachable : Reachable session)
    (inList : space ∈ session.machine.spaces) :
    ∃ stealer machine, session.machine = withStealer stealer machine ∧
      Settled machine.memory machine.spaces session.held session.failed session.retried ∧
      space ∈ machine.spaces ∧
      session.machine.memory.frames.coremap = some machine.memory.frames ∧
      session.machine.Charted space.id (machine.memory.ram.page? space.directory)
        (machine.memory.ram.slotTable? space.directory) := by
  obtain ⟨stealer, machine, isMachine, settled⟩ := reachable.atRest
  rw [isMachine] at inList ⊢
  have names := machine.memory.ram.namesTables_slotTable? space.directory
  have found := space?_of_mem settled.distinct inList
  exact ⟨stealer, machine, rfl, settled, inList, rfl,
    charted_of_holds found (settled.holds space inList) names⟩

/-- In every state of a run the tables of a space are a map: a page that is backed is
entered in it, and so is a table that is walked to with creation. In these states no identity
of a block or of a space has come round again. -/
theorem charted_of_reachable (reachable : Reachable session)
    (inList : space ∈ session.machine.spaces) :
    ∃ pages tables, session.machine.Charted space.id pages tables ∧
      (∀ context address frame machine' shown,
        (sourced fun source => materialize source space.id address).run
          { session.machine with context := context } = ⟨.value frame, machine', shown⟩ →
        session.NoWrap (.materialize space.id address) shown →
        Backed { session.machine with context := context } machine' space.id pages tables address
          frame) ∧
      ∀ context address answer machine' shown,
        (sourced fun source => walk source space.id address true).run
          { session.machine with context := context } = ⟨.value answer, machine', shown⟩ →
        session.NoWrap (.walk space.id address true) shown →
        ∃ table, answer = some table ∧ Tabled machine' space.id pages tables address table := by
  obtain ⟨stealer, machine, isMachine, settled⟩ := reachable.atRest
  have ready {request : Request} {shown : List Event} (noWrap : session.NoWrap request shown) :
      machine.memory.Ready (draws shown) :=
    settled.ready.of_room (noWrap.blocks machine.memory.frames (by rw [isMachine]; rfl))
  rw [isMachine] at inList ⊢
  have names := machine.memory.ram.namesTables_slotTable? space.directory
  have found := space?_of_mem settled.distinct inList
  refine ⟨_, _, charted_of_holds found (settled.holds space inList) names, ?_, ?_⟩
  · intro context address frame machine' shown run noWrap
    let asked : Machine (Coremap NoEviction) := { machine with context := context }
    have settled : Settled asked.memory asked.spaces _ _ _ := settled
    exact (ends_materialize_of_mem settled (ready noWrap) inList names).of_value run (Nat.le_refl _)
  · intro context address answer machine' shown run noWrap
    let asked : Machine (Coremap NoEviction) := { machine with context := context }
    have settled : Settled asked.memory asked.spaces _ _ _ := settled
    exact (ends_walk_of_mem settled (ready noWrap) inList names).of_value run (Nat.le_refl _)

/-- In a small run a page is backed, or a table is walked to. -/
theorem charted_of_reachable_blank :
    ∃ session space pages tables, Reachable session ∧ space ∈ session.machine.spaces ∧
      session.machine.Charted space.id pages tables ∧
      (∃ frame machine' shown,
        (sourced fun source => materialize source space.id stackBase.base).run
          { session.machine with context := ⟨1, false⟩ } = ⟨.value frame, machine', shown⟩ ∧
        Backed { session.machine with context := ⟨1, false⟩ } machine' space.id pages tables
          stackBase.base frame) ∧
      ∃ table machine' shown, (sourced fun source => walk source space.id (.ofNat 0) true).run
          { session.machine with context := ⟨1, false⟩ } = ⟨.value (some table), machine', shown⟩ ∧
        Tabled machine' space.id pages tables (.ofNat 0) table := by
  have reachable := reachable_opened.1
  obtain ⟨space, blank⟩ := exists_blank_opened
  generalize opened = session at reachable blank
  have inList := blank.mem_spaces
  have unnamed := blank.unnamed reachable
  obtain ⟨pages, tables, charted, backed, tabled⟩ := charted_of_reachable reachable inList
  have notRetried := reachable.not_mem_retried blank.notFailed space.id
  obtain ⟨frame, after, shown, backs, noWrap, _⟩ := blank.stocked.exists_backed reachable inList
    notRetried stackBase.base (Ram.page?_eq_none_of_table? (unnamed _)) (by decide) (by decide)
  obtain ⟨table, after', shown', walks, noWrap'⟩ := blank.stocked.exists_walked reachable inList
    notRetried (.ofNat 0) (unnamed _) (by decide) (by decide)
  obtain ⟨_, isTable, isTabled⟩ := tabled _ _ _ _ _ walks noWrap'
  obtain rfl := Option.some.inj isTable
  exact ⟨session, space, pages, tables, reachable, inList, charted,
    ⟨frame, _, shown, backs, backed _ _ _ _ _ backs noWrap⟩, table, _, shown', walks, isTabled⟩

end Session

end PagedMemory
