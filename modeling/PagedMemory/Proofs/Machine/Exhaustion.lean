import PagedMemory.Proofs.Machine.TableMap

/-!
# When frames run out

A request of a space for frames returns exactly if as many frames are free as it needs:
one for a table that is missing, and one for a page. If it does not return, the frame that
may have been taken on the way was given back, and what is recorded of frames, the bytes
of all frames that are not free, and all that the tables of the space say are as before.
-/

namespace PagedMemory

open Operation

variable {stealer : Stealer} {space : AddressSpace} {address : VirtAddr}
  {frame table : Frame} {mem mem' : Memory (Coremap NoEviction)}
  {machine : Machine (Coremap NoEviction)} {tables : Nat → Option Frame} {complete : Prop}
  {left left' : Nat}

/-- A frame that a space uses is not free. -/
theorem Holds.not_free {spare : Option Extent} (holds : Holds complete space spare mem)
    {slot : Option Slot} (uses : space.Uses spare mem.ram slot frame) :
    mem.descriptors[frame.number]? ≠ some .free := by
  obtain ⟨b, live, _, covers⟩ := holds.exists_live uses
  rw [live.recorded _ covers]
  nofun

namespace Memory

/-- A table that is new lies on a frame that was free. -/
theorem Extended.free (extended : Extended space.owner space.directory (fun _ => False) mem mem')
    (ready : mem.Ready left) (ready' : mem'.Ready left') (holds' : Holds complete space none mem')
    {i : DirectoryIndex} (unnamed : mem.ram.table? space.directory i = none)
    (named : mem'.ram.table? space.directory i = some table) :
    mem.descriptors[table.number]? = some .free := by
  obtain ⟨b, live, _, covers⟩ := holds'.exists_live (uses_table named)
  refine extended.confined.free_of_fresh ready ready' live covers ?_
  rcases extended.fresh i table named with old | fresh
  · cases unnamed.symm.trans old
  · exact fresh

end Memory

namespace Machine

variable {α : Type}

/-- A request that failed left nothing behind. -/
structure Untouched (before after : Machine (FrameSupply NoEviction)) (space : AddressSpace)
    (pages : VirtPage → Option Frame) (tables : Nat → Option Frame) : Prop where
  /-- What is recorded of every frame is as before. -/
  descriptors : after.memory.frames.coremap.map Coremap.frames =
    before.memory.frames.coremap.map Coremap.frames
  /-- A frame that is not free has the same bytes. -/
  bytes : ∀ coremap, before.memory.frames.coremap = some coremap → ∀ frame : Frame,
    coremap.frames[frame.number]? ≠ some .free →
      Ram.SameFrame frame before.memory.ram after.memory.ram
  directory : Ram.SameFrame space.directory before.memory.ram after.memory.ram
  named : ∀ (address : VirtAddr) (table : Frame),
    tables (address.toNat / 0x400000) = some table →
      Ram.SameFrame table before.memory.ram after.memory.ram
  spaces : after.spaces = before.spaces
  /-- The tables say the same. -/
  charted : after.Charted space.id pages tables

/-- How a request ends that needs a number of frames, if it is `proper`. -/
structure Spends (before : Machine (FrameSupply NoEviction)) (coremap : Coremap NoEviction)
    (space : AddressSpace) (pages : VirtPage → Option Frame) (tables : Nat → Option Frame)
    (proper : Prop) (needed : Nat)
    (outcome : Outcome VmError (Machine (FrameSupply NoEviction)) α) : Prop where
  /-- A thread that may sleep gets an answer where RAM can be accessed. -/
  total : proper → CanSleep (some before.context) →
    before.memory.ram.Admits coremap.reservation.frameCount →
      ∀ cause, outcome.result ≠ .panic cause
  returns : proper → (∀ cause, outcome.result ≠ .panic cause) →
    ((∃ a, outcome.result = .value a) ↔ needed ≤ (Coremap.countStates coremap.frames).free)
  fails : ∀ e, outcome.result = .error e → e = .space (.outOfMemory ⟨1⟩) ∧
    Untouched before outcome.state space pages tables

/-- What a request that needs a number of frames is known to end in. -/
def spending (before : Machine (FrameSupply NoEviction)) (coremap : Coremap NoEviction)
    (space : AddressSpace) (pages : VirtPage → Option Frame) (tables : Nat → Option Frame)
    (proper : Prop) (needed : Nat) : Post VmError (Machine (FrameSupply NoEviction)) α where
  value _ _ _ := needed ≤ (freeFrames coremap.frames).card
  error e after _ := e = .space (.outOfMemory ⟨1⟩) ∧
    (freeFrames coremap.frames).card < needed ∧ Untouched before after space pages tables
  panic _ _ := proper → ¬ (CanSleep (some before.context) ∧
    before.memory.ram.Admits coremap.reservation.frameCount)

theorem spends_of_ends {before : Machine (FrameSupply NoEviction)} {coremap : Coremap NoEviction}
    {pages : VirtPage → Option Frame} {proper : Prop} {needed : Nat}
    {op : Operation VmError (Machine (FrameSupply NoEviction)) α}
    (ends : op.Ends (draws (op.run before).events) before
      (spending before coremap space pages tables proper needed)) :
    Spends before coremap space pages tables proper needed (op.run before) := by
  have met := ends (Nat.le_refl _)
  generalize op.run before = outcome at met ⊢
  rcases outcome with ⟨a | e | cause, after, shown⟩
  · exact ⟨nofun, fun _ _ => iff_of_true ⟨a, rfl⟩ (countStates_free_eq_card _ ▸ met), nofun⟩
  · obtain ⟨isMemory, few, untouched⟩ := met
    refine ⟨nofun, fun _ _ => iff_of_false nofun ?_, ?_⟩
    · rw [countStates_free_eq_card]
      exact Nat.not_le_of_lt few
    · rintro _ ⟨⟩
      exact ⟨isMemory, untouched⟩
  · refine ⟨?_, fun _ noPanic => absurd rfl (noPanic cause), nofun⟩
    rintro isProper canSleep admits _ ⟨⟩
    exact met isProper ⟨canSleep, admits⟩

variable {held : List VirtAddr} {failed retried : List SpaceId}

/-- A step for a space that was undone leaves the machine untouched. -/
theorem untouched_of_restored
    (settled : Settled machine.memory machine.spaces held failed retried)
    (inList : space ∈ machine.spaces)
    (names : machine.memory.ram.NamesTables space.directory tables)
    (restored : Memory.Restored space machine.memory mem') :
    Untouched (withStealer stealer machine) (withStealer stealer { machine with memory := mem' })
      space (machine.memory.ram.page? space.directory) tables where
  descriptors := congrArg some restored.descriptors
  bytes := by
    rintro _ ⟨⟩ frame notFree
    exact restored.kept frame notFree
  directory :=
    restored.kept _ ((settled.holds space inList).not_free (uses_directory machine.memory.ram))
  named address table named :=
    restored.kept _ ((settled.holds space inList).not_free (uses_table (names address ▸ named)))
  spaces := rfl
  charted := by
    have found : Machine.space? { machine with memory := mem' } space.id = some space :=
      space?_of_mem settled.distinct inList
    have names' : mem'.ram.NamesTables space.directory tables := fun address => by
      rw [restored.tables, names address]
    rw [← restored.pages]
    exact charted_of_holds found (restored.holds (settled.holds space inList)) names'

/-- Walking with creation needs a frame for a table that is missing. -/
theorem ends_walk_spending
    (settled : Settled machine.memory machine.spaces held failed retried)
    (ready : machine.memory.Ready left) (inList : space ∈ machine.spaces)
    (names : machine.memory.ram.NamesTables space.directory tables) :
    (sourced fun source => walk source space.id address true).Ends left
      (withStealer stealer machine)
      (spending (withStealer stealer machine) machine.memory.frames space
        (machine.memory.ram.page? space.directory) tables True
        (if tables (address.toNat / 0x400000) = none then 1 else 0)) := by
  have holds := settled.holds space inList
  rw [← names address]
  refine Request.ends_sourced.mpr (ends_bind.mpr ?_)
  refine (ends_findSpace_of_mem settled.distinct inList).mpr (ends_onMemory.mpr ?_)
  refine Ends.bind (Memory.ends_ensureTable ready holds) ?_ ?_ ?_
  · rintro table mem' _ ⟨ready', holds', extended, entered, _⟩
    refine ends_pure.mpr ?_
    have named : mem'.ram.table? space.directory (.ofAddr address) = some table := by
      rw [entered, Function.update_self]
    split
    · next unnamed =>
      have isFree := extended.free ready ready' holds' unnamed named
      exact Finset.card_pos.mpr ⟨_, mem_freeFrames_iff.mpr isFree⟩
    · exact Nat.zero_le _
  · rintro e mem' left' ⟨rfl, starved, unnamed, same⟩
    refine ⟨rfl, ?_, untouched_of_restored settled inList names (same.restored space)⟩
    rw [if_pos unnamed, starved.freeFrames_eq_empty, Finset.card_empty]
    exact Nat.one_pos
  · exact fun _ _ refused _ able => refused.reason ⟨able.1, able.2⟩

/-- Backing a page needs a frame for it and another for a table that is missing. -/
theorem ends_materialize_spending
    (settled : Settled machine.memory machine.spaces held failed retried)
    (ready : machine.memory.Ready left) (inList : space ∈ machine.spaces)
    (names : machine.memory.ram.NamesTables space.directory tables) :
    (sourced fun source => materialize source space.id address).Ends left
      (withStealer stealer machine)
      (spending (withStealer stealer machine) machine.memory.frames space
        (machine.memory.ram.page? space.directory) tables
        (machine.memory.ram.page? space.directory address.page = none)
        (if tables (address.toNat / 0x400000) = none then 2 else 1)) := by
  have holds := settled.holds space inList
  rw [← names address]
  refine Request.ends_sourced.mpr (ends_bind.mpr ?_)
  refine (ends_findSpace_of_mem settled.distinct inList).mpr (ends_onMemory.mpr ?_)
  refine (Memory.ends_materialize ready holds).mono ?_ ?_ ?_
  · rintro frame mem' _ ⟨ready', holds', made⟩
    have pageFree := mem_freeFrames_iff.mpr (made.free ready ready' holds')
    split
    · next unnamed =>
      obtain ⟨table, entered⟩ := made.mapped.tables
      have named : mem'.ram.table? space.directory (.ofAddr address) = some table := by
        rw [entered, DirectoryIndex.ofAddr, Function.update_self]
      have tableFree := mem_freeFrames_iff.mpr
        (made.mapped.extended.free ready ready' holds' unnamed named)
      have mapped : mem'.ram.page? space.directory address.page = some frame := by
        rw [made.mapped.pages, Function.update_self]
      have different : frame.number ≠ table.number :=
        fun same => holds'.page_ne_table mapped named (Page.ext same)
      exact Finset.one_lt_card.mpr ⟨_, pageFree, _, tableFree, different⟩
    · exact Finset.card_pos.mpr ⟨_, pageFree⟩
  · rintro e mem' left' ⟨rfl, lacking, _, restored⟩
    exact ⟨rfl, card_free_lt_pageNeeds lacking,
      untouched_of_restored settled inList names restored⟩
  · exact fun _ _ refused unmapped able =>
      refused.reason.elim (fun cannot => cannot ⟨able.1, able.2⟩) fun mapped => mapped unmapped

end Machine

namespace Session

open Machine

variable {session : Session}

/-- In every state of a run, walking with creation and backing a page return exactly if as
many frames are free as they need, and leave nothing behind if they do not. No identity of a
block or of a space has come round again in a run. -/
theorem spends_of_reachable (reachable : Reachable session)
    (inList : space ∈ session.machine.spaces) :
    ∃ coremap pages tables, session.machine.memory.frames.coremap = some coremap ∧
      session.machine.Charted space.id pages tables ∧
      (∀ context address outcome,
        (sourced fun source => walk source space.id address true).run
          { session.machine with context := context } = outcome →
        session.NoWrap (.walk space.id address true) outcome.events →
        Spends { session.machine with context := context } coremap space pages tables True
          (if tables (address.toNat / 0x400000) = none then 1 else 0) outcome) ∧
      ∀ context address outcome,
        (sourced fun source => materialize source space.id address).run
          { session.machine with context := context } = outcome →
        session.NoWrap (.materialize space.id address) outcome.events →
        Spends { session.machine with context := context } coremap space pages tables
          (pages address.page = none)
          (if tables (address.toNat / 0x400000) = none then 2 else 1) outcome := by
  obtain ⟨stealer, machine, isMachine, settled, inList, isCoremap, charted⟩ :=
    reachable.exists_settled inList
  have ready {request : Request} {shown : List Event} (noWrap : session.NoWrap request shown) :
      machine.memory.Ready (draws shown) :=
    settled.ready.of_room (noWrap.blocks machine.memory.frames isCoremap)
  have names := machine.memory.ram.namesTables_slotTable? space.directory
  refine ⟨machine.memory.frames, _, _, isCoremap, charted, ?_, ?_⟩
  · rintro context address _ rfl noWrap
    let asked : Machine (Coremap NoEviction) := { machine with context := context }
    have settled : Settled asked.memory asked.spaces _ _ _ := settled
    rw [withContext_eq isMachine] at noWrap ⊢
    exact spends_of_ends (ends_walk_spending settled (ready noWrap) inList names)
  · rintro context address _ rfl noWrap
    let asked : Machine (Coremap NoEviction) := { machine with context := context }
    have settled : Settled asked.memory asked.spaces _ _ _ := settled
    rw [withContext_eq isMachine] at noWrap ⊢
    exact spends_of_ends (ends_materialize_spending settled (ready noWrap) inList names)

/-- Where no frame is free no page can be backed, and where frames are left a table can be
walked to. -/
theorem spends_of_reachable_exhausted :
    (∃ space coremap pages tables outcome, Reachable exhausted ∧
      space ∈ exhausted.machine.spaces ∧
      (sourced fun source => materialize source space.id (.ofNat 0)).run
        { exhausted.machine with context := ⟨1, false⟩ } = outcome ∧
      outcome.result = .error (.space (.outOfMemory ⟨1⟩)) ∧
      Spends { exhausted.machine with context := ⟨1, false⟩ } coremap space pages tables
        (pages (.ofNumber 0) = none) (if tables 0 = none then 2 else 1) outcome) ∧
    ∃ session space coremap pages tables outcome, Reachable session ∧
      space ∈ session.machine.spaces ∧
      (sourced fun source => walk source space.id (.ofNat 0) true).run
        { session.machine with context := ⟨1, false⟩ } = outcome ∧
      (∃ answer, outcome.result = .value answer) ∧
      Spends { session.machine with context := ⟨1, false⟩ } coremap space pages tables True
        (if tables 0 = none then 1 else 0) outcome := by
  constructor
  · obtain ⟨space, blank, isFirst⟩ := exists_blank_exhausted
    have inList := blank.mem_spaces
    obtain ⟨coremap, pages, tables, _, _, _, backs⟩ :=
      spends_of_reachable reachable_exhausted.1 inList
    refine ⟨space, coremap, pages, tables, _, reachable_exhausted.1, inList, rfl, ?_,
      backs ⟨1, false⟩ (.ofNat 0) _ rfl ?_⟩
    · rw [isFirst]
      decide +kernel
    · rw [isFirst]
      exact noWrap_of_all (by decide +kernel) (by decide +kernel)
  · have reachable := reachable_opened.1
    obtain ⟨space, blank⟩ := exists_blank_opened
    generalize opened = session at reachable blank
    have inList := blank.mem_spaces
    have unnamed := blank.unnamed reachable
    obtain ⟨coremap, pages, tables, _, _, walks, _⟩ := spends_of_reachable reachable inList
    have notRetried := reachable.not_mem_retried blank.notFailed space.id
    obtain ⟨table, _, shown, run, noWrap⟩ := blank.stocked.exists_walked reachable inList
      notRetried (.ofNat 0) (unnamed _) (by decide) (by decide)
    exact ⟨session, space, coremap, pages, tables, _, reachable, inList, run, ⟨some table, rfl⟩,
      walks ⟨1, false⟩ (.ofNat 0) _ run noWrap⟩

end Session

end PagedMemory
