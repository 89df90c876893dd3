import PagedMemory.Proofs.Machine.Draws
import PagedMemory.Proofs.Space.Ample
import PagedMemory.Proofs.Space.Needs
import PagedMemory.Proofs.Space.Sources

/-!
# Requests that are granted

A request for frames is granted if enough of them are free, identities are left to be drawn, and
its caller may sleep where RAM can be accessed. So what a session has in stock tells which
requests return, and what is in stock afterwards: a page is backed if a frame is free for it and
one for its table, and a space is loaded that has its tables if frames are ample for it.
-/

namespace PagedMemory

namespace Session

open Machine

variable {session : Session}

/-! ## Steps of a run -/

/-- Whether identities come round again can be computed. -/
theorem noWrap_of_all {request : Request} {shown : List Event}
    (blocks : (session.machine.memory.frames.coremap.all fun coremap => decide
      (coremap.nextBlock.number + draws shown < 0x100000000)) = true)
    (spaces : session.machine.memory.nextSpace.number + 1 < 0x100000000) :
    session.NoWrap request shown where
  blocks coremap isCoremap := by
    rw [isCoremap] at blocks
    exact of_decide_eq_true blocks
  spaces _ := spaces

/-- A request that succeeds is a step. -/
theorem Step.of_value {context : Context} {request : Request} {answer : Option VirtAddr}
    (permitted : session.Permitted request)
    (result : (session.outcome context request).result = .value answer)
    (noWrap : session.NoWrap request (session.outcome context request).events) :
    Step session (session.after request (session.outcome context request)) := by
  refine .act context request permitted ?_ noWrap
  intro cause panics
  rw [result] at panics
  cases panics

/-- A request that takes frames from the coremap and succeeds is a step. -/
theorem Step.of_sourced (request : Request) {α : Type} {a : α} {context : Context}
    {machine' : Machine (FrameSupply NoEviction)} {shown : List Event}
    {op : FrameSource (Coremap NoEviction) →
      Operation SpaceError (Machine (Coremap NoEviction)) α}
    (permitted : session.Permitted request)
    (performs : request.perform = do let _ ← sourced op; return none)
    (run : (sourced op).run { session.machine with context := context } =
      ⟨.value a, machine', shown⟩) (noWrap : session.NoWrap request shown) :
    Step session (session.after request ⟨.value none, machine', shown⟩) := by
  have ended := outcome_eq_of_sourced performs run
  rw [← ended]
  exact .of_value permitted (by rw [ended]) (by rw [ended]; exact noWrap)

/-- A request that takes frames from the coremap and reports an error is a step. -/
theorem Step.of_sourced_error (request : Request) {α : Type} {e : VmError} {context : Context}
    {machine' : Machine (FrameSupply NoEviction)} {shown : List Event}
    {op : FrameSource (Coremap NoEviction) →
      Operation SpaceError (Machine (Coremap NoEviction)) α}
    (permitted : session.Permitted request)
    (performs : request.perform = do let _ ← sourced op; return none)
    (run : (sourced op).run { session.machine with context := context } =
      ⟨.error e, machine', shown⟩) (noWrap : session.NoWrap request shown) :
    Step session (session.after request ⟨.error e, machine', shown⟩) := by
  have ended : session.outcome context request = ⟨.error e, machine', shown⟩ := by
    rw [outcome, performs, Operation.run_bind_of_error run]
  rw [← ended]
  refine .act context request permitted ?_ (by rw [ended]; exact noWrap)
  intro cause panics
  rw [ended] at panics
  cases panics

/-- A run goes on with a request that succeeds. -/
theorem Reachable.act (reachable : Reachable session) {context : Context} {request : Request}
    {answer : Option VirtAddr} (permitted : session.Permitted request)
    (result : (session.outcome context request).result = .value answer)
    (noWrap : session.NoWrap request (session.outcome context request).events) :
    Reachable (session.after request (session.outcome context request)) :=
  reachable.step (.of_value permitted result noWrap)

/-- A run goes on with a request that takes frames from the coremap and succeeds. -/
theorem Reachable.act_of_sourced (reachable : Reachable session) (request : Request)
    {α : Type} {a : α} {context : Context} {machine' : Machine (FrameSupply NoEviction)}
    {shown : List Event}
    {op : FrameSource (Coremap NoEviction) →
      Operation SpaceError (Machine (Coremap NoEviction)) α}
    (permitted : session.Permitted request)
    (performs : request.perform = do let _ ← sourced op; return none)
    (run : (sourced op).run { session.machine with context := context } =
      ⟨.value a, machine', shown⟩) (noWrap : session.NoWrap request shown) :
    Reachable (session.after request ⟨.value none, machine', shown⟩) :=
  reachable.step (.of_sourced request permitted performs run noWrap)

/-! ## Beginnings -/

/-- A machine with so many frames of RAM, none of them occupied. -/
def bare (frames : Nat) : Machine (FrameSupply NoEviction) :=
  .initial (.ofLayout ⟨.ofNat 0, .ofNat (frames * 4096)⟩) (.zeroed .directMap frames)

/-- There is a coremap in the first of these frames. -/
def booted (frames : Nat) : Session where
  machine := ((bootstrap NoEviction.mk).run (bare frames)).state
  held := []
  failed := []
  retried := []

/-- A run begins if the coremap can be built. -/
theorem reachable_booted {frames : Nat}
    (built : ((bootstrap NoEviction.mk).run (bare frames)).result = .value ()) :
    Reachable (booted frames) := by
  have size : (Ram.zeroed .directMap frames).size = frames * 4096 := Ram.size_zeroed _ _
  refine .boot rfl ?_ (Operation.run_eq_of_result_of_state built rfl)
  exact Nat.le_trans (Nat.mod_le _ _) (Nat.le_of_eq size.symm)

/-- Only spaces whose loading had failed were loaded again. -/
theorem Reachable.retried_subset (reachable : Reachable session) :
    session.retried ⊆ session.failed := by
  induction reachable with
  | boot => exact List.Subset.refl []
  | step _ step ih =>
    obtain ⟨context, request, _, noPanic, _⟩ := step
    exact retried_subset_after request _ ih

theorem Reachable.retried_eq_nil (reachable : Reachable session) (notFailed : session.failed = []) :
    session.retried = [] := by
  have subset := reachable.retried_subset
  rw [notFailed] at subset
  exact List.subset_nil.mp subset

theorem Reachable.not_mem_retried (reachable : Reachable session)
    (notFailed : session.failed = []) (id : SpaceId) : id ∉ session.retried := by
  rw [reachable.retried_eq_nil notFailed]
  exact List.not_mem_nil

/-! ## What is in stock -/

variable {stealer : Stealer} {machine machine' : Machine (Coremap NoEviction)}
  {held : List VirtAddr} {failed retried : List SpaceId} {space : AddressSpace} {free left : Nat}
  {α : Type}

/-- Below the kernel's supply an operation draws what it draws there. -/
theorem draws_sourced_le (stealer : Stealer) {op : FrameSource (Coremap NoEviction) →
      Operation SpaceError (Machine (Coremap NoEviction)) α} {asked : Machine (Coremap NoEviction)}
    {most : Nat}
    (few : draws ((op (Coremap.source (some asked.context))).run asked).events ≤ most) :
    draws ((sourced op).run (withStealer stealer asked)).events ≤ most := by
  rw [events_sourced]
  exact few

/-- An operation returns that has no reason to fail. -/
theorem exists_run (isMachine : session.machine = withStealer stealer machine)
    {op : FrameSource (Coremap NoEviction) →
      Operation SpaceError (Machine (Coremap NoEviction)) α}
    {holds : α → Machine (FrameSupply NoEviction) → Nat → Prop} {most : Nat}
    (ends : (sourced op).Ends left (withStealer stealer { machine with context := ⟨1, false⟩ })
      ⟨holds, fun _ _ _ => False, fun _ _ => False⟩)
    (few : draws ((op (Coremap.source (some ⟨1, false⟩))).run
      { machine with context := ⟨1, false⟩ }).events ≤ most) (enough : most ≤ left) :
    ∃ a after shown, (sourced op).run { session.machine with context := ⟨1, false⟩ } =
        ⟨.value a, after, shown⟩ ∧ holds a after (left - draws shown) ∧ draws shown ≤ most := by
  have drawn := draws_sourced_le stealer few
  obtain ⟨a, after, shown, run, held⟩ := ends.exists_value (Nat.le_trans drawn enough)
  rw [run] at drawn
  rw [← withContext_eq isMachine] at run
  exact ⟨a, after, shown, run, held, drawn⟩

/-- An operation reports an error that has no reason to end in another way. -/
theorem exists_run_error (isMachine : session.machine = withStealer stealer machine)
    {op : FrameSource (Coremap NoEviction) →
      Operation SpaceError (Machine (Coremap NoEviction)) α}
    {holds : VmError → Machine (FrameSupply NoEviction) → Nat → Prop} {most : Nat}
    (ends : (sourced op).Ends left (withStealer stealer { machine with context := ⟨1, false⟩ })
      ⟨fun _ _ _ => False, holds, fun _ _ => False⟩)
    (few : draws ((op (Coremap.source (some ⟨1, false⟩))).run
      { machine with context := ⟨1, false⟩ }).events ≤ most) (enough : most ≤ left) :
    ∃ e after shown, (sourced op).run { session.machine with context := ⟨1, false⟩ } =
        ⟨.error e, after, shown⟩ ∧ holds e after (left - draws shown) ∧ draws shown ≤ most := by
  have drawn := draws_sourced_le stealer few
  obtain ⟨e, after, shown, run, held⟩ := ends.exists_error (Nat.le_trans drawn enough)
  rw [run] at drawn
  rw [← withContext_eq isMachine] at run
  exact ⟨e, after, shown, run, held, drawn⟩

/-- What a session has in stock: all frames can be accessed, so many of them are free, and so many
identities are left to be drawn. -/
structure Stocked (session : Session) (free left : Nat) : Prop where
  window : session.machine.memory.ram.window = .directMap
  stock : ∀ coremap, session.machine.memory.frames.coremap = some coremap →
    coremap.reservation.frameCount ≤ 64 ∧ (Coremap.countStates coremap.frames).free = free ∧
      coremap.nextBlock.number + left < 0x100000000
  names : session.machine.memory.nextSpace.number + left < 0x100000000

namespace Stocked

/-- Nothing stands in the way of a thread that may sleep. -/
theorem able (stocked : session.Stocked free left)
    (isMachine : session.machine = withStealer stealer machine) :
    Able (some ⟨1, false⟩) machine.memory := by
  have window := stocked.window
  have stock := stocked.stock
  rw [isMachine] at window stock
  obtain ⟨small, _⟩ := stock machine.memory.frames rfl
  refine ⟨by decide, Ram.admits_of_directMap window ?_⟩
  exact Nat.le_trans (Nat.mul_le_mul_right 4096 small) (by decide)

theorem card_free (stocked : session.Stocked free left)
    (isMachine : session.machine = withStealer stealer machine) :
    (freeFrames machine.memory.descriptors).card = free := by
  have stock := stocked.stock
  rw [isMachine] at stock
  obtain ⟨_, isFree, _⟩ := stock machine.memory.frames rfl
  exact (countStates_free_eq_card _).symm.trans isFree

theorem ready (stocked : session.Stocked free left)
    (isMachine : session.machine = withStealer stealer machine)
    (settled : Settled machine.memory machine.spaces held failed retried) :
    machine.memory.Ready left := by
  have stock := stocked.stock
  rw [isMachine] at stock
  exact settled.ready.of_room (stock machine.memory.frames rfl).2.2

/-- No identity comes round again in a request that draws what is left. -/
theorem noWrap (stocked : session.Stocked free left) (some : 0 < left) {request : Request}
    {shown : List Event} (few : draws shown ≤ left) : session.NoWrap request shown where
  blocks coremap isCoremap :=
    Nat.lt_of_le_of_lt (Nat.add_le_add_left few _) (stocked.stock coremap isCoremap).2.2
  spaces _ := Nat.lt_of_le_of_lt (Nat.add_le_add_left some _) stocked.names

/-- What work for an owner takes is missing from the stock. -/
theorem work (stocked : session.Stocked free left)
    (isMachine : session.machine = withStealer stealer machine) {session' : Session}
    {stealer' : Stealer} (isMachine' : session'.machine = withStealer stealer' machine')
    {mem : Memory (Coremap NoEviction)} (sameFrames : mem.frames = machine.memory.frames)
    (sameRam : mem.ram = machine.memory.ram) {left' more taken : Nat} {owner : Owner}
    (ready : mem.Ready left') (ready' : machine'.memory.Ready more)
    (confined : mem.Confined owner machine'.memory)
    (names : mem.nextSpace.number + more < 0x100000000)
    (count : Coremap.countHeldBy machine'.memory.descriptors owner =
      Coremap.countHeldBy mem.descriptors owner + taken) :
    session'.Stocked (free - taken) more := by
  have card := stocked.card_free isMachine
  have sum := confined.card_free_add_countHeldBy ready ready'
  have window := stocked.window
  have stock := stocked.stock
  rw [isMachine] at window stock
  obtain ⟨small, _⟩ := stock machine.memory.frames rfl
  constructor
  case window =>
    rw [isMachine']
    exact confined.window.trans (sameRam ▸ window)
  case stock =>
    rw [isMachine']
    rintro _ ⟨⟩
    have same : mem.descriptors = machine.memory.descriptors := congrArg Coremap.frames sameFrames
    have isFree : (freeFrames machine'.memory.descriptors).card = free - taken := by
      rw [same] at sum count
      omega
    refine ⟨?_, (countStates_free_eq_card _).trans isFree, ready'.coremap.room⟩
    rw [confined.reservation, sameFrames]
    exact small
  case names =>
    rw [isMachine']
    exact confined.nextSpace ▸ names

/-- What work for a space takes that lives is missing from the stock. -/
theorem spend (stocked : session.Stocked free left)
    (isMachine : session.machine = withStealer stealer machine)
    (settled : Settled machine.memory machine.spaces held failed retried) {session' : Session}
    {stealer' : Stealer} (isMachine' : session'.machine = withStealer stealer' machine')
    {more taken : Nat} {owner : Owner} (ready' : machine'.memory.Ready more)
    (confined : machine.memory.Confined owner machine'.memory) (fewer : more ≤ left)
    (count : Coremap.countHeldBy machine'.memory.descriptors owner =
      Coremap.countHeldBy machine.memory.descriptors owner + taken) :
    session'.Stocked (free - taken) more := by
  have names := stocked.names
  rw [isMachine] at names
  refine stocked.work isMachine isMachine' rfl rfl settled.ready ready' confined ?_ count
  exact Nat.lt_of_le_of_lt (Nat.add_le_add_left fewer _) names

/-- A frame is got from the coremap if one is free. -/
theorem exists_allocate (stocked : session.Stocked free left)
    (isMachine : session.machine = withStealer stealer machine)
    (settled : Settled machine.memory machine.spaces held failed retried) (owner : Owner)
    (enough : 0 < free) (room : 1 ≤ left) :
    ∃ frame coremap shown, (Coremap.allocate (some ⟨1, false⟩) 1 owner).run machine.memory.frames =
        ⟨.value frame, coremap, shown⟩ ∧ machine.memory.ram.Admitted frame ∧ draws shown ≤ 1 := by
  have able := stocked.able isMachine
  have card := stocked.card_free isMachine
  have ready := stocked.ready isMachine settled
  have ends : (Coremap.allocate (some ⟨1, false⟩) 1 owner :
      Operation _ (Coremap NoEviction) _).Ends left machine.memory.frames
      ⟨fun frame _ _ => machine.memory.ram.Admitted frame,
        fun _ _ _ => False, fun _ _ => False⟩ := by
    refine (Coremap.ends_allocate ready.coremap).mono ?_ ?_ ?_
    · rintro frame coremap left' ⟨_, _, vacant, _⟩
      refine able.admits frame ?_
      rw [← ready.coremap.sound.size_eq]
      exact vacant.within
    · rintro e coremap left' ⟨_, starved, _⟩
      rw [Memory.descriptors, starved.freeFrames_eq_empty, Finset.card_empty] at card
      omega
    · rintro cause coremap ⟨nothing | cannot, _⟩
      · cases nothing
      · exact cannot able.canSleep
  have few : draws ((Coremap.allocate (some ⟨1, false⟩) 1 owner).run
      machine.memory.frames).events ≤ 1 := Coremap.drawsAtMost_allocate 1 owner _
  obtain ⟨frame, coremap, shown, run, admitted⟩ := ends.exists_value (Nat.le_trans few room)
  rw [run] at few
  exact ⟨frame, coremap, shown, run, admitted, few⟩

/-- A page is backed if as many frames are free as it needs. -/
theorem exists_materialize (stocked : session.Stocked free left)
    (isMachine : session.machine = withStealer stealer machine)
    (settled : Settled machine.memory machine.spaces held failed retried)
    (inList : space ∈ machine.spaces) (notRetried : space.id ∉ retried) (address : VirtAddr)
    (unmapped : machine.memory.ram.page? space.directory address.page = none)
    (enough : space.pageNeeds machine.memory.ram address.page ≤ free) (room : 2 ≤ left) :
    ∃ frame mem shown, (sourced fun source => materialize source space.id address).run
        { session.machine with context := ⟨1, false⟩ } = ⟨.value frame,
          withStealer stealer { machine with context := ⟨1, false⟩, memory := mem }, shown⟩ ∧
      session.NoWrap (.materialize space.id address) shown ∧ mem.Ready (left - 2) ∧
      Holds (space.id ∉ retried) space none mem ∧
      Memory.Materialized space address.page frame machine.memory mem ∧
      Coremap.countHeldBy mem.descriptors space.owner =
        Coremap.countHeldBy machine.memory.descriptors space.owner +
          space.pageNeeds machine.memory.ram address.page ∧
      ∀ session' : Session, session'.machine = withStealer stealer
          { machine with context := ⟨1, false⟩, memory := mem } →
        session'.Stocked (free - space.pageNeeds machine.memory.ram address.page) (left - 2) := by
  have able := stocked.able isMachine
  have card := stocked.card_free isMachine
  have ready := stocked.ready isMachine settled
  have holds := settled.holds space inList
  let asked : Machine (Coremap NoEviction) := { machine with context := ⟨1, false⟩ }
  have settled : Settled asked.memory asked.spaces held failed retried := settled
  have ends : (sourced fun source => materialize source space.id address).Ends left
      (withStealer stealer asked)
      ⟨fun frame outer left' => ∃ mem, outer = withStealer stealer { asked with memory := mem } ∧
          mem.Ready left' ∧ Holds (space.id ∉ retried) space none mem ∧
          Memory.Materialized space address.page frame machine.memory mem,
        fun _ _ _ => False, fun _ _ => False⟩ := by
    refine Request.ends_sourced.mpr (Operation.ends_bind.mpr ?_)
    refine (ends_findSpace_of_mem settled.distinct inList).mpr (ends_onMemory.mpr ?_)
    refine (Memory.ends_materialize ready holds).mono ?_ ?_ ?_
    · exact fun _ mem _ ⟨ready', holds', made⟩ => ⟨mem, rfl, ready', holds', made⟩
    · rintro e mem left' ⟨_, lacking, _⟩
      exact absurd (card_free_lt_pageNeeds lacking) (by omega)
    · rintro cause mem ⟨cannot | mapped, _⟩
      · exact cannot able
      · exact mapped unmapped
  obtain ⟨frame, _, shown, run, ⟨mem, rfl, ready', holds', made⟩, few⟩ :=
    exists_run isMachine ends (drawsAtMost_materialize space.id address asked) room
  have count := made.countHeldBy_eq ready ready' holds holds' notRetried
  have ready' : mem.Ready (left - 2) := ready'.mono (by omega)
  refine ⟨frame, mem, shown, run, stocked.noWrap (by omega) (Nat.le_trans few room), ready', holds',
    made, count, fun session' isMachine' => ?_⟩
  exact stocked.spend isMachine settled isMachine' ready' made.mapped.extended.confined
    (Nat.sub_le _ _) count

/-- With two free frames a page can be backed that is not, in any state of a run. -/
theorem exists_backed (stocked : session.Stocked free left) (reachable : Reachable session)
    (inList : space ∈ session.machine.spaces) (notRetried : space.id ∉ session.retried)
    (address : VirtAddr)
    (unmapped : session.machine.memory.ram.page? space.directory address.page = none)
    (enough : 2 ≤ free) (room : 2 ≤ left) :
    ∃ frame backed shown, (sourced fun source => materialize source space.id address).run
        { session.machine with context := ⟨1, false⟩ } = ⟨.value frame, backed, shown⟩ ∧
      session.NoWrap (.materialize space.id address) shown ∧
      backed.spaces = session.machine.spaces ∧
      backed.memory.ram.page? space.directory address.page = some frame ∧
      space.extent? backed.memory.ram (.page address.page) = some (.ofFrame frame) := by
  obtain ⟨stealer, machine, isMachine, settled⟩ := reachable.atRest
  rw [isMachine] at inList unmapped
  have few : space.pageNeeds machine.memory.ram address.page ≤ free :=
    Nat.le_trans (space.pageNeeds_le _ _) enough
  obtain ⟨frame, mem, shown, run, noWrap, _, _, made, _⟩ :=
    stocked.exists_materialize isMachine settled inList notRetried address unmapped few room
  refine ⟨frame, _, shown, run, noWrap, ?_, ?_, made.extent?_page (settled.holds space inList)⟩
  · rw [isMachine]
    rfl
  · exact (congrFun made.mapped.pages _).trans (Function.update_self _ _ _)

/-- A missing table is walked to if a frame is free, which is taken from the coremap. -/
theorem exists_walk (stocked : session.Stocked free left)
    (isMachine : session.machine = withStealer stealer machine)
    (settled : Settled machine.memory machine.spaces held failed retried)
    (inList : space ∈ machine.spaces) (notRetried : space.id ∉ retried) (address : VirtAddr)
    (unnamed : machine.memory.ram.table? space.directory (.ofAddr address) = none)
    (enough : 0 < free) (room : 1 ≤ left) :
    ∃ table mem shown, (sourced fun source => walk source space.id address true).run
        { session.machine with context := ⟨1, false⟩ } = ⟨.value (some table),
          withStealer stealer { machine with context := ⟨1, false⟩, memory := mem }, shown⟩ ∧
      session.NoWrap (.walk space.id address true) shown ∧
      mem.frames =
        ((Coremap.allocate (some ⟨1, false⟩) 1 space.owner).run machine.memory.frames).state ∧
      mem.ram.table? space.directory (.ofAddr address) = some table ∧
      mem.ram.page? space.directory = machine.memory.ram.page? space.directory ∧
      ∀ session' : Session, session'.machine = withStealer stealer
          { machine with context := ⟨1, false⟩, memory := mem } →
        session'.Stocked (free - 1) (left - 1) := by
  have ready := stocked.ready isMachine settled
  have holds := settled.holds space inList
  obtain ⟨frame, coremap, drawn, taken, admitted, one⟩ :=
    stocked.exists_allocate isMachine settled space.owner enough room
  obtain ⟨mem, shown, made, few, isCoremap⟩ := Memory.exists_ensureTable_of_allocate
    (Coremap.source (some ⟨1, false⟩)) unnamed holds.directoryAdmitted taken admitted
  have fewer : draws shown ≤ left := Nat.le_trans few (Nat.le_trans one room)
  obtain ⟨ready', holds', extended, tables, pages⟩ :=
    (Memory.ends_ensureTable ready holds).of_value made fewer
  let asked : Machine (Coremap NoEviction) := { machine with context := ⟨1, false⟩ }
  have settled : Settled asked.memory asked.spaces held failed retried := settled
  have ends : (sourced fun source => walk source space.id address true).Ends left
      (withStealer stealer asked) ⟨fun answer outer _ => answer = some frame ∧
          outer = withStealer stealer { asked with memory := mem },
        fun _ _ _ => False, fun _ _ => False⟩ := by
    refine Request.ends_sourced.mpr (Operation.ends_bind.mpr ?_)
    refine (ends_findSpace_of_mem settled.distinct inList).mpr ?_
    refine ends_onMemory.mpr (Operation.ends_bind.mpr (.of_run made fun _ => ?_))
    exact Operation.ends_pure.mpr ⟨rfl, rfl⟩
  obtain ⟨_, _, shown', run, ⟨rfl, rfl⟩, few'⟩ :=
    exists_run isMachine ends (drawsAtMost_walk space.id address asked) room
  refine ⟨frame, mem, shown', run, stocked.noWrap room (Nat.le_trans few' room), ?_, ?_, pages,
    fun session' isMachine' => ?_⟩
  · rw [taken, isCoremap]
  · rw [tables, Function.update_self]
  · exact stocked.spend isMachine settled isMachine' (ready'.mono (by omega)) extended.confined
      (Nat.sub_le _ _)
      (countHeldBy_of_table unnamed tables pages ready ready' holds holds' notRetried)

/-- With a free frame a table can be walked to that is missing, in any state of a run. -/
theorem exists_walked (stocked : session.Stocked free left) (reachable : Reachable session)
    (inList : space ∈ session.machine.spaces) (notRetried : space.id ∉ session.retried)
    (address : VirtAddr)
    (unnamed : session.machine.memory.ram.table? space.directory (.ofAddr address) = none)
    (enough : 0 < free) (room : 1 ≤ left) :
    ∃ table walked shown, (sourced fun source => walk source space.id address true).run
        { session.machine with context := ⟨1, false⟩ } = ⟨.value (some table), walked, shown⟩ ∧
      session.NoWrap (.walk space.id address true) shown := by
  obtain ⟨stealer, machine, isMachine, settled⟩ := reachable.atRest
  rw [isMachine] at inList unnamed
  obtain ⟨table, mem, shown, run, noWrap, _⟩ :=
    stocked.exists_walk isMachine settled inList notRetried address unnamed enough room
  exact ⟨table, _, shown, run, noWrap⟩

end Stocked

end Session

end PagedMemory
