import PagedMemory.Proofs.Machine.Kernel

/-!
# Runs of a machine

A machine with a coremap is asked for one thing after another, in any order and
by any thread. A run goes on after an error and not after a panic. Its client
keeps two rules: it gives back only kernel pages that it got, and it writes bytes
within one page. It remembers which spaces it could not load, and which of these
it has tried to load again. As long as no counter wraps, every request is work
for one owner, and every state of a run is at rest.
-/

namespace PagedMemory

open Machine

/-- What a machine is asked for. -/
inductive Request where
  | create
  | define (id : SpaceId) (address : VirtAddr) (size : Nat) (flags : RegionFlags)
  | prepareLoad (id : SpaceId)
  | walk (id : SpaceId) (address : VirtAddr) (make : Bool)
  | materialize (id : SpaceId) (address : VirtAddr)
  | copy (id : SpaceId)
  | destroy (id : SpaceId)
  | allocPages (pages : Nat)
  | freePages (address : VirtAddr)
  | writeBytes (id : SpaceId) (address : VirtAddr) (values : List UInt8)

/-- Run an operation that takes its frames from the coremap for the running
thread. -/
def Machine.sourced {α : Type}
    (op : FrameSource (Coremap NoEviction) →
      Operation SpaceError (Machine (Coremap NoEviction)) α) :
    Operation VmError (Machine (FrameSupply NoEviction)) α := do
  let context ← Operation.read context
  withCoremap .notBootstrapped ((op (Coremap.source (some context))).mapError .space)

namespace Request

/-- Do what is asked for. Only a request for kernel pages has an answer that its
client keeps. -/
def perform : Request → Operation VmError (Machine (FrameSupply NoEviction)) (Option VirtAddr)
  | create => do
    let _ ← sourced Machine.create
    return none
  | define id address size flags => do
    (Machine.define id address size flags).mapError .space
    return none
  | prepareLoad id => do
    sourced fun source => Machine.prepareLoad source id
    return none
  | walk id address make => do
    let _ ← sourced fun source => Machine.walk source id address make
    return none
  | materialize id address => do
    let _ ← sourced fun source => Machine.materialize source id address
    return none
  | copy id => do
    let _ ← sourced fun source => Machine.copy source id
    return none
  | destroy id => do
    sourced fun source => Machine.destroy source id
    return none
  | allocPages pages => do
    return some (← Machine.allocPages pages)
  | freePages address => do
    Machine.freePages address
    return none
  | writeBytes id address values => do
    let _ ← Machine.writeBytes id address values
    return none

/-- Whether a new space is named. -/
def namesSpace : Request → Bool
  | create | copy _ => true
  | _ => false

/-- The kernel pages that the client has after a request. -/
def heldAfter : Request → Option VirtAddr → List VirtAddr → List VirtAddr
  | allocPages _, some address, held => address :: held
  | freePages address, _, held => held.erase address
  | _, _, held => held

/-- The spaces that may be loaded halfway after a request ended in an error. -/
def failedAfter : Request → VmError → List SpaceId → List SpaceId
  | prepareLoad id, .space e, failed => failedBy id failed e
  | _, _, failed => failed

/-- The spaces that were loaded again after their loading had failed, once a
request was made. -/
def retriedAfter : Request → List SpaceId → List SpaceId → List SpaceId
  | prepareLoad id, failed, retried => retriedBy id failed retried
  | _, _, retried => retried

/-- The space that a request is about. A copy is about the new space alone, and so
is not about any that there is. -/
def target? : Request → Option SpaceId
  | define id _ _ _ | prepareLoad id | walk id _ _ | materialize id _ | destroy id
  | writeBytes id _ _ => some id
  | create | copy _ | allocPages _ | freePages _ => none

/-- Whom a request does work for, if `next` is the next space. -/
def worker : Request → SpaceId → Owner
  | create, next | copy _, next => .space next
  | define id _ _ _, _ | prepareLoad id, _ | walk id _ _, _ | materialize id _, _ | destroy id, _
  | writeBytes id _ _, _ => .space id
  | allocPages _, _ | freePages _, _ => .kernel

/-- A space that lives and that a request is not about has no work done for it. -/
theorem owner_ne_worker {request : Request} {space : AddressSpace} {next : SpaceId}
    (notNext : space.id ≠ next) (notTarget : request.target? ≠ some space.id) :
    space.owner ≠ request.worker next := by
  have apart {id : SpaceId} (different : space.id ≠ id) : space.owner ≠ .space id :=
    fun same => different (Owner.space.inj same)
  cases request with
  | create | copy => exact apart notNext
  | allocPages | freePages => exact Owner.noConfusion
  | define | prepareLoad | walk | materialize | destroy | writeBytes =>
    exact apart fun same => notTarget (congrArg some same.symm)

end Request

/-- A machine with what its client remembers: the kernel pages that it got and
has not given back, the spaces whose loading failed, and those of them that it
tried to load again. -/
structure Session where
  machine : Machine (FrameSupply NoEviction)
  held : List VirtAddr
  failed : List SpaceId
  retried : List SpaceId

namespace Session

variable {session session' : Session} {request : Request}

/-- What a client may ask for. -/
def Permitted (session : Session) : Request → Prop
  | .freePages address =>
    address ∈ session.held ∨
      ∃ coremap, session.machine.memory.frames.coremap = some coremap ∧ IsStolen coremap address
  | .writeBytes _ address values => address.offset.val + values.length ≤ 4096
  | _ => True

/-- No identity comes round again in a request that showed some events. -/
structure NoWrap (session : Session) (request : Request) (shown : List Event) : Prop where
  blocks : ∀ coremap, session.machine.memory.frames.coremap = some coremap →
    coremap.nextBlock.number + draws shown < 0x100000000
  spaces : request.namesSpace = true →
    session.machine.memory.nextSpace.number + 1 < 0x100000000

/-- The session after a request. -/
def after (session : Session) (request : Request)
    (outcome : Outcome VmError (Machine (FrameSupply NoEviction)) (Option VirtAddr)) : Session :=
  let retried := request.retriedAfter session.failed session.retried
  match outcome.result with
  | .value answer => ⟨outcome.state, request.heldAfter answer session.held, session.failed, retried⟩
  | .error e => ⟨outcome.state, session.held, request.failedAfter e session.failed, retried⟩
  | .panic _ => ⟨outcome.state, session.held, session.failed, retried⟩

/-- The outcome of a request that some thread asks for. -/
def outcome (session : Session) (context : Context) (request : Request) :
    Outcome VmError (Machine (FrameSupply NoEviction)) (Option VirtAddr) :=
  request.perform.run { session.machine with context := context }

/-- One more request, which does not end in a panic. No identity of a block or of a space
comes round again in it. -/
inductive Step (session : Session) : Session → Prop where
  | act (context : Context) (request : Request) (permitted : session.Permitted request)
      (noPanic : ∀ cause, (session.outcome context request).result ≠ .panic cause)
      (noWrap : session.NoWrap request (session.outcome context request).events) :
      Step session (session.after request (session.outcome context request))

/-- The sessions that a run comes to. It begins when the coremap of a machine
without spaces is built, whose RAM covers its layout. It goes on without panics and
as long as no identity of a block or of a space comes round again. -/
inductive Reachable : Session → Prop where
  | boot {machine booted : Machine (FrameSupply NoEviction)} {shown : List Event}
      (empty : machine.spaces = [])
      (covers : machine.memory.frames.stealer.remaining.lastAddr.toNat ≤ machine.memory.ram.size)
      (built : (bootstrap NoEviction.mk).run machine = ⟨.value (), booted, shown⟩) :
      Reachable ⟨booted, [], [], []⟩
  | step {session session' : Session} (reachable : Reachable session)
      (step : Step session session') : Reachable session'

end Session

/-! ## The first state -/

/-- What is said of a coremap that is built at boot. -/
theorem Coremap.ends_bootstrap {π : Type} {layout : RamLayout} {policy : π} {ram : Ram} {left : Nat}
    {post : Post CoremapTooLarge Ram (Coremap π)} (panics : ∀ cause, post.panic cause ram)
    (refused : ∀ e, post.error e ram left)
    (built : ∀ reservation, layout.reservation? = some reservation →
      reservation.leavesRoom = true → post.value (initial reservation policy) ram left) :
    (Coremap.bootstrap layout policy).Ends left ram post := by
  refine Operation.ends_bind.mpr (Operation.ends_require.mpr ?_)
  split
  · dsimp only
    rcases found : layout.reservation? with _ | reservation
    · exact Operation.ends_fail.mpr (refused _)
    · dsimp only
      split
      · rename_i room
        refine Operation.ends_bind.mpr (Ram.ends_allow (fun _ => panics) fun _ => ?_)
        refine Operation.ends_bind.mpr (Operation.ends_log.mpr (Operation.ends_pure.mpr ?_))
        exact built reservation found room
      · exact Operation.ends_bind.mpr (Operation.ends_log.mpr (Operation.ends_fail.mpr (refused _)))
  · exact panics _

theorem Coremap.room_initial (reservation : Reservation) :
    (initial reservation NoEviction.mk).Room 0 := by
  have first : BlockId.boot.succ.number + 0 < 0x100000000 := by decide
  exact first

theorem settled_initial {reservation : Reservation} {ram : Ram} {nextSpace : SpaceId}
    (room : reservation.leavesRoom = true) (few : reservation.frameCount ≤ 0x100000)
    (covers : reservation.frameCount * 4096 ≤ ram.size) :
    Settled ⟨Coremap.initial reservation NoEviction.mk, ram, nextSpace⟩ [] [] [] [] where
  ready := ⟨⟨Coremap.sound_initial _ room few, Coremap.room_initial _⟩, covers⟩
  holds := nofun
  distinct := nofun
  named := nofun
  past := nofun
  owned b _ live := absurd live (Coremap.not_live_initial _ _ b)
  kernel := nofun
  once := List.nodup_nil
  whole := nofun

/-- A bootstrap builds the coremap for the RAM that was not stolen, or changes nothing. It
reports an error if there is a coremap. -/
theorem Machine.ends_bootstrap {machine : Machine (FrameSupply NoEviction)} {left : Nat} :
    (bootstrap NoEviction.mk).Ends left machine
      ⟨fun _ machine' _ => ∃ reservation,
          machine.memory.frames.stealer.remaining.reservation? = some reservation ∧
          reservation.leavesRoom = true ∧ machine.memory.frames.coremap = none ∧
          machine' = withStealer machine.memory.frames.stealer
            ⟨⟨.initial reservation .mk, machine.memory.ram, machine.memory.nextSpace⟩,
              machine.spaces, machine.interrupts, machine.firstTlb, machine.secondTlb,
              machine.context⟩,
        fun e machine' _ => machine' = machine ∧
          (machine.memory.frames.isBootstrapped = true → e = .alreadyBootstrapped),
        fun _ machine' => machine' = machine ∧
          machine.memory.frames.isBootstrapped = false⟩ := by
  refine ends_onMemory.mpr (Operation.ends_bind.mpr (Operation.ends_read.mpr ?_))
  dsimp only
  split
  · exact Operation.ends_fail.mpr ⟨rfl, fun _ => rfl⟩
  next missing =>
  have unbuilt : machine.memory.frames.isBootstrapped = false := Bool.eq_false_iff.mpr missing
  refine Operation.ends_bind.mpr (Operation.ends_read.mpr (Operation.ends_bind.mpr ?_))
  refine Memory.ends_onRam.mpr (Operation.ends_mapError.mpr (Coremap.ends_bootstrap ?_ ?_ ?_))
  · exact fun _ => ⟨rfl, unbuilt⟩
  · exact fun _ => ⟨rfl, fun built => absurd built missing⟩
  · intro reservation found room
    have none : machine.memory.frames.coremap = none := Option.not_isSome_iff_eq_none.mp missing
    exact Operation.ends_change.mpr ⟨reservation, found, room, none, rfl⟩

theorem RamLayout.frameCount_of_reservation? {layout : RamLayout} {reservation : Reservation}
    (found : layout.reservation? = some reservation) :
    reservation.frameCount = layout.frameCount := by
  obtain ⟨_, _, rfl⟩ := Option.map_eq_some_iff.mp found
  rfl

/-- A machine without spaces whose RAM covers what is left is at rest once it has its
coremap. -/
theorem settled_of_reservation? {layout : RamLayout} {reservation : Reservation} {ram : Ram}
    {nextSpace : SpaceId} (found : layout.reservation? = some reservation)
    (room : reservation.leavesRoom = true) (covers : layout.lastAddr.toNat ≤ ram.size) :
    Settled ⟨Coremap.initial reservation NoEviction.mk, ram, nextSpace⟩ [] [] [] [] := by
  have count := RamLayout.frameCount_of_reservation? found
  have few := Coremap.frameCount_lt layout
  refine settled_initial room (count ▸ Nat.le_of_lt few) (count ▸ Nat.le_trans ?_ covers)
  exact Nat.div_mul_le_self _ _

theorem atRest_bootstrap {machine : Machine (FrameSupply NoEviction)} {left : Nat}
    (empty : machine.spaces = [])
    (covers : machine.memory.frames.stealer.remaining.lastAddr.toNat ≤ machine.memory.ram.size) :
    (bootstrap NoEviction.mk).Ends left machine
      ⟨fun _ machine' _ => AtRest machine' [] [] [], fun _ _ _ => True, fun _ _ => True⟩ := by
  refine Machine.ends_bootstrap.mono ?_ (fun _ _ _ _ => trivial) fun _ _ _ => trivial
  rintro _ _ _ ⟨reservation, found, room, _, rfl⟩
  refine ⟨_, _, rfl, ?_⟩
  rw [empty]
  exact settled_of_reservation? found room covers

/-! ## Each further state -/

namespace Request

variable {ε α : Type} {left : Nat} {stealer : Stealer} {machine : Machine (Coremap NoEviction)}
  {held : List VirtAddr} {failed retried : List SpaceId}

/-- A request is work for one owner that leaves the machine at rest unless it ends
in a panic. -/
def settling (request : Request) (machine : Machine (Coremap NoEviction)) (held : List VirtAddr)
    (failed retried : List SpaceId) :
    Post VmError (Machine (Coremap NoEviction)) (Option VirtAddr) where
  value answer machine' _ :=
    Rested (request.worker machine.memory.nextSpace) machine (request.heldAfter answer held) failed
        (request.retriedAfter failed retried) machine' ∧
      ClearGains (request.worker machine.memory.nextSpace) machine.spaces machine.memory.ram
        machine'.memory.ram
  error e machine' _ :=
    Rested (request.worker machine.memory.nextSpace) machine held (request.failedAfter e failed)
      (request.retriedAfter failed retried) machine'
  panic _ machine' :=
    Worked (request.worker machine.memory.nextSpace) machine.memory machine.spaces machine'.memory
      machine'.spaces

theorem ends_sourced
    {op : FrameSource (Coremap NoEviction) → Operation SpaceError (Machine (Coremap NoEviction)) α}
    {post : Post VmError (Machine (FrameSupply NoEviction)) α} :
    (sourced op).Ends left (withStealer stealer machine) post ↔
      (op (Coremap.source (some machine.context))).Ends left machine
        ⟨fun a machine => post.value a (withStealer stealer machine),
          fun e machine => post.error (.space e) (withStealer stealer machine),
          fun cause machine => post.panic cause (withStealer stealer machine)⟩ := by
  exact Operation.ends_bind.trans (Operation.ends_read.trans
    (ends_withCoremap.trans Operation.ends_mapError))

/-- An operation on spaces that settles memory leaves the machine at rest. -/
theorem ends_of_settling {request : Request} {failedBy : SpaceError → List SpaceId}
    {op : FrameSource (Coremap NoEviction) → Operation SpaceError (Machine (Coremap NoEviction)) α}
    (ends : (op (Coremap.source (some machine.context))).Ends left machine
      (Machine.settling (request.worker machine.memory.nextSpace) machine held failed failedBy
        (request.retriedAfter failed retried)))
    (sameHeld : request.heldAfter none held = held)
    (sameFailed : failedBy = fun e => request.failedAfter (.space e) failed) :
    (do let _ ← sourced op; return none : Operation VmError _ (Option VirtAddr)).Ends left
      (withStealer stealer machine)
      (outer stealer (request.settling machine held failed retried)) := by
  subst sameFailed
  refine Operation.ends_bind.mpr (ends_sourced.mpr (ends.mono ?_ ?_ ?_))
  · rintro _ machine' _ ⟨rested, gains⟩
    exact Operation.ends_pure.mpr ⟨machine', rfl, sameHeld.symm ▸ rested, gains⟩
  · exact fun _ machine' _ rested => ⟨machine', rfl, rested⟩
  · exact fun _ machine' worked => ⟨machine', rfl, worked⟩

/-- A permitted request leaves a machine at rest if no identity comes round again. -/
theorem ends_perform {session : Session} {request : Request}
    (settled : Settled machine.memory machine.spaces session.held session.failed session.retried)
    (permitted : session.Permitted request)
    (isMachine : session.machine.memory = (withStealer stealer machine).memory)
    (ready : machine.memory.Ready left)
    (room : request.namesSpace = true → machine.memory.nextSpace.number + 1 < 0x100000000) :
    request.perform.Ends left (withStealer stealer machine)
      (outer stealer (request.settling machine session.held session.failed session.retried)) := by
  cases request with
  | create => exact ends_of_settling (Machine.ends_create settled ready (room rfl)) rfl rfl
  | define id address size flags =>
    refine Operation.ends_bind.mpr (Operation.ends_mapError.mpr
      ((settling_define settled).mono ?_ ?_ ?_))
    · exact fun _ _ _ atRest => Operation.ends_pure.mpr atRest
    · exact fun _ _ _ atRest => atRest
    · exact fun _ _ worked => worked
  | prepareLoad id =>
    exact ends_of_settling (Machine.ends_prepareLoad settled ready) rfl rfl
  | walk id address make =>
    exact ends_of_settling (Machine.ends_walk settled ready) rfl rfl
  | materialize id address =>
    exact ends_of_settling (Machine.ends_materialize settled ready) rfl rfl
  | copy id => exact ends_of_settling (Machine.ends_copy settled ready (room rfl)) rfl rfl
  | destroy id => exact ends_of_settling (Machine.ends_destroy settled ready) rfl rfl
  | allocPages pages =>
    refine Operation.ends_bind.mpr ((settling_allocPages settled ready).mono ?_ (fun _ _ _ => id)
      (fun _ _ => id))
    exact fun _ _ _ ⟨machine', isMachine, rested⟩ =>
      Operation.ends_pure.mpr ⟨machine', isMachine, rested, clearGains_of_kernel⟩
  | freePages address =>
    have mine : address ∈ session.held ∨ IsStolen machine.memory.frames address := by
      rcases permitted with inHeld | ⟨coremap, isCoremap, stolen⟩
      · exact .inl inHeld
      · rw [isMachine] at isCoremap
        exact .inr (Option.some.inj isCoremap ▸ stolen)
    refine Operation.ends_bind.mpr ((settling_freePages settled ready mine).mono ?_
      (fun _ _ _ => id) (fun _ _ => id))
    exact fun _ _ _ ⟨machine', isMachine, rested⟩ =>
      Operation.ends_pure.mpr ⟨machine', isMachine, rested, clearGains_of_kernel⟩
  | writeBytes id address values =>
    refine Operation.ends_bind.mpr ((settling_writeBytes settled permitted).mono ?_ ?_ ?_)
    · exact fun _ _ _ atRest => Operation.ends_pure.mpr atRest
    · exact fun _ _ _ atRest => atRest
    · exact fun _ _ worked => worked

end Request

namespace Session

variable {session session' : Session} {request : Request} {context : Context}

/-- What a request that had some outcome has made of a machine, below the kernel's
supply. -/
structure Turn (session : Session) (request : Request)
    (outcome : Outcome VmError (Machine (FrameSupply NoEviction)) (Option VirtAddr))
    (stealer : Stealer) (machine machine' : Machine (Coremap NoEviction)) : Prop where
  before : session.machine = withStealer stealer machine
  after : outcome.state = withStealer stealer machine'
  settled : Settled machine.memory machine.spaces session.held session.failed session.retried
  worked : Worked (request.worker machine.memory.nextSpace) machine.memory machine.spaces
    machine'.memory machine'.spaces
  value : ∀ answer, outcome.result = .value answer →
    Settled machine'.memory machine'.spaces (request.heldAfter answer session.held) session.failed
        (request.retriedAfter session.failed session.retried) ∧
      ClearGains (request.worker machine.memory.nextSpace) machine.spaces machine.memory.ram
        machine'.memory.ram
  error : ∀ e, outcome.result = .error e →
    Settled machine'.memory machine'.spaces session.held (request.failedAfter e session.failed)
      (request.retriedAfter session.failed session.retried)

/-- Another thread of a session runs on the same machine. -/
theorem withContext_eq {stealer : Stealer} {machine : Machine (Coremap NoEviction)}
    (isMachine : session.machine = withStealer stealer machine) :
    ({ session.machine with context := context } : Machine (FrameSupply NoEviction)) =
      withStealer stealer { machine with context := context } := by
  rw [isMachine]
  rfl

theorem exists_turn
    (atRest : AtRest session.machine session.held session.failed session.retried)
    (permitted : session.Permitted request)
    (noWrap : session.NoWrap request (session.outcome context request).events) :
    ∃ stealer machine machine',
      session.Turn request (session.outcome context request) stealer machine machine' := by
  obtain ⟨stealer, machine, isMachine, settled⟩ := atRest
  have sameMemory := congrArg Machine.memory isMachine
  have few := noWrap.blocks machine.memory.frames (by rw [isMachine]; rfl)
  have room := noWrap.spaces
  rw [isMachine] at room
  have ready := settled.ready.of_room few
  have begun : session.outcome context request =
      request.perform.run (withStealer stealer { machine with context := context }) := by
    rw [outcome, withContext_eq isMachine]
  have ends : request.perform.Ends (draws (session.outcome context request).events)
      (withStealer stealer { machine with context := context })
      (outer stealer (request.settling { machine with context := context } session.held
        session.failed session.retried)) :=
    Request.ends_perform settled permitted sameMemory ready room
  unfold Operation.Ends at ends
  rw [← begun] at ends
  have rests := ends (Nat.le_refl _)
  rcases run : session.outcome context request with ⟨answer | e | cause, state, shown⟩ <;>
    rw [run] at rests
  · obtain ⟨machine', isAfter, rested, gains⟩ := rests
    refine ⟨stealer, machine, machine', isMachine, isAfter, settled, rested.worked, ?_, nofun⟩
    rintro answer ⟨⟩
    exact ⟨rested.settled, gains⟩
  · obtain ⟨machine', isAfter, rested⟩ := rests
    refine ⟨stealer, machine, machine', isMachine, isAfter, settled, rested.worked, nofun, ?_⟩
    rintro e ⟨⟩
    exact rested.settled
  · obtain ⟨machine', isAfter, worked⟩ := rests
    exact ⟨stealer, machine, machine', isMachine, isAfter, settled, worked, nofun, nofun⟩

/-- A request ends as the operation does that it takes frames for. -/
theorem outcome_eq_of_sourced {α : Type} {a : α} {machine' : Machine (FrameSupply NoEviction)}
    {shown : List Event}
    {op : FrameSource (Coremap NoEviction) → Operation SpaceError (Machine (Coremap NoEviction)) α}
    (performs : request.perform = do let _ ← sourced op; return none)
    (run : (sourced op).run { session.machine with context := context } =
      ⟨.value a, machine', shown⟩) :
    session.outcome context request = ⟨.value none, machine', shown⟩ := by
  rw [outcome, performs, Operation.run_bind_of_value run, Operation.run_pure, List.append_nil]

theorem machine_after (session : Session) (request : Request)
    (outcome : Outcome VmError (Machine (FrameSupply NoEviction)) (Option VirtAddr)) :
    (session.after request outcome).machine = outcome.state := by
  rcases outcome with ⟨_ | _ | _, state, shown⟩ <;> rfl

/-- No request changes which accesses to RAM are admitted. -/
theorem window_after
    (atRest : AtRest session.machine session.held session.failed session.retried)
    (permitted : session.Permitted request)
    (noWrap : session.NoWrap request (session.outcome context request).events) :
    (session.after request (session.outcome context request)).machine.memory.ram.window =
      session.machine.memory.ram.window := by
  obtain ⟨stealer, machine, machine', turn⟩ := exists_turn atRest permitted noWrap
  obtain ⟨next, confined⟩ := turn.worked.confined
  rw [machine_after, turn.after, turn.before]
  exact confined.window

theorem Step.atRest (step : Step session session')
    (atRest : AtRest session.machine session.held session.failed session.retried) :
    AtRest session'.machine session'.held session'.failed session'.retried := by
  obtain ⟨context, request, permitted, noPanic, noWrap⟩ := step
  obtain ⟨stealer, machine, machine', turn⟩ := exists_turn atRest permitted noWrap
  rcases run : session.outcome context request with ⟨answer | e | cause, state, shown⟩ <;>
    rw [run] at turn noPanic
  · exact ⟨stealer, machine', turn.after, (turn.value answer rfl).1⟩
  · exact ⟨stealer, machine', turn.after, turn.error e rfl⟩
  · exact absurd rfl (noPanic cause)

/-- What is remembered of spaces that were loaded again stays within what is
remembered of those whose loading failed. -/
theorem retried_subset_after (request : Request)
    (outcome : Outcome VmError (Machine (FrameSupply NoEviction)) (Option VirtAddr))
    (subset : session.retried ⊆ session.failed) :
    (session.after request outcome).retried ⊆ (session.after request outcome).failed := by
  have retried : request.retriedAfter session.failed session.retried ⊆ session.failed := by
    cases request with
    | prepareLoad id =>
      intro other inRetried
      rcases mem_retriedBy inRetried with ⟨rfl, inFailed⟩ | old
      · exact inFailed
      · exact subset old
    | _ => exact subset
  have failed (e : VmError) : session.failed ⊆ request.failedAfter e session.failed := by
    unfold Request.failedAfter
    split
    · unfold failedBy
      split
      · exact List.subset_cons_self _ _
      · exact List.Subset.refl _
    · exact List.Subset.refl _
  rcases outcome with ⟨answer | e | cause, state, shown⟩
  · exact retried
  · exact List.Subset.trans retried (failed e)
  · exact retried

/-- Every state of a run is at rest. -/
theorem Reachable.atRest (reachable : Reachable session) :
    AtRest session.machine session.held session.failed session.retried := by
  induction reachable with
  | boot empty covers built =>
    exact (atRest_bootstrap empty covers).of_value built (Nat.le_refl _)
  | step _ step ih => exact step.atRest ih

end Session

end PagedMemory
