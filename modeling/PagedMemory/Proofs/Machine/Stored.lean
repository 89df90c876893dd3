import PagedMemory.Proofs.Coremap.Storage
import PagedMemory.Proofs.Machine.Run

/-!
# Descriptors that lie in RAM

The descriptors that a coremap works with are kept in frames that its reservation covers.
What any request does is confined to the blocks of one owner, and nobody owns what is
reserved, so no request writes these frames, however it ends. Conversely a descriptor that
is written there touches no table and no page. A run in which all descriptors are written
back after every request therefore comes to rest like any other, and finds at the address of
each descriptor what the coremap records.
-/

namespace PagedMemory

open Relation (ReflTransGen)

/-- The descriptors begin at a page boundary, and they leave a frame to allocate. -/
structure Reservation.LaidOut (reservation : Reservation) : Prop where
  aligned : reservation.storage.toNat % 4096 = 0
  room : reservation.leavesRoom = true

theorem Reservation.LaidOut.of_reservation? {layout : RamLayout} {reservation : Reservation}
    (found : layout.reservation? = some reservation) (room : reservation.leavesRoom = true) :
    reservation.LaidOut := by
  refine ⟨?_, room⟩
  rw [(RamLayout.reservation?_eq_some_iff.mp found).2]
  exact Nat.mul_mod_left _ _

/-- RAM with the descriptors of a coremap written where its reservation keeps them. -/
def Coremap.written {π : Type} (encoding : Encoding) (c : Coremap π) (ram : Ram) : Ram :=
  c.reservation.store encoding 0 c.frames.toList ram

/-- A machine with the descriptors of its coremap written into RAM. -/
def Machine.storing {π : Type} (encoding : Encoding) (machine : Machine (FrameSupply π)) :
    Machine (FrameSupply π) :=
  match machine.memory.frames.coremap with
  | none => machine
  | some coremap =>
    { machine with
      memory := { machine.memory with ram := coremap.written encoding machine.memory.ram } }

/-! ## Writing descriptors -/

namespace Coremap

variable {π : Type} {encoding : Encoding} {c : Coremap π} {ram : Ram}

/-- Every byte of a descriptor lies in a reserved frame. -/
theorem fixed_of_mem_storedBytes (sound : c.Sound) (laidOut : c.reservation.LaidOut) {a : Nat}
    (kept : a ∈ c.reservation.storedBytes) : c.frames[a / 4096]? = some .fixed :=
  (sound.tiled.fixed_iff _).mpr
    ((Reservation.exists_storedBytes_iff laidOut.aligned).mp ⟨a, kept, rfl⟩).2

/-- Writing the descriptors changes reserved frames only. -/
theorem differOn_written (sound : c.Sound) (laidOut : c.reservation.LaidOut)
    (encoding : Encoding) (ram : Ram) :
    Ram.DifferOn (fun frame => c.frames[frame.number]? = some .fixed) ram
      (c.written encoding ram) where
  window := Reservation.window_store _ _ _
  size := Reservation.size_store _ _ _
  same frame notFixed k small := by
    refine Reservation.byte_store_of_outside ram ?_
    have notKept : frame.number * 4096 + k ∉ c.reservation.storedBytes := by
      intro kept
      have fixed := fixed_of_mem_storedBytes sound laidOut kept
      rw [show (frame.number * 4096 + k) / 4096 = frame.number by omega] at fixed
      exact notFixed fixed
    rw [Reservation.mem_storedBytes_iff, not_and_or, Nat.not_le, Nat.not_lt] at notKept
    rwa [Nat.zero_add, Array.length_toList, sound.size_eq]

/-- Each descriptor is read back at its address. -/
theorem slice_written (encoding : Encoding) (sound : c.Sound) (laidOut : c.reservation.LaidOut)
    (covered : c.reservation.frameCount * 4096 ≤ ram.size) {i : Nat} {descriptor : Descriptor}
    (recorded : c.frames[i]? = some descriptor) :
    (c.written encoding ram).slice (c.reservation.descriptorAddr i) Reservation.descriptorSize =
      encoding.bytes descriptor := by
  have listed : c.frames.toList[i]? = some descriptor := Array.getElem?_toList.trans recorded
  have within : c.reservation.descriptorAddr (0 + c.frames.toList.length) ≤ ram.size := by
    rw [Nat.zero_add, Array.length_toList, sound.size_eq]
    exact Nat.le_trans (Reservation.descriptorAddr_frameCount_le laidOut.room) covered
  have slice := Reservation.slice_store encoding ram listed within
  rwa [Nat.zero_add] at slice

end Coremap

/-! ## What requests leave alone -/

/-- What one memory has become of another while the descriptors were left alone: they are
kept where they were, in frames that are reserved still, of which no byte has changed. -/
structure Memory.SparesReserved (mem mem' : Memory (Coremap NoEviction)) : Prop where
  reservation : mem'.frames.reservation = mem.frames.reservation
  kept : ∀ a ∈ mem.frames.reservation.storedBytes, mem.descriptors[a / 4096]? = some .fixed
  fixed : ∀ i : Nat, mem.descriptors[i]? = some .fixed → mem'.descriptors[i]? = some .fixed
  bytes : ∀ frame : Frame, mem.descriptors[frame.number]? = some .fixed →
    Ram.SameFrame frame mem.ram mem'.ram

variable {mem mem' mem'' : Memory (Coremap NoEviction)} {owner : Owner} {left : Nat}

namespace Memory

/-- Work that is confined to an owner spares what is reserved. -/
theorem Confined.sparesReserved {next : SpaceId}
    (confined : Confined owner { mem with nextSpace := next } mem') (ready : mem.Ready left)
    (laidOut : mem.frames.reservation.LaidOut) : mem.SparesReserved mem' where
  reservation := confined.reservation
  kept _ := Coremap.fixed_of_mem_storedBytes ready.coremap.sound laidOut
  fixed := confined.fixed
  bytes := confined.unwritten

namespace SparesReserved

protected theorem trans (first : mem.SparesReserved mem') (second : mem'.SparesReserved mem'') :
    mem.SparesReserved mem'' where
  reservation := second.reservation.trans first.reservation
  kept := first.kept
  fixed i isFixed := second.fixed i (first.fixed i isFixed)
  bytes frame isFixed :=
    (first.bytes frame isFixed).trans (second.bytes frame (first.fixed _ isFixed))

/-- The bytes of the descriptors are as they were. -/
theorem byte_eq (spares : mem.SparesReserved mem') (ready : mem.Ready left) {a : Nat}
    (kept : a ∈ mem.frames.reservation.storedBytes) : mem'.ram.byte a = mem.ram.byte a := by
  have isFixed := spares.kept a kept
  have inRam : a / 4096 < mem.descriptors.size := (Array.getElem?_eq_some_iff.mp isFixed).1
  have few : mem.descriptors.size ≤ 0x100000 := ready.coremap.sound.few
  have same := spares.bytes ⟨a / 4096, by omega⟩ isFixed (a % 4096) (Nat.mod_lt _ (by decide))
  rwa [show a / 4096 * 4096 + a % 4096 = a by omega] at same

end SparesReserved

end Memory

/-! ## What descriptors leave alone -/

/-- A space that is held has nothing in reserved frames. -/
theorem Holds.same_of_differOn {complete : Prop} {space : AddressSpace} {spare : Option Extent}
    {ram : Ram} (holds : Holds complete space spare mem)
    (differ : Ram.DifferOn (fun frame => mem.descriptors[frame.number]? = some .fixed) mem.ram ram)
    {slot : Option Slot} {frame : Frame} (uses : space.Uses spare mem.ram slot frame) :
    Ram.SameFrame frame mem.ram ram := by
  obtain ⟨b, live, _, covers⟩ := holds.exists_live uses
  exact differ.same frame fun isFixed => live.not_covers_of_fixed isFixed covers

namespace Settled

variable {spaces : List AddressSpace} {held : List VirtAddr} {failed retried : List SpaceId}
  {space : AddressSpace} {ram : Ram}

/-- What is written into reserved frames does not disturb a space. -/
theorem undisturbed_of_differOn (settled : Settled mem spaces held failed retried)
    (differ : Ram.DifferOn (fun frame => mem.descriptors[frame.number]? = some .fixed) mem.ram ram)
    (inList : space ∈ spaces) : Undisturbed space spaces mem.ram ram := by
  have holds := settled.holds space inList
  have views := views_eq (holds.same_of_differOn differ (uses_directory mem.ram))
    fun i table named => holds.same_of_differOn differ (uses_table named)
  constructor
  case lives => exact inList
  case lookup =>
    intro address
    rw [Ram.lookup_eq_page?, Ram.lookup_eq_page?, views.2]
  case bytes =>
    intro address frame mapped
    rw [Ram.lookup_eq_page?] at mapped
    obtain ⟨slot, uses, _⟩ := exists_uses_page holds.shaped mapped
    exact holds.same_of_differOn differ uses

/-- Memory stays settled whatever is written into reserved frames. -/
theorem of_differOn (settled : Settled mem spaces held failed retried)
    (differ :
      Ram.DifferOn (fun frame => mem.descriptors[frame.number]? = some .fixed) mem.ram ram) :
    Settled { mem with ram := ram } spaces held failed retried :=
  { settled with
    ready := ⟨settled.ready.coremap, differ.size ▸ settled.ready.covered⟩
    holds := by
      intro space inList
      have holds := settled.holds space inList
      have views := views_eq (holds.same_of_differOn differ (uses_directory mem.ram))
        fun i table named => holds.same_of_differOn differ (uses_table named)
      exact holds.congr (fun _ _ => Iff.rfl) views.1 views.2 differ.admitted }

end Settled

/-! ## Runs that write the descriptors back -/

namespace Session

variable {session session' : Session} {request : Request} {context : Context}
  {encoding : Encoding}

/-- A session at rest whose descriptors were laid out by a bootstrap. -/
structure Resident (session : Session) : Prop where
  atRest : AtRest session.machine session.held session.failed session.retried
  laidOut : ∀ coremap, session.machine.memory.frames.coremap = some coremap →
    coremap.reservation.LaidOut

/-- The machine of a session with its descriptors written into RAM. -/
def storing (session : Session) (encoding : Encoding) : Session :=
  { session with machine := session.machine.storing encoding }

/-- The sessions that a run comes to in which the descriptors are written into RAM as soon as
there are any, and after every request. -/
inductive ReachableStoring (encoding : Encoding) : Session → Prop where
  | boot {machine booted : Machine (FrameSupply NoEviction)} {shown : List Event}
      (empty : machine.spaces = [])
      (covers : machine.memory.frames.stealer.remaining.lastAddr.toNat ≤ machine.memory.ram.size)
      (built : (Machine.bootstrap NoEviction.mk).run machine = ⟨.value (), booted, shown⟩) :
      ReachableStoring encoding ((⟨booted, [], [], []⟩ : Session).storing encoding)
  | step {session session' : Session} (reachable : ReachableStoring encoding session)
      (step : Step session session') : ReachableStoring encoding (session'.storing encoding)

namespace Resident

theorem of_built {machine booted : Machine (FrameSupply NoEviction)} {shown : List Event}
    (empty : machine.spaces = [])
    (covers : machine.memory.frames.stealer.remaining.lastAddr.toNat ≤ machine.memory.ram.size)
    (built : (Machine.bootstrap NoEviction.mk).run machine = ⟨.value (), booted, shown⟩) :
    Resident ⟨booted, [], [], []⟩ := by
  refine ⟨(atRest_bootstrap empty covers).of_value built (Nat.le_refl _), ?_⟩
  have begun := Machine.ends_bootstrap.of_value built (Nat.le_refl _)
  obtain ⟨reservation, found, room, _, rfl⟩ := begun
  rintro coremap ⟨⟩
  exact .of_reservation? found room

/-- No request writes what is reserved, however it ends. -/
theorem exists_spares (resident : session.Resident) (permitted : session.Permitted request)
    (noWrap : session.NoWrap request (session.outcome context request).events) :
    ∃ stealer machine machine', session.machine = Machine.withStealer stealer machine ∧
      (session.outcome context request).state = Machine.withStealer stealer machine' ∧
      machine.memory.SparesReserved machine'.memory := by
  obtain ⟨stealer, machine, machine', turn⟩ := exists_turn resident.atRest permitted noWrap
  obtain ⟨next, confined⟩ := turn.worked.confined
  have laidOut : machine.memory.frames.reservation.LaidOut :=
    resident.laidOut _ (by rw [turn.before]; rfl)
  exact ⟨stealer, machine, machine', turn.before, turn.after,
    confined.sparesReserved turn.settled.ready laidOut⟩

/-- A step of a run spares what is reserved. -/
theorem exists_spares_of_step (resident : session.Resident) (step : Step session session') :
    ∃ stealer machine machine', session.machine = Machine.withStealer stealer machine ∧
      session'.machine = Machine.withStealer stealer machine' ∧
      machine.memory.SparesReserved machine'.memory := by
  obtain ⟨context, request, permitted, noPanic, noWrap⟩ := step
  rw [machine_after]
  exact resident.exists_spares permitted noWrap

theorem step (resident : session.Resident) (step : Step session session') :
    session'.Resident := by
  refine ⟨step.atRest resident.atRest, ?_⟩
  obtain ⟨stealer, machine, machine', before, after, spares⟩ := resident.exists_spares_of_step step
  rw [after]
  rintro coremap ⟨⟩
  rw [spares.reservation]
  exact resident.laidOut _ (by rw [before]; rfl)

/-- Between two states of a run what is reserved is spared. -/
theorem exists_spares_of_run (resident : session.Resident)
    (run : ReflTransGen Step session later) :
    later.Resident ∧
      ∃ stealer machine machine', session.machine = Machine.withStealer stealer machine ∧
        later.machine = Machine.withStealer stealer machine' ∧
        machine.memory.SparesReserved machine'.memory := by
  induction run with
  | refl =>
    obtain ⟨stealer, machine, isMachine, settled⟩ := resident.atRest
    have laidOut := resident.laidOut machine.memory.frames (by rw [isMachine]; rfl)
    have spares :=
      (Memory.Confined.refl .kernel machine.memory).sparesReserved settled.ready laidOut
    exact ⟨resident, stealer, machine, machine, isMachine, isMachine, spares⟩
  | tail run step ih =>
    obtain ⟨resident', stealer, machine, machine', before, middle, spares⟩ := ih
    obtain ⟨stealer', inner, machine'', middle', after, more⟩ :=
      resident'.exists_spares_of_step step
    obtain ⟨rfl, rfl⟩ := Machine.withStealer_inj (middle.symm.trans middle')
    exact ⟨resident'.step step, stealer, machine, machine'', before, after, spares.trans more⟩

/-- Writing the descriptors changes reserved frames only, so the session stays at rest. -/
theorem storing (resident : session.Resident) : (session.storing encoding).Resident := by
  obtain ⟨stealer, machine, isMachine, settled⟩ := resident.atRest
  have laidOut := resident.laidOut machine.memory.frames (by rw [isMachine]; rfl)
  have differ := Coremap.differOn_written settled.ready.coremap.sound laidOut encoding
    machine.memory.ram
  have stored : session.machine.storing encoding = Machine.withStealer stealer
      { machine with
        memory := { machine.memory with
          ram := machine.memory.frames.written encoding machine.memory.ram } } := by
    rw [isMachine]
    rfl
  refine ⟨⟨stealer, _, stored, settled.of_differOn differ⟩, ?_⟩
  change ∀ coremap, (session.machine.storing encoding).memory.frames.coremap = some coremap → _
  rw [stored]
  rintro coremap ⟨⟩
  exact laidOut

/-- Writing the descriptors disturbs no space. -/
theorem undisturbed_storing (resident : session.Resident) {space : AddressSpace}
    (inList : space ∈ session.machine.spaces) :
    Undisturbed space session.machine.spaces session.machine.memory.ram
      (session.storing encoding).machine.memory.ram := by
  obtain ⟨stealer, machine, isMachine, settled⟩ := resident.atRest
  have laidOut := resident.laidOut machine.memory.frames (by rw [isMachine]; rfl)
  have differ := Coremap.differOn_written settled.ready.coremap.sound laidOut encoding
    machine.memory.ram
  unfold Session.storing
  rw [isMachine] at inList ⊢
  exact settled.undisturbed_of_differOn differ inList

end Resident

theorem Reachable.resident (reachable : Reachable session) : session.Resident := by
  induction reachable with
  | boot empty covers built => exact .of_built empty covers built
  | step _ step ih => exact ih.step step

theorem ReachableStoring.resident (reachable : ReachableStoring encoding session) :
    session.Resident := by
  induction reachable with
  | boot empty covers built => exact (Resident.of_built empty covers built).storing
  | step _ step ih => exact (ih.step step).storing

/-- A session whose descriptors lie in RAM: it is at rest, each descriptor is read at its
address as the coremap records it, and there it stays during the next request, however that
one ends, as long as no identity comes round again. -/
structure Stored (encoding : Encoding) (session : Session) : Prop where
  atRest : AtRest session.machine session.held session.failed session.retried
  readable : ∀ coremap, session.machine.memory.frames.coremap = some coremap →
    ∀ (i : Nat) (descriptor : Descriptor), coremap.frames[i]? = some descriptor →
      session.machine.memory.ram.slice (coremap.reservation.descriptorAddr i)
        Reservation.descriptorSize = encoding.bytes descriptor
  spared : ∀ context request, session.Permitted request →
    session.NoWrap request (session.outcome context request).events →
      ∃ stealer machine machine', session.machine = Machine.withStealer stealer machine ∧
        (session.outcome context request).state = Machine.withStealer stealer machine' ∧
        machine.memory.SparesReserved machine'.memory

theorem Resident.stored (resident : session.Resident) :
    Stored encoding (session.storing encoding) where
  atRest := resident.storing.atRest
  readable := by
    obtain ⟨stealer, machine, isMachine, settled⟩ := resident.atRest
    have laidOut := resident.laidOut machine.memory.frames (by rw [isMachine]; rfl)
    unfold Session.storing
    rw [isMachine]
    rintro coremap ⟨⟩ i descriptor recorded
    exact Coremap.slice_written encoding settled.ready.coremap.sound laidOut settled.ready.covered
      recorded
  spared _ _ := resident.storing.exists_spares

/-- In a run that writes the descriptors back they lie in RAM after every request. -/
theorem stored_of_reachableStoring (reachable : ReachableStoring encoding session) :
    Stored encoding session := by
  cases reachable with
  | boot empty covers built => exact (Resident.of_built empty covers built).stored
  | step reachable step => exact (reachable.resident.step step).stored

/-- From any state of a run to the end of any later request, however it ends, nothing is
written into what is reserved, as long as no identity comes round again. -/
theorem spares_of_reachable (reachable : Reachable session)
    (run : ReflTransGen Step session later) (permitted : later.Permitted request)
    (noWrap : later.NoWrap request (later.outcome context request).events) :
    ∃ stealer machine machine', session.machine = Machine.withStealer stealer machine ∧
      (later.outcome context request).state = Machine.withStealer stealer machine' ∧
      machine.memory.SparesReserved machine'.memory := by
  obtain ⟨resident, stealer, machine, machine', before, middle, spares⟩ :=
    reachable.resident.exists_spares_of_run run
  obtain ⟨stealer', inner, machine'', middle', after, more⟩ :=
    resident.exists_spares permitted noWrap
  obtain ⟨rfl, rfl⟩ := Machine.withStealer_inj (middle.symm.trans middle')
  exact ⟨stealer, machine, machine'', before, after, spares.trans more⟩

end Session

/-- Right after boot a machine holds the descriptors as the bootstrap of its coremap has
written them. -/
theorem Machine.ram_storing_of_built {machine booted : Machine (FrameSupply NoEviction)}
    {shown : List Event} {encoding : Encoding}
    (built : (bootstrap NoEviction.mk).run machine = ⟨.value (), booted, shown⟩) :
    (booted.storing encoding).memory.ram =
      ((Coremap.bootstrapStoring encoding machine.memory.frames.stealer.remaining
        NoEviction.mk).run machine.memory.ram).state := by
  have ends (left : Nat) : (bootstrap NoEviction.mk).Ends left machine
      ⟨fun _ booted _ => (booted.storing encoding).memory.ram =
        ((Coremap.bootstrapStoring encoding machine.memory.frames.stealer.remaining
          NoEviction.mk).run machine.memory.ram).state,
        fun _ _ _ => True, fun _ _ => True⟩ := by
    refine ends_onMemory.mpr (Operation.ends_bind.mpr (Operation.ends_read.mpr ?_))
    dsimp only
    split
    · exact Operation.ends_fail.mpr trivial
    refine Operation.ends_bind.mpr (Operation.ends_read.mpr (Operation.ends_bind.mpr ?_))
    refine Memory.ends_onRam.mpr (Operation.ends_mapError.mpr ?_)
    unfold Operation.Ends
    rcases ended : (Coremap.bootstrap machine.memory.frames.stealer.remaining NoEviction.mk).run
      machine.memory.ram with ⟨coremap | e | cause, reached, events⟩
    · intro few
      rw [Coremap.state_bootstrapStoring_of_value (congrArg Outcome.result ended), ended]
      exact Operation.ends_change.mpr rfl
    · exact fun _ => trivial
    · exact fun _ => trivial
  exact (ends (draws shown)).of_value built (Nat.le_refl _)

end PagedMemory
