import PagedMemory.Proofs.Coremap.Evictions
import PagedMemory.Proofs.Machine.Grants
import PagedMemory.Proofs.Machine.Provision
import PagedMemory.Proofs.Machine.Stealing

/-!
# From the stealer to the coremap

A ledger is kept of the kernel pages that a machine has granted, before there is a
coremap and after. Spaces come and go in between, and the coremap may be built at any
time, or in vain. What was stolen is never given back. All that is on the ledger lies in
RAM, apart from each other and from the descriptors, and what the coremap takes back is
what it lent.
-/

namespace PagedMemory

open Machine

/-- A machine with the kernel pages that it has granted, and with what is remembered of the
spaces whose loading failed. -/
structure Ledger where
  machine : Machine (FrameSupply NoEviction)
  /-- Granted before there was a coremap. -/
  stolen : List Grant
  /-- Granted by the coremap and not given back. -/
  lent : List Grant
  failed : List SpaceId
  retried : List SpaceId

namespace Ledger

variable {ledger ledger' : Ledger} {request : Request} {layout : RamLayout} {context : Context}
  {left : Nat}

/-- What a client of the coremap knows of the machine. -/
def session (ledger : Ledger) : Session :=
  ⟨ledger.machine, ledger.lent.map Grant.address, ledger.failed, ledger.retried⟩

/-- What may be asked for: some kernel pages, or to take back what is on the ledger, or to
write bytes within a page, or anything else about spaces. -/
def Permitted (ledger : Ledger) : Request → Prop
  | .allocPages pages => 0 < pages
  | .freePages address => ∃ grant ∈ ledger.stolen ++ ledger.lent, grant.address = address
  | .writeBytes _ address values => address.offset.val + values.length ≤ 4096
  | _ => True

/-- What is on the ledger, stolen and lent, after a request has succeeded. -/
def entriesAfter (ledger : Ledger) : Request → Option VirtAddr → List Grant × List Grant
  | .allocPages pages, some address =>
    if ledger.machine.memory.frames.isBootstrapped then
      (ledger.stolen, ⟨address, pages⟩ :: ledger.lent)
    else (⟨address, pages⟩ :: ledger.stolen, ledger.lent)
  | .freePages address, _ =>
    (ledger.stolen, ledger.lent.filter fun grant => grant.address != address)
  | _, _ => (ledger.stolen, ledger.lent)

/-- The ledger after a request. -/
def after (ledger : Ledger) (request : Request)
    (outcome : Outcome VmError (Machine (FrameSupply NoEviction)) (Option VirtAddr)) : Ledger :=
  let retried := request.retriedAfter ledger.failed ledger.retried
  match outcome.result with
  | .value answer =>
    let entries := ledger.entriesAfter request answer
    ⟨outcome.state, entries.1, entries.2, ledger.failed, retried⟩
  | .error e =>
    ⟨outcome.state, ledger.stolen, ledger.lent, request.failedAfter e ledger.failed, retried⟩
  | .panic _ => ⟨outcome.state, ledger.stolen, ledger.lent, ledger.failed, retried⟩

/-- One more step: an attempt to build the coremap, or a request. Only a request about
spaces has to end without a panic. No identity comes round again: of two neighbouring
blocks with one identity, the second could not be given back. -/
inductive Step (ledger : Ledger) : Ledger → Prop where
  | bootstrap (context : Context) :
      Step ledger { ledger with
        machine :=
          ((Machine.bootstrap .mk).run { ledger.machine with context := context }).state }
  | act (context : Context) (request : Request) (permitted : ledger.Permitted request)
      (noPanic : request.isForKernel = false →
        ∀ cause, (ledger.session.outcome context request).result ≠ .panic cause)
      (noWrap : ledger.session.NoWrap request (ledger.session.outcome context request).events) :
      Step ledger (ledger.after request (ledger.session.outcome context request))

/-- The ledgers of a machine that begins without spaces, and whose RAM covers its layout and
ends in the direct map. -/
inductive Reachable (layout : RamLayout) : Ledger → Prop where
  | start {machine : Machine (FrameSupply NoEviction)}
      (frames : machine.memory.frames = .ofLayout layout) (empty : machine.spaces = [])
      (visible : layout.lastAddr.toNat ≤ Layout.directMapSize)
      (covers : layout.lastAddr.toNat ≤ machine.memory.ram.size) :
      Reachable layout ⟨machine, [], [], [], []⟩
  | step {ledger ledger' : Ledger} (reachable : Reachable layout ledger)
      (step : Step ledger ledger') : Reachable layout ledger'

/-! ## The invariant -/

/-- There is no coremap yet, and so there are no spaces. -/
structure Early (layout : RamLayout) (ledger : Ledger) : Prop where
  missing : ledger.machine.memory.frames.coremap = none
  empty : ledger.machine.spaces = []
  covers : layout.lastAddr.toNat ≤ ledger.machine.memory.ram.size
  stolen : Stolen layout ledger.machine.memory.frames.stealer ledger.stolen
  lent : ledger.lent = []
  failed : ledger.failed = []
  retried : ledger.retried = []

/-- There is a coremap, and the ledger says what it has lent. -/
structure Late (layout : RamLayout) (stealer : Stealer) (machine : Machine (Coremap NoEviction))
    (ledger : Ledger) : Prop where
  isMachine : ledger.machine = withStealer stealer machine
  stolen : Stolen layout stealer ledger.stolen
  lent : Lent stealer machine.memory machine.spaces ledger.lent ledger.failed ledger.retried

/-- The ledger says what was stolen and lent of the RAM of a layout, all of which the
kernel can see. -/
structure Balanced (layout : RamLayout) (ledger : Ledger) : Prop where
  visible : layout.lastAddr.toNat ≤ Layout.directMapSize
  phase : ledger.Early layout ∨ ∃ stealer machine, ledger.Late layout stealer machine

/-- A ledger remains balanced if a machine only runs another thread. -/
theorem Balanced.withContext (balanced : ledger.Balanced layout) (context : Context) :
    Balanced layout { ledger with machine := { ledger.machine with context := context } } := by
  obtain ⟨visible, early | ⟨stealer, machine, late⟩⟩ := balanced
  · exact ⟨visible, .inl ⟨early.missing, early.empty, early.covers, early.stolen, early.lent,
      early.failed, early.retried⟩⟩
  · refine ⟨visible, .inr ⟨stealer, { machine with context := context }, ?_, late.stolen,
      late.lent⟩⟩
    rw [late.isMachine]
    rfl

/-- What is asked of the end of a request: the ledger is balanced. A run does not go on
after a panic in a request about spaces. -/
def balancing (layout : RamLayout) (ledger : Ledger) (request : Request) :
    Post VmError (Machine (FrameSupply NoEviction)) (Option VirtAddr) where
  value answer machine' _ := (ledger.after request ⟨.value answer, machine', []⟩).Balanced layout
  error e machine' _ := (ledger.after request ⟨.error e, machine', []⟩).Balanced layout
  panic cause machine' := request.isForKernel = true →
    (ledger.after request ⟨.panic cause, machine', []⟩).Balanced layout

/-! ### Without a coremap -/

namespace Early

variable (early : ledger.Early layout) (visible : layout.lastAddr.toNat ≤ Layout.directMapSize)
include early visible

theorem balanced : ledger.Balanced layout :=
  ⟨visible, .inl early⟩

/-- A request about spaces is refused. -/
theorem perform (forSpaces : request.isForKernel = false) :
    request.perform.Ends left ledger.machine (ledger.balancing layout request) := by
  have failed : request.failedAfter .notBootstrapped ledger.failed = ledger.failed := by
    cases request <;> rfl
  have retried : request.retriedAfter ledger.failed ledger.retried = ledger.retried := by
    rw [early.failed]
    cases request with
    | prepareLoad id => simp [Request.retriedAfter, retriedBy]
    | _ => rfl
  refine (ends_perform_of_missing early.missing early.empty forSpaces).mono
    (fun _ _ _ => False.elim) ?_ ?_
  · rintro _ _ _ ⟨rfl, rfl⟩
    change Balanced layout ⟨_, _, _, _, _⟩
    rw [failed, retried]
    exact early.balanced visible
  · intro _ _ _ forKernel
    exact absurd (forSpaces.symm.trans forKernel) Bool.false_ne_true

/-- Kernel pages are stolen. -/
theorem allocPages {pages : Nat} :
    (Request.allocPages pages).perform.Ends left ledger.machine
      (ledger.balancing layout (.allocPages pages)) := by
  have unbooted := isBootstrapped_of_missing early.missing
  have left := early.stolen.lastAddr.symm ▸ visible
  refine Operation.ends_bind.mpr ((ends_allocPages_of_missing early.missing left).mono ?_ ?_
    fun _ _ => False.elim)
  · rintro address _ _ ⟨frame, stop, grants, seen, rfl⟩
    refine Operation.ends_pure.mpr ?_
    simp only [balancing, after, entriesAfter, unbooted, Bool.false_eq_true, if_false]
    exact ⟨visible, .inl ⟨early.missing, early.empty, early.covers,
      early.stolen.steal grants seen, early.lent, early.failed, early.retried⟩⟩
  · rintro e _ _ rfl
    exact early.balanced visible

/-- What is given back is kept. -/
theorem freePages {address : VirtAddr} (permitted : ledger.Permitted (.freePages address)) :
    (Request.freePages address).perform.Ends left ledger.machine
      (ledger.balancing layout (.freePages address)) := by
  obtain ⟨grant, inList, rfl⟩ := permitted
  rw [early.lent, List.append_nil] at inList
  obtain ⟨frame, seen, _⟩ := early.stolen.within grant inList
  refine Operation.ends_bind.mpr ((ends_freePages_of_missing early.missing seen).mpr
    (Operation.ends_pure.mpr ?_))
  have nothing : (ledger.lent.filter fun other => other.address != grant.address) =
      ledger.lent := by
    rw [early.lent]
    rfl
  change Balanced layout ⟨_, _, ledger.lent.filter _, _, _⟩
  rw [nothing]
  exact early.balanced visible

/-- The coremap is built for the RAM that was not stolen, or in vain. -/
theorem bootstrap :
    (Machine.bootstrap .mk).Ends left ledger.machine
      ⟨fun _ machine' _ => Balanced layout { ledger with machine := machine' },
        fun _ machine' _ => Balanced layout { ledger with machine := machine' },
        fun _ machine' => Balanced layout { ledger with machine := machine' }⟩ := by
  refine ends_bootstrap.mono ?_ ?_ ?_
  · rintro _ _ _ ⟨reservation, found, room, _, rfl⟩
    have covers := early.stolen.lastAddr.symm ▸ early.covers
    refine ⟨visible, .inr ⟨_, _, rfl, early.stolen, ?_, ?_, found⟩⟩
    · rw [early.empty, early.lent, early.failed, early.retried]
      exact settled_of_reservation? found room covers
    · rw [early.lent]
      exact nofun
  · rintro _ _ _ ⟨rfl, _⟩
    exact early.balanced visible
  · rintro _ _ ⟨rfl, _⟩
    exact early.balanced visible

end Early

/-! ### With a coremap -/

theorem heldAfter_of_spaces (forSpaces : request.isForKernel = false)
    (answer : Option VirtAddr) (held : List VirtAddr) : request.heldAfter answer held = held := by
  cases request with
  | allocPages | freePages => cases forSpaces
  | _ => rfl

theorem worker_ne_kernel (forSpaces : request.isForKernel = false) (next : SpaceId) :
    request.worker next ≠ .kernel := by
  cases request with
  | allocPages | freePages => cases forSpaces
  | _ => exact Owner.noConfusion

theorem entriesAfter_of_spaces (forSpaces : request.isForKernel = false)
    (answer : Option VirtAddr) :
    ledger.entriesAfter request answer = (ledger.stolen, ledger.lent) := by
  cases request with
  | allocPages | freePages => cases forSpaces
  | _ => rfl

theorem permitted_of_spaces (forSpaces : request.isForKernel = false)
    (permitted : ledger.Permitted request) : ledger.session.Permitted request := by
  cases request with
  | allocPages | freePages => cases forSpaces
  | writeBytes => exact permitted
  | _ => trivial

namespace Late

variable {stealer : Stealer} {machine : Machine (Coremap NoEviction)} {grant grant' : Grant}
  {i : Nat} (late : ledger.Late layout stealer machine)
include late

theorem coremap_eq : ledger.machine.memory.frames.coremap = some machine.memory.frames := by
  rw [late.isMachine]
  rfl

theorem booted : ledger.machine.memory.frames.isBootstrapped = true := by
  rw [FrameSupply.isBootstrapped, late.coremap_eq]
  rfl

/-- What was stolen lies below the reservation. -/
theorem within_of_stolen (inList : grant ∈ ledger.stolen) : grant.Within layout.firstFree.toNat
    (machine.memory.frames.reservation.storage.page.number * 4096) :=
  (late.stolen.within grant inList).mono (Nat.le_refl _) late.lent.front_le_storage

/-- What was stolen is reserved. -/
theorem fixed_of_stolen (inList : grant ∈ ledger.stolen) (covers : grant.Covers i) :
    machine.memory.descriptors[i]? = some .fixed := by
  have below := ((late.within_of_stolen inList).of_covers covers).2
  refine (late.lent.settled.ready.coremap.sound.tiled.fixed_iff i).mpr ?_
  unfold Reservation.firstAllocatable
  omega

/-- All that is on the ledger is apart. -/
theorem apart : (ledger.stolen ++ ledger.lent).Pairwise Grant.Apart := by
  refine List.pairwise_append.mpr ⟨late.stolen.apart, late.lent.apart, ?_⟩
  intro grant inStolen grant' inLent
  have low := (late.within_of_stolen inStolen).mono (Nat.le_refl _)
    (Nat.mul_le_mul_right 4096 (Nat.le_add_right _ machine.memory.frames.reservation.storagePages))
  exact low.apart (late.lent.within late.stolen inLent)

/-- What was lent is not at the address of what was stolen. -/
theorem filter_of_stolen (inStolen : grant ∈ ledger.stolen) :
    (ledger.lent.filter fun other => other.address != grant.address) = ledger.lent := by
  refine List.filter_eq_self.mpr fun other inLent => bne_iff_ne.mpr fun same => ?_
  have apart := (List.pairwise_append.mp late.apart).2.2 grant inStolen other inLent
  obtain ⟨frame, seen, positive, _⟩ := late.within_of_stolen inStolen
  obtain ⟨_, _, positive', _⟩ := late.lent.within late.stolen inLent
  refine apart frame.number ⟨⟨frame, seen, Nat.le_refl _, by omega⟩, frame, ?_, Nat.le_refl _, ?_⟩
  · rwa [same]
  · omega

/-- Work for a space is none for the kernel. -/
theorem perform (visible : layout.lastAddr.toNat ≤ Layout.directMapSize)
    (forSpaces : request.isForKernel = false) (permitted : ledger.Permitted request)
    (ready : machine.memory.Ready left)
    (room : request.namesSpace = true → machine.memory.nextSpace.number + 1 < 0x100000000) :
    request.perform.Ends left ledger.machine (ledger.balancing layout request) := by
  have others := worker_ne_kernel forSpaces machine.memory.nextSpace
  have ends : request.perform.Ends left (withStealer stealer machine)
      (outer stealer (request.settling machine (ledger.lent.map Grant.address) ledger.failed
        ledger.retried)) :=
    Request.ends_perform late.lent.settled (permitted_of_spaces forSpaces permitted)
      (congrArg Machine.memory late.isMachine) ready room
  rw [late.isMachine]
  refine ends.mono ?_ ?_ ?_
  · rintro answer _ _ ⟨machine', rfl, rested, _⟩
    have settled := rested.settled
    rw [heldAfter_of_spaces forSpaces] at settled
    simp only [balancing, after, entriesAfter_of_spaces forSpaces]
    exact ⟨visible, .inr ⟨stealer, machine', rfl, late.stolen,
      late.lent.work settled rested.worked others⟩⟩
  · rintro e _ _ ⟨machine', rfl, rested⟩
    exact ⟨visible, .inr ⟨stealer, machine', rfl, late.stolen,
      late.lent.work rested.settled rested.worked others⟩⟩
  · intro _ _ _ forKernel
    exact absurd (forSpaces.symm.trans forKernel) Bool.false_ne_true

/-- Kernel pages are lent. -/
theorem allocPages (visible : layout.lastAddr.toNat ≤ Layout.directMapSize)
    (ready : machine.memory.Ready left) {pages : Nat} :
    (Request.allocPages pages).perform.Ends left ledger.machine
      (ledger.balancing layout (.allocPages pages)) := by
  have booted := late.booted
  rw [late.isMachine]
  refine Operation.ends_bind.mpr ((ends_allocPages ready).mono ?_ ?_ ?_)
  · rintro address _ _ ⟨_, rfl, frame, id, mem', rfl, took, seen⟩
    refine Operation.ends_pure.mpr ?_
    simp only [balancing, after, entriesAfter, booted, if_true]
    exact ⟨visible, .inr ⟨stealer, _, rfl, late.stolen, late.lent.lend took seen⟩⟩
  · rintro e _ _ ⟨_, rfl, mem', rfl, same⟩
    exact ⟨visible, .inr ⟨stealer, _, rfl, late.stolen, late.lent.unchanged same⟩⟩
  · rintro cause _ ⟨_, rfl, ⟨rfl, _⟩ | ⟨frame, id, mem', left', rfl, took, high⟩⟩ _
    · exact ⟨visible, .inr ⟨stealer, _, rfl, late.stolen, late.lent⟩⟩
    · -- A block that was taken lies in RAM, which the kernel can see.
      have positive : 0 < pages := took.vacant.nonempty
      have inside : frame.number + pages ≤ machine.memory.descriptors.size := took.vacant.within
      have inRam := late.lent.size_le late.stolen
      simp only [Page.base] at high
      omega

/-- What was stolen is kept, and what was lent is taken back. -/
theorem freePages (visible : layout.lastAddr.toNat ≤ Layout.directMapSize)
    {address : VirtAddr} (permitted : ledger.Permitted (.freePages address)) :
    (Request.freePages address).perform.Ends left ledger.machine
      (ledger.balancing layout (.freePages address)) := by
  have ready := late.lent.settled.ready
  obtain ⟨grant, inList, rfl⟩ := permitted
  rcases List.mem_append.mp inList with inStolen | inLent
  · obtain ⟨frame, seen, positive, _⟩ := late.within_of_stolen inStolen
    have fixed := late.fixed_of_stolen inStolen ⟨frame, seen, Nat.le_refl _, by omega⟩
    have same := late.filter_of_stolen inStolen
    have unchanged : Balanced layout ⟨withStealer stealer machine, ledger.stolen, ledger.lent,
        ledger.failed, ledger.retried⟩ :=
      ⟨visible, .inr ⟨stealer, machine, rfl, late.stolen, late.lent⟩⟩
    rw [late.isMachine]
    refine Operation.ends_bind.mpr ((ends_freePages_of_fixed ready.coremap.sound.unlocked seen
      fixed).mono ?_ (fun _ _ _ => False.elim) ?_)
    · rintro _ _ _ rfl
      refine Operation.ends_pure.mpr ?_
      change Balanced layout ⟨_, _, ledger.lent.filter _, _, _⟩
      rw [same]
      exact unchanged
    · rintro _ _ ⟨rfl, _⟩ _
      exact unchanged
  · obtain ⟨b, block, _⟩ := late.lent.blocks grant inLent
    rw [late.isMachine]
    refine Operation.ends_bind.mpr ((ends_freePages_of_block ready block).mono ?_
      (fun _ _ _ ⟨_, _, never⟩ => never.elim) ?_)
    · rintro _ _ _ ⟨_, rfl, mem', rfl, gave⟩
      exact Operation.ends_pure.mpr
        ⟨visible, .inr ⟨stealer, _, rfl, late.stolen, late.lent.takeBack block gave⟩⟩
    · rintro _ _ ⟨_, rfl, rfl, _⟩ _
      exact ⟨visible, .inr ⟨stealer, _, rfl, late.stolen, late.lent⟩⟩

/-- The coremap is not built again. -/
theorem bootstrap :
    (Machine.bootstrap .mk).Ends left ledger.machine
      ⟨fun _ _ _ => False,
        fun e machine' _ => machine' = ledger.machine ∧ e = .alreadyBootstrapped,
        fun _ _ => False⟩ := by
  refine ends_bootstrap.mono ?_ ?_ ?_
  · rintro _ _ _ ⟨_, _, _, missing, _⟩
    cases late.coremap_eq.symm.trans missing
  · exact fun _ _ _ ⟨same, because⟩ => ⟨same, because late.booted⟩
  · exact fun _ _ ⟨_, unbooted⟩ => Bool.false_ne_true (unbooted.symm.trans late.booted)

end Late

/-! ## Runs -/

/-- A permitted request keeps a ledger balanced if no identity comes round again. -/
theorem Balanced.ends_perform (balanced : ledger.Balanced layout)
    (permitted : ledger.Permitted request)
    (few : ∀ coremap, ledger.machine.memory.frames.coremap = some coremap →
      coremap.nextBlock.number + left < 0x100000000)
    (room : request.namesSpace = true →
      ledger.machine.memory.nextSpace.number + 1 < 0x100000000) :
    request.perform.Ends left ledger.machine (ledger.balancing layout request) := by
  obtain ⟨visible, early | ⟨stealer, machine, late⟩⟩ := balanced
  · rcases forKernel : request.isForKernel with _ | _
    · exact early.perform visible forKernel
    · cases request with
      | allocPages pages => exact early.allocPages visible
      | freePages address => exact early.freePages visible permitted
      | _ => cases forKernel
  · have ready := late.lent.settled.ready.of_room (few machine.memory.frames late.coremap_eq)
    rcases forKernel : request.isForKernel with _ | _
    · rw [late.isMachine] at room
      exact late.perform visible forKernel permitted ready room
    · cases request with
      | allocPages pages => exact late.allocPages visible ready
      | freePages address => exact late.freePages visible permitted
      | _ => cases forKernel

/-- An attempt to build the coremap keeps a ledger balanced. -/
theorem Balanced.bootstrap (balanced : ledger.Balanced layout) :
    Balanced layout { ledger with
      machine := ((Machine.bootstrap .mk).run ledger.machine).state } := by
  let holds (machine : Machine (FrameSupply NoEviction)) : Prop :=
    Balanced layout { ledger with machine := machine }
  change holds _
  refine Operation.state_of_ends fun left => ?_
  obtain ⟨visible, early | ⟨stealer, machine, late⟩⟩ := balanced
  · exact early.bootstrap visible
  · refine late.bootstrap.mono (fun _ _ _ => False.elim) ?_ fun _ _ => False.elim
    rintro _ _ _ ⟨rfl, _⟩
    exact ⟨visible, .inr ⟨stealer, machine, late⟩⟩

theorem Step.balanced (step : Step ledger ledger') (balanced : ledger.Balanced layout) :
    ledger'.Balanced layout := by
  cases step with
  | bootstrap context => exact (balanced.withContext context).bootstrap
  | act context request permitted noPanic noWrap =>
    have inContext := balanced.withContext context
    rcases run : ledger.session.outcome context request with ⟨answer | e | cause, state, shown⟩ <;>
      rw [run] at noPanic noWrap
    · exact (inContext.ends_perform permitted noWrap.blocks noWrap.spaces).of_value run
        (Nat.le_refl _)
    · exact (inContext.ends_perform permitted noWrap.blocks noWrap.spaces).of_error run
        (Nat.le_refl _)
    · refine (inContext.ends_perform permitted noWrap.blocks noWrap.spaces).of_panic run
        (Nat.le_refl _) ?_
      by_contra forSpaces
      exact noPanic (Bool.eq_false_iff.mpr forSpaces) cause rfl

theorem Reachable.balanced (reachable : Reachable layout ledger) : ledger.Balanced layout := by
  induction reachable with
  | start frames empty visible covers =>
    refine ⟨visible, .inl ⟨?_, empty, covers, ?_, rfl, rfl, rfl⟩⟩
    · rw [frames]
      rfl
    · rw [frames]
      exact .start layout
  | step _ step ih => exact step.balanced ih

/-! ## What a balanced ledger says -/

/-- A coremap that has taken a grant back differs from `coremap` in the grant's frames,
which are free. -/
structure TakenBack (grant : Grant) (coremap coremap' : Coremap NoEviction) : Prop where
  used : ∀ i, grant.Covers i → ∃ id, coremap.frames[i]? = some (.inUse .kernel id grant.pages)
  freed : ∀ i, grant.Covers i → coremap'.frames[i]? = some .free
  kept : ∀ i, ¬ grant.Covers i → coremap'.frames[i]? = coremap.frames[i]?

namespace Balanced

variable {grant : Grant} {frame : Frame} {address : VirtAddr}

theorem apart (balanced : ledger.Balanced layout) :
    (ledger.stolen ++ ledger.lent).Pairwise Grant.Apart := by
  obtain ⟨visible, early | ⟨stealer, machine, late⟩⟩ := balanced
  · rw [early.lent, List.append_nil]
    exact early.stolen.apart
  · exact late.apart

theorem within (balanced : ledger.Balanced layout) (inList : grant ∈ ledger.stolen ++ ledger.lent) :
    grant.Within layout.firstFree.toNat layout.lastAddr.toNat := by
  obtain ⟨visible, early | ⟨stealer, machine, late⟩⟩ := balanced
  · rw [early.lent, List.append_nil] at inList
    exact early.stolen.within_layout inList
  · rcases List.mem_append.mp inList with inStolen | inLent
    · exact late.stolen.within_layout inStolen
    · refine (late.lent.within late.stolen inLent).mono ?_ (Nat.le_refl _)
      refine Nat.le_trans late.stolen.low (Nat.le_trans late.lent.front_le_storage ?_)
      exact Nat.mul_le_mul_right 4096 (Nat.le_add_right _ _)

/-- No grant meets the frames that hold descriptors. -/
theorem outside (balanced : ledger.Balanced layout) {coremap : Coremap NoEviction}
    (isCoremap : ledger.machine.memory.frames.coremap = some coremap)
    (inList : grant ∈ ledger.stolen ++ ledger.lent) {i : Nat} (covers : grant.Covers i) :
    i < coremap.reservation.storage.page.number ∨ coremap.reservation.firstAllocatable ≤ i := by
  obtain ⟨visible, early | ⟨stealer, machine, late⟩⟩ := balanced
  · cases early.missing.symm.trans isCoremap
  · obtain rfl := Option.some.inj (late.coremap_eq.symm.trans isCoremap)
    rcases List.mem_append.mp inList with inStolen | inLent
    · have below := ((late.within_of_stolen inStolen).of_covers covers).2
      exact .inl (by omega)
    · have above := ((late.lent.within late.stolen inLent).of_covers covers).1
      exact .inr (by omega)

/-- Pages that were stolen are kept. -/
theorem ends_freePages_of_stolen (balanced : ledger.Balanced layout)
    (inList : grant ∈ ledger.stolen) (covers : grant.Covers frame.number)
    (seen : address.ofKernel = some frame.base) :
    (freePages address).Ends left ledger.machine
      ⟨fun _ machine' _ => machine' = ledger.machine, fun _ _ _ => False,
        fun _ machine' =>
          machine' = ledger.machine ∧ ¬ CanSleep (some ledger.machine.context)⟩ := by
  obtain ⟨visible, early | ⟨stealer, machine, late⟩⟩ := balanced
  · exact (ends_freePages_of_missing early.missing seen).mpr rfl
  · rw [late.isMachine]
    exact ends_freePages_of_fixed late.lent.settled.ready.coremap.sound.unlocked seen
      (late.fixed_of_stolen inList covers)

/-- A block that was lent is taken back. -/
theorem ends_freePages_of_lent (balanced : ledger.Balanced layout)
    (inList : grant ∈ ledger.lent) : ∃ coremap,
      ledger.machine.memory.frames.coremap = some coremap ∧ ∀ left,
        (freePages grant.address).Ends left ledger.machine
          ⟨fun _ machine' _ => ∃ coremap', TakenBack grant coremap coremap' ∧
              machine' = { ledger.machine with
                memory := { ledger.machine.memory with
                  frames := { ledger.machine.memory.frames with coremap := some coremap' } } },
            fun _ _ _ => False,
            fun _ machine' =>
              machine' = ledger.machine ∧ ¬ CanSleep (some ledger.machine.context)⟩ := by
  obtain ⟨visible, early | ⟨stealer, machine, late⟩⟩ := balanced
  · rw [early.lent] at inList
    cases inList
  · obtain ⟨b, block, size⟩ := late.lent.blocks grant inList
    refine ⟨_, late.coremap_eq, fun left => ?_⟩
    rw [late.isMachine]
    refine (ends_freePages_of_block late.lent.settled.ready block).mono ?_
      (fun _ _ _ ⟨_, _, never⟩ => never.elim) ?_
    · rintro _ _ _ ⟨_, rfl, ⟨coremap', ram, nextSpace⟩, rfl, gave⟩
      obtain rfl : ram = machine.memory.ram := gave.ram
      obtain rfl : nextSpace = machine.memory.nextSpace := gave.confined.nextSpace
      have vacated : coremap'.frames =
          Coremap.fill .free machine.memory.frames.frames b.base b.size := gave.descriptors
      refine ⟨coremap', ⟨?_, ?_, ?_⟩, rfl⟩
      · intro i covers
        have recorded := block.live.recorded i ((Grant.covers_iff block size).mp covers)
        exact ⟨b.id, recorded.trans (by rw [Block.descriptor, block.owner, size])⟩
      · intro i covers
        rw [vacated]
        exact getElem?_fill_of_covers ((Grant.covers_iff block size).mp covers)
          block.live.within
      · intro i outside
        rw [vacated]
        exact getElem?_fill_of_not_covers fun covers =>
          outside ((Grant.covers_iff block size).mpr covers)
    · rintro _ _ ⟨_, rfl, rfl, cannot⟩
      exact ⟨rfl, cannot⟩

theorem run_freePages_of_stolen (balanced : ledger.Balanced layout)
    (inList : grant ∈ ledger.stolen) (covers : grant.Covers frame.number)
    (seen : address.ofKernel = some frame.base) :
    let outcome := (freePages address).run ledger.machine
    outcome.state = ledger.machine ∧
      (CanSleep (some ledger.machine.context) → outcome.result = .value ()) := by
  have ends (left : Nat) : (freePages address).Ends left ledger.machine _ :=
    balanced.ends_freePages_of_stolen inList covers seen
  constructor
  · exact Operation.state_of_ends fun left =>
      (ends left).mono (fun _ _ _ => id) (fun _ _ _ => False.elim) fun _ _ => And.left
  · intro canSleep
    obtain ⟨⟨⟩, _, _, run, _⟩ := Operation.exists_value_of_ends fun left =>
      (ends left).mono (fun _ _ _ => id) (fun _ _ _ => id) fun _ _ ended => ended.2 canSleep
    exact congrArg Outcome.result run

theorem run_freePages_of_lent (balanced : ledger.Balanced layout)
    (inList : grant ∈ ledger.lent) :
    let machine := ledger.machine
    let outcome := (freePages grant.address).run machine
    (∀ cause, outcome.result = .panic cause → outcome.state = machine) ∧
    (CanSleep (some machine.context) → outcome.result = .value () ∧ ∃ coremap coremap',
      machine.memory.frames.coremap = some coremap ∧ TakenBack grant coremap coremap' ∧
      outcome.state = { machine with
        memory := { machine.memory with
          frames := { machine.memory.frames with coremap := some coremap' } } }) := by
  obtain ⟨coremap, isCoremap, ends⟩ := balanced.ends_freePages_of_lent inList
  constructor
  · intro cause panics
    have run := Operation.run_eq_of_result_of_state panics rfl
    exact ((ends _).of_panic run (Nat.le_refl _)).1
  · intro canSleep
    obtain ⟨⟨⟩, _, _, run, coremap', takenBack, rfl⟩ := Operation.exists_value_of_ends
      fun left => (ends left).mono (fun _ _ _ => id) (fun _ _ _ => id)
        fun _ _ ended => ended.2 canSleep
    exact ⟨congrArg Outcome.result run, coremap, coremap', isCoremap, takenBack,
      congrArg Outcome.state run⟩

end Balanced

/-- An attempt to build the coremap that fails has no effect, and it always fails if there
is one. -/
theorem run_bootstrap {machine : Machine (FrameSupply NoEviction)} :
    let outcome := (Machine.bootstrap .mk).run machine
    (outcome.result ≠ .value () → outcome.state = machine) ∧
    (machine.memory.frames.isBootstrapped = true →
      outcome.result = .error .alreadyBootstrapped) := by
  intro outcome
  rcases run : outcome with ⟨⟨⟩ | e | cause, state, shown⟩
  · obtain ⟨_, _, _, missing, _⟩ := ends_bootstrap.of_value run (Nat.le_refl _)
    exact ⟨fun failed => absurd rfl failed, fun booted =>
      Bool.noConfusion (booted.symm.trans (isBootstrapped_of_missing missing))⟩
  · obtain ⟨same, because⟩ := ends_bootstrap.of_error run (Nat.le_refl _)
    exact ⟨fun _ => same, fun booted => congrArg Result.error (because booted)⟩
  · obtain ⟨same, unbooted⟩ := ends_bootstrap.of_panic run (Nat.le_refl _)
    exact ⟨fun _ => same, fun booted => Bool.noConfusion (booted.symm.trans unbooted)⟩

/-- What is on a ledger is honored. -/
structure Honored (layout : RamLayout) (ledger : Ledger) : Prop where
  /-- No page is granted twice. -/
  apart : (ledger.stolen ++ ledger.lent).Pairwise Grant.Apart
  /-- All grants lie in the RAM of the layout. -/
  within : ∀ grant ∈ ledger.stolen ++ ledger.lent,
    grant.Within layout.firstFree.toNat layout.lastAddr.toNat
  /-- No grant meets the frames that hold descriptors. -/
  outside : ∀ coremap, ledger.machine.memory.frames.coremap = some coremap →
    ∀ grant ∈ ledger.stolen ++ ledger.lent, ∀ i, grant.Covers i →
      i < coremap.reservation.storage.page.number ∨
        coremap.reservation.storage.page.number + coremap.reservation.storagePages ≤ i
  /-- Freeing a page that was stolen changes nothing, whoever does so. -/
  kept : ∀ grant ∈ ledger.stolen, ∀ (frame : Frame) (address : VirtAddr),
    grant.Covers frame.number → address.ofKernel = some frame.base → ∀ context : Context,
      let machine := { ledger.machine with context := context }
      let outcome := (freePages address).run machine
      outcome.state = machine ∧ (CanSleep (some context) → outcome.result = .value ())
  /-- Freeing a block that was lent frees its frames and nothing else. Only a thread that
  may not sleep is refused, and changes nothing. -/
  freed : ∀ grant ∈ ledger.lent, ∀ context : Context,
    let machine := { ledger.machine with context := context }
    let outcome := (freePages grant.address).run machine
    (∀ cause, outcome.result = .panic cause → outcome.state = machine) ∧
    (CanSleep (some context) → outcome.result = .value () ∧ ∃ coremap coremap',
      machine.memory.frames.coremap = some coremap ∧ TakenBack grant coremap coremap' ∧
      outcome.state = { machine with
        memory := { machine.memory with
          frames := { machine.memory.frames with coremap := some coremap' } } })
  /-- An attempt to build the coremap that fails changes nothing, and any attempt fails once
  there is a coremap. -/
  rejected : ∀ context : Context,
    let machine := { ledger.machine with context := context }
    let outcome := (Machine.bootstrap .mk).run machine
    (outcome.result ≠ .value () → outcome.state = machine) ∧
    (machine.memory.frames.isBootstrapped = true →
      outcome.result = .error .alreadyBootstrapped)

/-- In every run, what was granted is honored, as long as no identity of a block or of a
space comes round again. -/
theorem honored_of_reachable (reachable : Reachable layout ledger) : ledger.Honored layout := by
  have balanced := reachable.balanced
  constructor
  · exact balanced.apart
  · exact fun grant inList => balanced.within inList
  · exact fun coremap isCoremap grant inList i covers => balanced.outside isCoremap inList covers
  · intro grant inList frame address covers seen context
    exact (balanced.withContext context).run_freePages_of_stolen inList covers seen
  · intro grant inList context
    exact (balanced.withContext context).run_freePages_of_lent inList
  · exact fun context => run_bootstrap

/-- The running thread can give back what was lent, if it may sleep. -/
theorem Honored.result_freePages {grant : Grant} (honored : ledger.Honored layout)
    (inList : grant ∈ ledger.lent) (canSleep : CanSleep (some ledger.machine.context)) :
    ((freePages grant.address).run ledger.machine).result = .value () :=
  ((honored.freed grant inList ledger.machine.context).2 canSleep).1

/-- Eight frames of RAM, the first one and a half of which are in use. -/
def fresh : Ledger :=
  ⟨.initial (.ofLayout ⟨.ofNat 0x1800, .ofNat 0x8000⟩) (.zeroed .directMap 8), [], [], [], []⟩

/-- A page is stolen. -/
def robbed : Ledger :=
  fresh.after (.allocPages 1) (fresh.session.outcome ⟨1, false⟩ (.allocPages 1))

/-- The coremap is built behind it. -/
def booted : Ledger :=
  { robbed with
    machine := ((Machine.bootstrap .mk).run { robbed.machine with context := ⟨1, false⟩ }).state }

/-- Two pages are lent. -/
def indebted : Ledger :=
  booted.after (.allocPages 2) (booted.session.outcome ⟨1, false⟩ (.allocPages 2))

theorem reachable_booted : Reachable ⟨.ofNat 0x1800, .ofNat 0x8000⟩ booted := by
  have size : (Ram.zeroed .directMap 8).size = 8 * 4096 := Ram.size_zeroed _ _
  have begun : Reachable ⟨.ofNat 0x1800, .ofNat 0x8000⟩ fresh :=
    .start rfl rfl (by decide) (Nat.le_of_eq size.symm)
  have stole : fresh.Step robbed :=
    .act _ (.allocPages 1) Nat.one_pos nofun
      (Session.noWrap_of_all (by decide +kernel) (by decide +kernel))
  exact (begun.step stole).step (.bootstrap _)

theorem reachable_indebted : Reachable ⟨.ofNat 0x1800, .ofNat 0x8000⟩ indebted :=
  reachable_booted.step (.act _ (.allocPages 2) Nat.two_pos nofun
    (Session.noWrap_of_all (by decide +kernel) (by decide +kernel)))

/-- The page that was stolen and the pages that were lent are honored. -/
theorem honored_of_reachable_both :
    Reachable ⟨.ofNat 0x1800, .ofNat 0x8000⟩ indebted ∧
      indebted.stolen = [⟨.ofNat 0x80002000, 1⟩] ∧ indebted.lent = [⟨.ofNat 0x80004000, 2⟩] ∧
      indebted.Honored ⟨.ofNat 0x1800, .ofNat 0x8000⟩ :=
  ⟨reachable_indebted, by decide +kernel, by decide +kernel,
    honored_of_reachable reachable_indebted⟩

/-- The ledger after requests by one thread, one after the other. -/
def afterAll (context : Context) (ledger : Ledger) : List Request → Ledger
  | [] => ledger
  | request :: rest =>
    afterAll context (ledger.after request (ledger.session.outcome context request)) rest

theorem afterAll_append (earlier later : List Request) :
    ledger.afterAll context (earlier ++ later) =
      (ledger.afterAll context earlier).afterAll context later := by
  induction earlier generalizing ledger with
  | nil => rfl
  | cons first rest ih => exact ih

/-- The ledger of a machine with another coremap. -/
def withCoremap (ledger : Ledger) (coremap : Coremap NoEviction) : Ledger :=
  { ledger with
    machine := { ledger.machine with
      memory := { ledger.machine.memory with
        frames := { ledger.machine.memory.frames with coremap := some coremap } } } }

section Missed

variable {coremap : Coremap NoEviction} {pages : Nat} (unlocked : coremap.locks = .free)
  (canSleep : CanSleep (some context)) (positive : 0 < pages)
  (missed : Coremap.findRunFrom coremap.frames coremap.cursor pages coremap.policy =
    (none, coremap.policy))
include unlocked canSleep positive missed

/-- A request for pages for which there is no run fails, and all that it does is to draw an
identity. -/
theorem run_allocPages_of_missed {machine : Machine (FrameSupply NoEviction)}
    (isCoremap : machine.memory.frames.coremap = some coremap)
    (running : machine.context = context) :
    ∃ shown, (allocPages pages).run machine = ⟨.error (.frames ⟨pages⟩),
      { machine with
        memory := { machine.memory with
          frames := { machine.memory.frames with
            coremap := some { coremap with nextBlock := coremap.nextBlock.succ } } } },
      shown⟩ := by
  obtain ⟨⟨⟨stealer, _⟩, ram, nextSpace⟩, spaces, interrupts, firstTlb, secondTlb, current⟩ :=
    machine
  obtain rfl : current = context := running
  cases isCoremap
  obtain ⟨shown, run, _⟩ :=
    Coremap.run_allocate_of_missed unlocked canSleep positive missed .kernel
  have refused : (FrameSupply.allocPages (some current) pages).run ⟨stealer, some coremap⟩ =
      ⟨.error (.frames ⟨pages⟩),
        ⟨stealer, some { coremap with nextBlock := coremap.nextBlock.succ }⟩, shown⟩ := by
    refine (Operation.run_read_bind _ _ _).trans (Operation.run_bind_of_error ?_)
    unfold Operation.run at run ⊢
    simp only [FrameSupply.onCoremap, Operation.mapError, run]
  refine ⟨shown, ?_⟩
  rw [Machine.allocPages, Operation.run_read_bind]
  unfold Operation.run at refused ⊢
  simp only [Machine.onFrames, Machine.onMemory, Memory.onFrames, Operation.onPart, refused]

theorem after_allocPages_of_missed
    (isCoremap : ledger.machine.memory.frames.coremap = some coremap)
    (running : ledger.machine.context = context) :
    ledger.after (.allocPages pages) (ledger.session.outcome context (.allocPages pages)) =
      ledger.withCoremap { coremap with nextBlock := coremap.nextBlock.succ } := by
  have inContext : { ledger.machine with context := context }.memory.frames.coremap =
      some coremap := isCoremap
  obtain ⟨shown, run⟩ := run_allocPages_of_missed unlocked canSleep positive missed inContext rfl
  have failed : ledger.session.outcome context (.allocPages pages) = ⟨.error _, _, shown⟩ :=
    Operation.run_bind_of_error run
  rw [failed]
  subst running
  rfl

/-- Requests for pages for which there is no run do nothing but draw identities. -/
theorem afterAll_replicate_of_missed
    (isCoremap : ledger.machine.memory.frames.coremap = some coremap)
    (running : ledger.machine.context = context) (n : Nat) :
    ledger.afterAll context (List.replicate n (.allocPages pages)) =
      ledger.withCoremap { coremap with nextBlock := BlockId.succ^[n] coremap.nextBlock } := by
  induction n generalizing ledger coremap with
  | zero =>
    obtain ⟨⟨⟨⟨_, _⟩, _, _⟩, _, _, _, _, _⟩, _, _, _, _⟩ := ledger
    cases isCoremap
    rfl
  | succ n ih =>
    rw [List.replicate_succ, afterAll,
      after_allocPages_of_missed unlocked canSleep positive missed isCoremap running]
    let drawn : Coremap NoEviction := { coremap with nextBlock := coremap.nextBlock.succ }
    have still : (ledger.withCoremap drawn).machine.context = context := running
    have isDrawn : (ledger.withCoremap drawn).machine.memory.frames.coremap = some drawn := rfl
    have unlockedStill : drawn.locks = .free := unlocked
    exact ih unlockedStill missed isDrawn still

end Missed

/-- Since a page was lent the identities have come round, and another page is lent. -/
def wrapped : Ledger :=
  ((booted.afterAll ⟨1, false⟩ [.allocPages 1]).withCoremap
    ⟨.free, ⟨1⟩, 5, #[.fixed, .fixed, .fixed, .fixed, .inUse .kernel ⟨1⟩ 1, .free, .free, .free],
      .mk, ⟨8, .ofNat 0x3000⟩⟩).afterAll ⟨1, false⟩ [.allocPages 1]

/-- Failing requests bring the identities round. -/
theorem afterAll_eq_wrapped :
    booted.afterAll ⟨1, false⟩ (.allocPages 1 :: List.replicate 0xFFFFFFFE (.allocPages 100) ++
      [.allocPages 1]) = wrapped := by
  let first : Ledger := booted.afterAll ⟨1, false⟩ [.allocPages 1]
  let coremap : Coremap NoEviction :=
    ⟨.free, ⟨2⟩, 5, #[.fixed, .fixed, .fixed, .fixed, .inUse .kernel ⟨1⟩ 1, .free, .free, .free],
      .mk, ⟨8, .ofNat 0x3000⟩⟩
  have isCoremap : first.machine.memory.frames.coremap = some coremap := by
    decide +kernel
  have running : first.machine.context = ⟨1, false⟩ := by
    decide +kernel
  have missed : Coremap.findRunFrom coremap.frames coremap.cursor 100 coremap.policy =
      (none, coremap.policy) := by
    decide +kernel
  -- How often a request fails is left open until the counter is read off.
  have worn (n : Nat) :
      booted.afterAll ⟨1, false⟩ (.allocPages 1 :: List.replicate n (.allocPages 100) ++
          [.allocPages 1]) =
        (first.withCoremap { coremap with nextBlock := BlockId.succ^[n] ⟨2⟩ }).afterAll ⟨1, false⟩
          [.allocPages 1] := by
    rw [afterAll_append]
    exact congrArg (afterAll _ · _) (afterAll_replicate_of_missed rfl (by decide) (by decide) missed
      isCoremap running n)
  have round : BlockId.succ^[0xFFFFFFFE] ⟨2⟩ = ⟨1⟩ :=
    BlockId.iterate_succ (by decide) (by decide) _
  have came := worn 0xFFFFFFFE
  rw [round] at came
  exact came

/-- Once the identities have come round, two pages that were lent lie side by side under one
identity, and the second is not taken back. Nor is a block taken back from a thread that
must not sleep. -/
theorem not_honored_of_wrapped :
    let layout : RamLayout := ⟨.ofNat 0x1800, .ofNat 0x8000⟩
    let requests : List Request :=
      .allocPages 1 :: List.replicate 0xFFFFFFFE (.allocPages 100) ++ [.allocPages 1]
    let ledger := booted.afterAll ⟨1, false⟩ requests
    let hurried := { indebted.machine with context := ⟨1, true⟩ }
    Reachable layout booted ∧
      (∀ request ∈ requests, ∃ pages, request = .allocPages pages ∧ 0 < pages) ∧
      ledger.lent = [⟨.ofNat 0x80005000, 1⟩, ⟨.ofNat 0x80004000, 1⟩] ∧
      ((freePages (.ofNat 0x80005000)).run ledger.machine).result =
        .panic (.freeInsideBlock (.ofNumber 5) ⟨1⟩) ∧
      ¬ ledger.Honored layout ∧
      Reachable layout indebted ∧ indebted.lent = [⟨.ofNat 0x80004000, 2⟩] ∧
      ((freePages (.ofNat 0x80004000)).run hurried).result = .panic .sleepInInterrupt := by
  intro layout requests ledger hurried
  have reached : ledger = wrapped := afterAll_eq_wrapped
  have lent : ledger.lent = [⟨.ofNat 0x80005000, 1⟩, ⟨.ofNat 0x80004000, 1⟩] := by
    rw [reached]
    decide +kernel
  have refused : ((freePages (.ofNat 0x80005000)).run ledger.machine).result =
      .panic (.freeInsideBlock (.ofNumber 5) ⟨1⟩) := by
    rw [reached]
    decide +kernel
  refine ⟨reachable_booted, ?_, lent, refused, ?_, reachable_indebted, by decide +kernel,
    by decide +kernel⟩
  · intro request inList
    rcases List.mem_append.mp inList with early | last
    · rcases List.mem_cons.mp early with rfl | among
      · exact ⟨1, rfl, Nat.one_pos⟩
      · exact ⟨100, (List.mem_replicate.mp among).2, by decide⟩
    · exact ⟨1, List.mem_singleton.mp last, Nat.one_pos⟩
  · intro honored
    have inList : (⟨.ofNat 0x80005000, 1⟩ : Grant) ∈ ledger.lent := lent ▸ List.mem_cons_self
    have canSleep : CanSleep (some ledger.machine.context) := by
      rw [reached]
      decide +kernel
    have returned := honored.result_freePages inList canSleep
    cases refused.symm.trans returned

end Ledger

end PagedMemory
