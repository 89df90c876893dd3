import PagedMemory.Proofs.Coremap.Representation
import PagedMemory.Proofs.Machine.Preserving
import PagedMemory.Proofs.Stealer

/-!
# Kernel pages and the direct map

A request for kernel pages first takes a run of frames and then turns the address
of the run into one that the kernel sees. A run that begins inside the direct map
is answered; a request that no run can serve leaves everything as it was. Only a
run that the direct map does not reach ends in a panic, which the conversion of
its address raises. This holds in every state that the memory system can come to,
whatever panicked on the way there.
-/

namespace PagedMemory

open Operation

namespace FrameSupply

/-- The run of frames that a request for kernel pages would get, by its first frame. -/
def grant? (supply : FrameSupply NoEviction) (pages : Nat) : Option Frame :=
  match supply.coremap with
  | none => (supply.stealer.grant? pages).map Prod.fst
  | some coremap => coremap.grant? pages

/-- The `pages` frames from `frame` on were taken for the kernel and nothing else was
touched: they lay at the front of the RAM that was left, or they were free. -/
inductive Takes (pages : Nat) (frame : Frame) :
    FrameSupply NoEviction → FrameSupply NoEviction → Prop where
  | steal {layout : RamLayout} {stop : PhysAddr} (grants : layout.Grants pages frame stop) :
      Takes pages frame ⟨⟨layout⟩, none⟩ ⟨⟨{ layout with firstFree := stop }⟩, none⟩
  | claim {stealer : Stealer} {before after : Coremap NoEviction} {block : BlockId}
      (free : ∀ i, frame.number ≤ i → i < frame.number + pages →
        before.frames[i]? = some .free)
      (frames : after.frames =
        Coremap.fill (.inUse .kernel block pages) before.frames frame.number pages) :
      Takes pages frame ⟨stealer, some before⟩ ⟨stealer, some after⟩

/-- What the stealer has left and what is recorded about the frames is as before. -/
structure Keeps (before after : FrameSupply NoEviction) : Prop where
  stealer : after.stealer = before.stealer
  frames : after.coremap.map Coremap.frames = before.coremap.map Coremap.frames

variable {supply : FrameSupply NoEviction} {context : Option Context} {left pages : Nat}

theorem ends_steal :
    (steal pages).Ends left supply
      ⟨fun frame supply' _ => ∃ stop, supply.stealer.remaining.Grants pages frame stop ∧
          supply.stealer.grant? pages = some (frame, stop) ∧
          supply' =
            { supply with stealer := ⟨{ supply.stealer.remaining with firstFree := stop }⟩ },
        fun _ supply' _ => supply.stealer.grant? pages = none ∧ supply' = supply,
        fun _ _ => False⟩ := by
  rcases granted : supply.stealer.grant? pages with _ | ⟨frame, stop⟩
  · have run : (steal pages).run supply = ⟨.error (.stealExhausted pages), supply, []⟩ := by
      simp [Operation.run, steal, Stealer.steal, granted]
    unfold Ends
    rw [run]
    exact fun _ => ⟨rfl, rfl⟩
  · have run : (steal pages).run supply = ⟨.value frame,
        { supply with stealer := ⟨{ supply.stealer.remaining with firstFree := stop }⟩ }, []⟩ := by
      simp [Operation.run, steal, Stealer.steal, granted]
    exact (ends_of_run_value run).mpr
      ⟨stop, Stealer.grant?_eq_some_iff.mp granted, rfl, rfl⟩

/-- What is asked of the end of a request for kernel pages. -/
def paged (supply : FrameSupply NoEviction) (pages : Nat) :
    Post VmError (FrameSupply NoEviction) VirtAddr where
  value address supply' _ := ∃ frame, supply.grant? pages = some frame ∧
    address.ofKernel = some frame.base ∧ Takes pages frame supply supply'
  error _ supply' _ := supply.grant? pages = none ∧ Keeps supply supply'
  panic cause _ := ∃ frame, supply.grant? pages = some frame ∧
    Layout.directMapSize ≤ frame.base.toNat ∧ cause = .outsideDirectMap

/-- Turning the address of a run that was taken into one that the kernel sees. -/
theorem ends_toKernel {supply' : FrameSupply NoEviction} {frame : Frame}
    (granted : supply.grant? pages = some frame) (takes : Takes pages frame supply supply') :
    (ofExcept frame.base.toKernel).Ends left supply' (supply.paged pages) := by
  refine ends_ofExcept.mpr ?_
  rcases seen : frame.base.toKernel with cause | address
  · exact ⟨frame, granted, Address.le_of_toKernel seen⟩
  · exact ⟨frame, granted, Address.toKernel_eq_ok_iff.mp seen, takes⟩

theorem ends_allocPages_of_guarded (guarded : supply.Meets (Coremap.Guarded .free))
    (canSleep : CanSleep context) (positive : 0 < pages) :
    (allocPages context pages).Ends left supply (supply.paged pages) := by
  rcases supply with ⟨stealer, _ | coremap⟩
  · refine ends_bind.mpr (ends_read.mpr ?_)
    refine ends_steal.bind ?_ ?_ (fun _ _ => False.elim)
    · rintro frame _ _ ⟨stop, grants, granted, rfl⟩
      exact ends_toKernel (by simp [grant?, granted]) (.steal grants)
    · rintro e _ _ ⟨refused, rfl⟩
      exact ⟨by simp [grant?, refused], rfl, rfl⟩
  · refine ends_allocPages ((Coremap.ends_allocate_of_guarded (guarded coremap rfl) canSleep
      positive).mono ?_ ?_ (fun _ _ => False.elim))
    · rintro frame after _ ⟨granted, free, frames⟩
      exact ends_toKernel granted (.claim free frames)
    · rintro e after _ ⟨refused, frames⟩
      exact ⟨refused, rfl, congrArg some frames⟩

end FrameSupply

namespace Machine

/-! ## Every state of the memory system -/

variable {machine : Machine (FrameSupply NoEviction)} {layout : RamLayout}

/-- A thread asks for something, however this ends, or calls the coremap itself, or
something happens in RAM, in the spaces or in a processor. -/
inductive Move (machine : Machine (FrameSupply NoEviction)) :
    Machine (FrameSupply NoEviction) → Prop where
  | bootstrap (context : Context) :
      Move machine ((bootstrap .mk).run { machine with context := context }).state
  | request (context : Context) (request : Request) :
      Move machine (request.perform.run { machine with context := context }).state
  | call (context : Option Context) (call : Coremap.Call) :
      Move machine { machine with
        memory := { machine.memory with
          frames := { machine.memory.frames with
            coremap := machine.memory.frames.coremap.map fun coremap =>
              call.after context coremap } } }
  | elsewhere {machine' : Machine (FrameSupply NoEviction)}
      (frames : machine'.memory.frames = machine.memory.frames) : Move machine machine'

/-- The states that a memory system for a layout can come to, in any RAM. -/
inductive Reachable (layout : RamLayout) : Machine (FrameSupply NoEviction) → Prop where
  | start {machine : Machine (FrameSupply NoEviction)}
      (frames : machine.memory.frames = .ofLayout layout) : Reachable layout machine
  | move {machine machine' : Machine (FrameSupply NoEviction)}
      (reachable : Reachable layout machine) (move : Move machine machine') :
      Reachable layout machine'

theorem Move.guarded {machine' : Machine (FrameSupply NoEviction)} (move : Move machine machine')
    (guarded : machine.memory.frames.Meets (Coremap.Guarded .free)) :
    machine'.memory.frames.Meets (Coremap.Guarded .free) := by
  have retains (context : Context) : Retains (FrameSupply.Meets (Coremap.Guarded .free))
      machine.tlb [] { machine with context := context } := ⟨guarded, rfl, nofun⟩
  cases move with
  | bootstrap context =>
    exact (preserves_onMemory (Memory.preserves_bootstrap _) _ (retains context)).frames
  | request context request =>
    exact (request.preserves_perform (fun _ _ => List.not_mem_nil) _ (retains context)).frames
  | call context call =>
    intro after isAfter
    obtain ⟨coremap, isCoremap, rfl⟩ := Option.map_eq_some_iff.mp isAfter
    exact call.guarded_after (guarded coremap isCoremap) context
  | elsewhere frames =>
    rw [frames]
    exact guarded

/-- In every state nobody holds a lock of the coremap. -/
theorem Reachable.guarded (reachable : Reachable layout machine) :
    machine.memory.frames.Meets (Coremap.Guarded .free) := by
  induction reachable with
  | start frames =>
    intro coremap isCoremap
    rw [frames] at isCoremap
    cases isCoremap
  | move _ move ih => exact move.guarded ih

/-- A request for kernel pages is refused and changes neither the stealer nor the
descriptors if no run can serve it. Otherwise it answers the run that it has just taken,
unless this begins above the direct map; only then it panics. -/
theorem kernelPages_of_reachable (reachable : Reachable layout machine) {context : Context}
    (canSleep : CanSleep (some context)) {pages : Nat} (positive : 0 < pages) :
    let supply := machine.memory.frames
    let outcome := (allocPages pages).run { machine with context := context }
    match supply.grant? pages with
    | none =>
      (∃ e, outcome.result = .error e) ∧ supply.Keeps outcome.state.memory.frames
    | some frame =>
      if frame.base.toNat < Layout.directMapSize then
        ∃ address : VirtAddr, outcome.result = .value address ∧
          address.ofKernel = some frame.base ∧
          FrameSupply.Takes pages frame supply outcome.state.memory.frames
      else outcome.result = .panic .outsideDirectMap := by
  intro supply outcome
  have ends (left : Nat) : (allocPages pages).Ends left { machine with context := context }
      ⟨fun address machine' left => (supply.paged pages).value address machine'.memory.frames left,
        fun e machine' left => (supply.paged pages).error e machine'.memory.frames left,
        fun cause machine' => (supply.paged pages).panic cause machine'.memory.frames⟩ :=
    ends_bind.mpr (ends_read.mpr (ends_onMemory.mpr (Memory.ends_onFrames.mpr
      (FrameSupply.ends_allocPages_of_guarded reachable.guarded canSleep positive))))
  rcases ended : outcome with ⟨address | e | cause, after, shown⟩
  · obtain ⟨frame, granted, seen, takes⟩ := (ends _).of_value ended (Nat.le_refl _)
    rw [granted]
    dsimp only
    rw [if_pos (Address.lt_of_ofKernel seen)]
    exact ⟨address, rfl, seen, takes⟩
  · obtain ⟨refused, keeps⟩ := (ends _).of_error ended (Nat.le_refl _)
    rw [refused]
    exact ⟨⟨e, rfl⟩, keeps⟩
  · obtain ⟨frame, granted, high, rfl⟩ := (ends _).of_panic ended (Nat.le_refl _)
    rw [granted]
    dsimp only
    rw [if_neg (Nat.not_lt_of_ge high)]

/-- Of eight frames three are reserved at boot, and the kernel gets the next two. -/
theorem kernelPages_of_reachable_booted :
    let layout : RamLayout := ⟨.ofNat 0x1800, .ofNat 0x8000⟩
    let machine := ((bootstrap NoEviction.mk).run
      (Machine.initial (.ofLayout layout) ⟨.directMap, .empty⟩)).state
    Reachable layout machine ∧ CanSleep (some ⟨1, false⟩) ∧
      machine.memory.frames.isBootstrapped = true ∧
      ∃ address : VirtAddr,
        ((allocPages 2).run { machine with context := ⟨1, false⟩ }).result = .value address ∧
          address.ofKernel = some (.ofNat 0x3000) := by
  intro layout machine
  have started : Reachable layout (Machine.initial (.ofLayout layout) ⟨.directMap, .empty⟩) :=
    .start rfl
  have reachable : Reachable layout machine := started.move (.bootstrap ⟨1, false⟩)
  have canSleep : CanSleep (some ⟨1, false⟩) := by
    decide
  have positive : 0 < 2 := by
    decide
  have granted : machine.memory.frames.grant? 2 = some (.ofNumber 3) := by
    decide +kernel
  have paged := kernelPages_of_reachable reachable canSleep positive
  simp only [granted] at paged
  rw [if_pos (by decide)] at paged
  obtain ⟨address, answered, seen, _⟩ := paged
  exact ⟨reachable, canSleep, by decide +kernel, address, answered, seen⟩

/-- A request that the stealer serves from above the direct map panics. -/
theorem kernelPages_above_directMap :
    let layout : RamLayout := ⟨.ofNat 0x20000000, .ofNat 0x20002000⟩
    let machine : Machine (FrameSupply NoEviction) :=
      Machine.initial (.ofLayout layout) ⟨.directMap, .empty⟩
    Reachable layout machine ∧ CanSleep (some machine.context) ∧
      ((allocPages 1).run machine).result = .panic .outsideDirectMap :=
  ⟨.start rfl, by decide, by decide +kernel⟩

end Machine

end PagedMemory
