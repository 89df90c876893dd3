import PagedMemory.Proofs.Machine.KernelPages

/-!
# A machine without a coremap

Before there is a coremap nothing can be done with spaces: whatever is asked for is
refused and has no effect. Kernel pages are stolen off the front of RAM, and giving
them back has no effect either.
-/

namespace PagedMemory

open Operation

/-- Whether what is asked for is about kernel pages and not about spaces. -/
def Request.isForKernel : Request → Bool
  | allocPages _ | freePages _ => true
  | _ => false

namespace Machine

variable {ε α : Type} {machine : Machine (FrameSupply NoEviction)} {left : Nat}
  {address : VirtAddr}

theorem ends_sourced_of_missing (missing : machine.memory.frames.coremap = none)
    {op : FrameSource (Coremap NoEviction) →
      Operation SpaceError (Machine (Coremap NoEviction)) α}
    {post : Post VmError (Machine (FrameSupply NoEviction)) α} :
    (sourced op).Ends left machine post ↔ post.error .notBootstrapped machine left := by
  refine ends_bind.trans (ends_read.trans ?_)
  rcases machine with ⟨⟨⟨stealer, coremap⟩, ram, nextSpace⟩, spaces, interrupts, firstTlb,
    secondTlb, context⟩
  obtain rfl : coremap = none := missing
  simp [Ends, Operation.run, withCoremap, Outcome.Meets]

/-- What is asked for is refused and has no effect. -/
def refusing (machine : Machine (FrameSupply NoEviction)) :
    Post VmError (Machine (FrameSupply NoEviction)) α where
  value _ _ _ := False
  error e machine' _ := machine' = machine ∧ e = .notBootstrapped
  panic _ machine' := machine' = machine

/-- Nothing is done for spaces. -/
theorem ends_perform_of_missing (missing : machine.memory.frames.coremap = none)
    (empty : machine.spaces = []) {request : Request} (forSpaces : request.isForKernel = false) :
    request.perform.Ends left machine machine.refusing := by
  have unknown (id : SpaceId) : machine.space? id = none := by
    rw [space?, empty]
    rfl
  have refused {α : Type} {op : FrameSource (Coremap NoEviction) →
      Operation SpaceError (Machine (Coremap NoEviction)) α}
      {next : α → Operation VmError (Machine (FrameSupply NoEviction)) (Option VirtAddr)} :
      (sourced op >>= next).Ends left machine machine.refusing :=
    ends_bind.mpr ((ends_sourced_of_missing missing).mpr ⟨rfl, rfl⟩)
  cases request with
  | create | prepareLoad | walk | materialize | copy | destroy => exact refused
  | define id address size flags =>
    refine ends_bind.mpr (ends_mapError.mpr (ends_build (fun _ _ => rfl) ?_))
    exact fun space found => absurd found (by simp [unknown id])
  | writeBytes id address values =>
    refine ends_bind.mpr (ends_writeBytes (fun _ => rfl) ?_ ?_)
    · exact fun space found => absurd found (by simp [unknown id])
    · exact fun space frame found => absurd found (by simp [unknown id])
  | allocPages | freePages => cases forSpaces

theorem isBootstrapped_of_missing (missing : machine.memory.frames.coremap = none) :
    machine.memory.frames.isBootstrapped = false := by
  rw [FrameSupply.isBootstrapped, missing]
  rfl

/-- Kernel pages are stolen. All of them can be seen by the kernel if RAM ends in the direct
map. -/
theorem ends_allocPages_of_missing (missing : machine.memory.frames.coremap = none)
    (visible : machine.memory.frames.stealer.remaining.lastAddr.toNat ≤ Layout.directMapSize)
    {pages : Nat} :
    (allocPages pages).Ends left machine
      ⟨fun address machine' _ => ∃ frame stop,
          machine.memory.frames.stealer.remaining.Grants pages frame stop ∧
          address.ofKernel = some frame.base ∧
          machine' = { machine with
            memory := { machine.memory with
              frames := { machine.memory.frames with
                stealer := ⟨{ machine.memory.frames.stealer.remaining with
                  firstFree := stop }⟩ } } },
        fun _ machine' _ => machine' = machine, fun _ _ => False⟩ := by
  refine ends_bind.mpr (ends_read.mpr (ends_onMemory.mpr (Memory.ends_onFrames.mpr ?_)))
  refine ends_bind.mpr (ends_read.mpr ?_)
  simp only [isBootstrapped_of_missing missing, Bool.false_eq_true, if_false]
  refine FrameSupply.ends_steal.bind ?_ ?_ ?_
  · rintro frame _ _ ⟨stop, grants, _, rfl⟩
    refine ends_ofExcept.mpr ?_
    rcases seen : frame.base.toKernel with cause | address
    · have high := (Address.le_of_toKernel seen).1
      have positive := grants.positive
      have stops := grants.stops
      have within := grants.within
      omega
    · exact ⟨frame, stop, grants, Address.toKernel_eq_ok_iff.mp seen, rfl⟩
  · rintro e _ _ ⟨_, rfl⟩
    rfl
  · exact fun _ _ => False.elim

/-- Kernel pages that are given back are kept. -/
theorem ends_freePages_of_missing (missing : machine.memory.frames.coremap = none)
    {frame : Frame} (seen : address.ofKernel = some frame.base)
    {post : Post VmError (Machine (FrameSupply NoEviction)) Unit} :
    (freePages address).Ends left machine post ↔ post.value () machine left := by
  refine ends_bind.trans (ends_read.trans (ends_onMemory.trans (Memory.ends_onFrames.trans ?_)))
  unfold FrameSupply.freePages
  rw [seen]
  refine ends_bind.trans (ends_require.trans ?_)
  rw [if_pos Page.isPageAligned_base]
  refine ends_bind.trans (ends_read.trans ?_)
  simp only [isBootstrapped_of_missing missing, Bool.false_eq_true, if_false]
  exact ends_log

end Machine

end PagedMemory
