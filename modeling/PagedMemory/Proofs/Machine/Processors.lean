import PagedMemory.Proofs.Machine.Steps
import PagedMemory.Proofs.Tlb.Slots

/-!
# Processors of a machine

Making a space current and resolving a miss are work on one processor. The memory
and the spaces stay as they are, and so do the interrupts. A space that lives can be
made current, which forgets every mapping. A miss of a thread that runs in a space is
resolved from the segments of that space.
-/

namespace PagedMemory

namespace Machine

open Operation

variable {ε σ α : Type} {machine : Machine σ} {cpu : CpuName} {left : Nat} {space : AddressSpace}
  {address : VirtAddr}

/-- The machine with another lookaside buffer in a processor. -/
def withTlb (machine : Machine σ) (cpu : CpuName) (tlb : Tlb) : Machine σ :=
  match cpu with
  | .first => { machine with firstTlb := tlb }
  | .second => { machine with secondTlb := tlb }

@[simp]
theorem memory_withTlb {tlb : Tlb} : (machine.withTlb cpu tlb).memory = machine.memory := by
  cases cpu <;> rfl

@[simp]
theorem spaces_withTlb {tlb : Tlb} : (machine.withTlb cpu tlb).spaces = machine.spaces := by
  cases cpu <;> rfl

@[simp]
theorem tlb_withTlb {tlb : Tlb} : (machine.withTlb cpu tlb).tlb cpu = tlb := by
  cases cpu <;> rfl

@[simp]
theorem withTlb_self : machine.withTlb cpu (machine.tlb cpu) = machine := by
  cases cpu <;> rfl

/-- Work on a processor that leaves the interrupts alone changes its lookaside buffer
only. -/
theorem ends_onCpu {op : Operation ε Cpu α} {post : Post ε (Machine σ) α}
    (ends : op.Ends left ⟨machine.interrupts, machine.tlb cpu⟩
      ⟨fun a part left => part.interrupts = machine.interrupts ∧
          post.value a (machine.withTlb cpu part.tlb) left,
        fun e part left => part.interrupts = machine.interrupts ∧
          post.error e (machine.withTlb cpu part.tlb) left,
        fun cause part => part.interrupts = machine.interrupts ∧
          post.panic cause (machine.withTlb cpu part.tlb)⟩) :
    (onCpu cpu op).Ends left machine post := by
  unfold Ends Operation.run at ends ⊢
  unfold onCpu
  cases cpu <;>
    · rcases ran : op ⟨machine.interrupts, _⟩ with ⟨_ | _ | _, ⟨interrupts, tlb⟩, shown⟩ <;>
        rw [ran] at ends <;>
        · intro few
          obtain ⟨rfl, holds⟩ := ends few
          exact holds

/-- A space that lives is made current, and nothing is left in the lookaside buffer. -/
theorem ends_activate (distinct : Distinct machine.spaces) (inList : space ∈ machine.spaces)
    (few : (machine.tlb cpu).slots.size ≤ 0x80000) :
    (activate space.id cpu : Operation ε (Machine σ) Unit).Ends left machine
      ⟨fun _ machine' _ =>
          machine' = machine.withTlb cpu (.idle (machine.tlb cpu).slots.size),
        fun _ _ _ => False, fun _ _ => False⟩ := by
  refine ends_bind.mpr ((ends_findSpace_of_mem distinct inList).mpr (ends_onCpu ?_))
  apply Cpu.ends_flush
  · exact few
  · exact ⟨rfl, rfl⟩

/-- What is said of the end of a miss of a thread that is known as `context`: resolved, it
puts the page and the frame that the segments give for it into a slot that the buffer
offers, and else nothing changes. -/
def resolving (machine : Machine σ) (cpu : CpuName) (context : FaultContext) (code : Nat)
    (address : VirtAddr) : Post FaultError (Machine σ) Frame where
  value frame machine' _ := ∃ segments target slot old, context.segments = some segments ∧
    segments.translate address.page.base = .ok (some target) ∧ frame = target.page ∧
    (machine.tlb cpu).Offers address.page slot old ∧
    machine' = machine.withTlb cpu ((machine.tlb cpu).set slot (.mapping address.page frame))
  error e machine' _ :=
    machine' = machine ∧ Cpu.Refuses context code address (machine.tlb cpu) e
  panic _ machine' := machine' = machine ∧ (FaultKind.ofCode? code = some .readOnly ∨
    ∃ segments cause, context.segments = some segments ∧
      segments.translate address.page.base = .error cause)

variable {hasProcess : Bool} {code : Nat}

theorem ends_onCpu_handleFault {context : FaultContext} :
    (onCpu cpu (Cpu.handleFault context code address)).Ends left machine
      (machine.resolving cpu context code address) := by
  refine ends_onCpu (Cpu.ends_handleFault.mono ?_ ?_ ?_)
  · rintro frame _ _ ⟨segments, target, slot, old, present, translated, isFrame, offers, rfl⟩
    exact ⟨rfl, segments, target, slot, old, present, translated, isFrame, offers, rfl⟩
  · rintro _ _ _ ⟨rfl, refuses⟩
    exact ⟨rfl, withTlb_self, refuses⟩
  · rintro _ _ ⟨rfl, broken⟩
    exact ⟨rfl, withTlb_self, broken⟩

theorem ends_handleFault_none :
    (handleFault cpu hasProcess none code address).Ends left machine
      (machine.resolving cpu ⟨hasProcess, none⟩ code address) :=
  ends_bind.mpr (ends_pure.mpr ends_onCpu_handleFault)

theorem ends_handleFault_of_mem (distinct : Distinct machine.spaces)
    (inList : space ∈ machine.spaces) :
    (handleFault cpu hasProcess (some space.id) code address).Ends left machine
      (machine.resolving cpu ⟨hasProcess, some space.segments⟩ code address) := by
  refine ends_bind.mpr (ends_bind.mpr ((ends_findSpace_of_mem distinct inList).mpr ?_))
  exact ends_pure.mpr ends_onCpu_handleFault

end Machine

end PagedMemory
