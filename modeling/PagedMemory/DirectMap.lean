import PagedMemory.Layout
import PagedMemory.Panic

/-!
# The direct map

The first 512 MiB of physical memory are always visible to the kernel, each
byte at a fixed distance above its physical address. Wherever both directions
are defined they undo each other.
-/

namespace PagedMemory

/-- Where the kernel sees a physical address. -/
def Address.toKernel (address : PhysAddr) : Except Panic VirtAddr :=
  if address.toNat < Layout.directMapSize then .ok (.ofNat (Layout.directMapBase + address.toNat))
  else .error .outsideDirectMap

/-- The physical address that the kernel sees at `address`; `none` outside the
direct map. -/
def Address.ofKernel (address : VirtAddr) : Option PhysAddr :=
  if Layout.directMapBase ≤ address.toNat ∧
      address.toNat - Layout.directMapBase < Layout.directMapSize then
    some (.ofNat (address.toNat - Layout.directMapBase))
  else none

theorem Address.toKernel_eq_ok_iff {physical : PhysAddr} {kernel : VirtAddr} :
    physical.toKernel = .ok kernel ↔ kernel.ofKernel = some physical := by
  have physicalLt := physical.lt
  have kernelLt := kernel.lt
  simp only [toKernel, ofKernel, Layout.directMapBase, Layout.directMapSize]
  by_cases low : physical.toNat < 0x20000000
  · rw [if_pos low, Except.ok.injEq]
    constructor
    · rintro rfl
      rw [if_pos (by simp only [ofNat]; omega)]
      refine congrArg some (Address.ext ?_)
      simp only [ofNat]
      omega
    · intro found
      by_cases shown : 0x80000000 ≤ kernel.toNat ∧ kernel.toNat - 0x80000000 < 0x20000000
      · rw [if_pos shown, Option.some.injEq] at found
        have distance := congrArg Address.toNat found
        ext
        simp only [ofNat] at distance ⊢
        omega
      · rw [if_neg shown] at found
        cases found
  · rw [if_neg low]
    constructor
    · intro equal
      cases equal
    · intro found
      by_cases shown : 0x80000000 ≤ kernel.toNat ∧ kernel.toNat - 0x80000000 < 0x20000000
      · rw [if_pos shown, Option.some.injEq] at found
        have distance := congrArg Address.toNat found
        simp only [ofNat] at distance
        omega
      · rw [if_neg shown] at found
        cases found

/-- What the kernel sees lies in the direct map. -/
theorem Address.lt_of_ofKernel {physical : PhysAddr} {kernel : VirtAddr}
    (seen : kernel.ofKernel = some physical) : physical.toNat < Layout.directMapSize := by
  have shown := toKernel_eq_ok_iff.mpr seen
  unfold toKernel at shown
  split at shown
  · assumption
  · cases shown

/-- What the kernel does not see lies above the direct map. -/
theorem Address.le_of_toKernel {physical : PhysAddr} {cause : Panic}
    (refused : physical.toKernel = .error cause) :
    Layout.directMapSize ≤ physical.toNat ∧ cause = .outsideDirectMap := by
  unfold toKernel at refused
  split at refused
  · cases refused
  · cases refused
    exact ⟨Nat.le_of_not_lt ‹_›, rfl⟩

end PagedMemory
