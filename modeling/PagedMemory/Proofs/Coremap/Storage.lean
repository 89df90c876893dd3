import Mathlib.Order.Bounds.Defs
import PagedMemory.Coremap.Storage
import PagedMemory.Proofs.Coremap.Sound
import PagedMemory.Proofs.Ram.Frames
import PagedMemory.Proofs.Stealer

/-!
# What is reserved at boot

The descriptors describe the RAM that they are kept in, so their number settles how much of
it they take and with that how much is left. Over unbounded numbers, the reserved frames are
those below the first page boundary past the kernel and those that hold a byte of a
descriptor. A bootstrap refuses exactly the layouts where that boundary has no address or no
frame is left, and it writes descriptors into reserved frames only.
-/

namespace PagedMemory

/-! ## The numbers of a layout -/

namespace RamLayout

/-- How many pages the descriptors of all frames take. -/
def arrayPages (layout : RamLayout) : Nat :=
  Reservation.descriptorSize * layout.frameCount ⌈/⌉ 4096

/-- No page boundary follows what is occupied, or no frame is left past the descriptors. -/
def TooSmall (layout : RamLayout) : Prop :=
  0x100000000 ≤ layout.frontPage * 4096 ∨ layout.frameCount ≤ layout.frontPage + layout.arrayPages

instance (layout : RamLayout) : Decidable layout.TooSmall :=
  inferInstanceAs (Decidable (_ ∨ _))

variable {layout : RamLayout} {reservation : Reservation}

/-- There is a reservation exactly if a page boundary follows what is occupied, and it
begins there. -/
theorem reservation?_eq_some_iff :
    layout.reservation? = some reservation ↔
      reservation.frameCount = layout.frameCount ∧
        reservation.storage.toNat = layout.frontPage * 4096 := by
  simp only [reservation?, Option.map_eq_some_iff, alignUp_firstFree_eq_some_iff]
  constructor
  · rintro ⟨_, begins, rfl⟩
    exact ⟨rfl, begins⟩
  · rintro ⟨count, begins⟩
    refine ⟨_, begins, ?_⟩
    rw [← count]

theorem reservation?_eq_none_iff :
    layout.reservation? = none ↔ 0x100000000 ≤ layout.frontPage * 4096 := by
  constructor
  · intro missing
    by_contra fits
    have found : layout.reservation? = some ⟨layout.frameCount, ⟨_, Nat.lt_of_not_le fits⟩⟩ :=
      reservation?_eq_some_iff.mpr ⟨rfl, rfl⟩
    rw [missing] at found
    cases found
  · intro past
    cases found : layout.reservation? with
    | none => rfl
    | some reservation =>
      have begins := (reservation?_eq_some_iff.mp found).2
      have := reservation.storage.lt
      omega

theorem firstAllocatable_of_reservation? (found : layout.reservation? = some reservation) :
    reservation.firstAllocatable = layout.frontPage + layout.arrayPages := by
  obtain ⟨count, begins⟩ := reservation?_eq_some_iff.mp found
  have front : reservation.storage.page.number = layout.frontPage := by
    simp only [Address.page, begins]
    omega
  rw [Reservation.firstAllocatable, front, Reservation.storagePages, count, arrayPages,
    Nat.ceilDiv_eq_add_pred_div, Nat.mul_comm layout.frameCount]
  rfl

/-- With a reservation, the layout is too small exactly if the reservation leaves no
frame. -/
theorem tooSmall_iff_of_reservation? (found : layout.reservation? = some reservation) :
    layout.TooSmall ↔ reservation.leavesRoom = false := by
  have addressed : ¬ 0x100000000 ≤ layout.frontPage * 4096 := fun past => by
    rw [reservation?_eq_none_iff.mpr past] at found
    cases found
  rw [TooSmall, or_iff_right addressed, Bool.eq_false_iff, Ne, Reservation.leavesRoom_iff,
    firstAllocatable_of_reservation? found, (reservation?_eq_some_iff.mp found).1, Nat.not_lt]

end RamLayout

/-! ## The bytes of the descriptors -/

namespace Reservation

/-- The addresses at which descriptors are kept. -/
def storedBytes (reservation : Reservation) : Set Nat :=
  {a | ∃ i, i < reservation.frameCount ∧
    reservation.descriptorAddr i ≤ a ∧ a < reservation.descriptorAddr i + descriptorSize}

/-- The numbers that a bootstrap computes fit the words of the machine, and what is left is
named by a frame. -/
structure Fits (reservation : Reservation) : Prop where
  bytes : reservation.frameCount * descriptorSize + 4095 < 0x100000000
  pages : reservation.firstAllocatable < 0x100000000
  frame : reservation.leavesRoom = true → reservation.firstAllocatable < 0x100000
  stop : reservation.leavesRoom = true →
    reservation.descriptorAddr reservation.frameCount < 0x100000000

variable {reservation : Reservation}

/-- The descriptors lie one after another, without gaps. -/
theorem mem_storedBytes_iff {a : Nat} :
    a ∈ reservation.storedBytes ↔
      reservation.storage.toNat ≤ a ∧ a < reservation.descriptorAddr reservation.frameCount := by
  simp only [storedBytes, Set.mem_ofPred_eq, descriptorAddr, descriptorSize]
  constructor
  · rintro ⟨i, low, begins, ends⟩
    omega
  · rintro ⟨begins, ends⟩
    exact ⟨(a - reservation.storage.toNat) / 40, by omega, by omega, by omega⟩

/-- The descriptors fill the pages reserved for them, the last one perhaps in part. -/
theorem exists_storedBytes_iff {i : Nat} (aligned : reservation.storage.toNat % 4096 = 0) :
    (∃ a ∈ reservation.storedBytes, a / 4096 = i) ↔
      reservation.storage.page.number ≤ i ∧ i < reservation.firstAllocatable := by
  simp only [mem_storedBytes_iff, firstAllocatable, storagePages, descriptorAddr, descriptorSize,
    Address.page]
  constructor
  · rintro ⟨a, ⟨begins, ends⟩, rfl⟩
    omega
  · rintro ⟨above, below⟩
    exact ⟨i * 4096, ⟨by omega, by omega⟩, by omega⟩

/-- The pages of the descriptors end before the last frame, so the descriptors themselves do. -/
theorem descriptorAddr_frameCount_le (room : reservation.leavesRoom = true) :
    reservation.descriptorAddr reservation.frameCount ≤ reservation.frameCount * 4096 := by
  have left := leavesRoom_iff.mp room
  simp only [firstAllocatable, storagePages, descriptorSize, Address.page] at left
  simp only [descriptorAddr, descriptorSize]
  omega

end Reservation

theorem RamLayout.fits_of_reservation? {layout : RamLayout} {reservation : Reservation}
    (found : layout.reservation? = some reservation) : reservation.Fits := by
  have count := (reservation?_eq_some_iff.mp found).1 ▸ Coremap.frameCount_lt layout
  have low := reservation.storage.lt
  constructor
  case bytes =>
    simp only [Reservation.descriptorSize]
    omega
  case pages =>
    simp only [Reservation.firstAllocatable, Reservation.storagePages, Reservation.descriptorSize,
      Address.page]
    omega
  case frame =>
    intro room
    have left := Reservation.leavesRoom_iff.mp room
    omega
  case stop =>
    intro room
    have past := Reservation.descriptorAddr_frameCount_le room
    omega

/-! ## Writing the descriptors -/

namespace Reservation

variable {reservation : Reservation} {encoding : Encoding}

@[simp]
theorem size_store (i : Nat) (descriptors : List Descriptor) (ram : Ram) :
    (reservation.store encoding i descriptors ram).size = ram.size := by
  induction descriptors generalizing i ram with
  | nil => rfl
  | cons descriptor rest ih => rw [store, ih, Ram.size_splice]

@[simp]
theorem window_store (i : Nat) (descriptors : List Descriptor) (ram : Ram) :
    (reservation.store encoding i descriptors ram).window = ram.window := by
  induction descriptors generalizing i ram with
  | nil => rfl
  | cons descriptor rest ih => rw [store, ih, Ram.window_splice]

theorem descriptorAddr_add (i k : Nat) :
    reservation.descriptorAddr (i + k) = reservation.descriptorAddr i + 40 * k := by
  simp only [descriptorAddr, descriptorSize]
  omega

/-- Writing descriptors leaves all other bytes alone. -/
theorem byte_store_of_outside {i a : Nat} {descriptors : List Descriptor} (ram : Ram)
    (outside : a < reservation.descriptorAddr i ∨
      reservation.descriptorAddr (i + descriptors.length) ≤ a) :
    (reservation.store encoding i descriptors ram).byte a = ram.byte a := by
  induction descriptors generalizing i ram with
  | nil => rfl
  | cons descriptor rest ih =>
    have next := reservation.descriptorAddr_add i 1
    have last := reservation.descriptorAddr_add i (rest.length + 1)
    rw [List.length_cons] at outside
    rw [store, ih _ (by rw [show i + 1 + rest.length = i + (rest.length + 1) by omega]; omega)]
    refine Ram.byte_splice_of_outside ram _ ?_
    rw [encoding.length_bytes, descriptorSize]
    omega

/-- Every descriptor that was written is found at its place. -/
theorem slice_store (encoding : Encoding) {i k : Nat} {descriptors : List Descriptor}
    {descriptor : Descriptor} (ram : Ram) (listed : descriptors[k]? = some descriptor)
    (within : reservation.descriptorAddr (i + descriptors.length) ≤ ram.size) :
    (reservation.store encoding i descriptors ram).slice (reservation.descriptorAddr (i + k))
      descriptorSize = encoding.bytes descriptor := by
  induction descriptors generalizing i k ram with
  | nil => simp at listed
  | cons first rest ih =>
    have next := reservation.descriptorAddr_add i 1
    have last := reservation.descriptorAddr_add i (rest.length + 1)
    rw [List.length_cons] at within
    cases k with
    | zero =>
      cases listed
      have length : (encoding.bytes descriptor).length = 40 := encoding.length_bytes descriptor
      simp only [store, Nat.add_zero, descriptorSize]
      rw [← length]
      refine Ram.slice_eq_of_byte fun j small => ?_
      rw [byte_store_of_outside _ (by omega)]
      exact Ram.byte_splice _ _ small (by omega)
    | succ k =>
      rw [List.getElem?_cons_succ] at listed
      rw [store, show i + (k + 1) = i + 1 + k by omega]
      refine ih _ listed ?_
      rw [Ram.size_splice, show i + 1 + rest.length = i + (rest.length + 1) by omega]
      exact within

end Reservation

namespace Coremap

variable {π : Type} {encoding : Encoding} {layout : RamLayout} {policy : π} {ram : Ram}
  {reservation : Reservation}

/-! ## What a bootstrap answers -/

theorem run_bootstrap_of_tooSmall (policy : π) (ram : Ram)
    (aligned : layout.lastAddr.isPageAligned = true) (small : layout.TooSmall) :
    ((bootstrap layout policy).run ram).result = .error ⟨layout.frameCount⟩ ∧
      ((bootstrap layout policy).run ram).state = ram := by
  unfold bootstrap
  rw [Operation.run_require_bind, if_pos aligned]
  dsimp only
  cases found : layout.reservation? with
  | none => exact ⟨rfl, rfl⟩
  | some reservation =>
    have full := (RamLayout.tooSmall_iff_of_reservation? found).mp small
    simp only [full, Bool.false_eq_true, if_false]
    rw [Operation.run_bind_of_value (Operation.run_log _ _ _)]
    exact ⟨rfl, rfl⟩

theorem run_bootstrap_of_room (policy : π) (aligned : layout.lastAddr.isPageAligned = true)
    (found : layout.reservation? = some reservation) (room : reservation.leavesRoom = true)
    (admits : ram.Admits layout.frameCount) :
    ((bootstrap layout policy).run ram).result = .value (initial reservation policy) ∧
      ((bootstrap layout policy).run ram).state = ram := by
  obtain ⟨count, begins⟩ := RamLayout.reservation?_eq_some_iff.mp found
  have left : reservation.firstAllocatable < layout.frameCount :=
    count ▸ Reservation.leavesRoom_iff.mp room
  have checked : ram.check reservation.storage Reservation.descriptorSize = .ok () := by
    refine Ram.check_of_admitted (admits _ ?_) ?_
    · exact Nat.lt_of_le_of_lt (Nat.le_add_right _ _) left
    · simp only [Address.offset, Reservation.descriptorSize]
      omega
  have allowed : (Ram.allow reservation.storage Reservation.descriptorSize :
      Operation CoremapTooLarge Ram Unit).run ram = ⟨.value (), ram, []⟩ := by
    unfold Operation.run Ram.allow
    rw [checked]
  unfold bootstrap
  rw [Operation.run_require_bind, if_pos aligned]
  simp only [found, room, if_true]
  rw [Operation.run_bind_of_value allowed, Operation.run_bind_of_value (Operation.run_log _ _ _)]
  exact ⟨rfl, rfl⟩

/-- Writing the descriptors changes neither what a bootstrap answers nor what it shows. -/
theorem bootstrapStoring_answers :
    ((bootstrapStoring encoding layout policy).run ram).result =
        ((bootstrap layout policy).run ram).result ∧
      ((bootstrapStoring encoding layout policy).run ram).events =
        ((bootstrap layout policy).run ram).events := by
  unfold bootstrapStoring
  rcases ended : (bootstrap layout policy).run ram with ⟨coremap | e | cause, reached, shown⟩
  · rw [Operation.run_bind_of_value ended, Operation.run_change_bind]
    exact ⟨rfl, List.append_nil shown⟩
  · rw [Operation.run_bind_of_error ended]
    exact ⟨rfl, rfl⟩
  · rw [Operation.run_bind_of_panic ended]
    exact ⟨rfl, rfl⟩

theorem state_bootstrapStoring_of_error {e : CoremapTooLarge}
    (refused : ((bootstrap layout policy).run ram).result = .error e) :
    ((bootstrapStoring encoding layout policy).run ram).state =
      ((bootstrap layout policy).run ram).state := by
  unfold bootstrapStoring
  rw [Operation.run_bind_of_error (Operation.run_eq_of_result_of_state refused rfl)]

theorem state_bootstrapStoring_of_value {coremap : Coremap π}
    (built : ((bootstrap layout policy).run ram).result = .value coremap) :
    ((bootstrapStoring encoding layout policy).run ram).state =
      coremap.reservation.store encoding 0 coremap.frames.toList
        ((bootstrap layout policy).run ram).state := by
  unfold bootstrapStoring
  rw [Operation.run_bind_of_value (Operation.run_eq_of_result_of_state built rfl),
    Operation.run_change_bind]
  rfl

/-! ## What a bootstrap reserves -/

/-- A coremap was built for a layout, and its descriptors were written into RAM. -/
structure Reserves (encoding : Encoding) (layout : RamLayout) (before after : Ram)
    (coremap : Coremap π) : Prop where
  /-- The descriptors of all frames begin at the front of what is not occupied. -/
  array : coremap.reservation.frameCount = layout.frameCount ∧
    coremap.reservation.storage.toNat = layout.frontPage * 4096
  fits : coremap.reservation.Fits
  within : ∀ a ∈ coremap.reservation.storedBytes,
    layout.firstFree.toNat ≤ a ∧ a < layout.lastAddr.toNat
  covered : ∀ a ∈ coremap.reservation.storedBytes, coremap.frames[a / 4096]? = some .fixed
  /-- Every descriptor can be read where it is kept. -/
  stored : ∀ i descriptor, coremap.frames[i]? = some descriptor →
    after.slice (coremap.reservation.descriptorAddr i) Reservation.descriptorSize =
      encoding.bytes descriptor
  untouched : ∀ a, a ∉ coremap.reservation.storedBytes → after.byte a = before.byte a
  occupied : ∀ a, a < layout.firstFree.toNat → after.byte a = before.byte a
  size : after.size = before.size
  described : coremap.frames.size = layout.frameCount
  /-- What is reserved is occupied, or it holds descriptors. -/
  fixed_iff : ∀ i, coremap.frames[i]? = some .fixed ↔
    i < layout.frontPage ∨ ∃ a ∈ coremap.reservation.storedBytes, a / 4096 = i
  /-- All else is free. -/
  free_iff : ∀ i, coremap.frames[i]? = some .free ↔
    i < layout.frameCount ∧ coremap.frames[i]? ≠ some .fixed
  /-- The cursor is the first frame past all that are reserved. -/
  cursor : IsLeast {i | ∀ j, coremap.frames[j]? = some .fixed → j < i} coremap.cursor
  free : coremap.frames[coremap.cursor]? = some .free

theorem free_initial_iff {i : Nat} :
    (initial reservation policy).frames[i]? = some .free ↔
      i < reservation.frameCount ∧ reservation.firstAllocatable ≤ i := by
  rw [getElem?_initial]
  by_cases low : i < reservation.firstAllocatable
  · by_cases inRam : i < reservation.frameCount <;> simp [low, inRam]
  · by_cases inRam : i < reservation.frameCount <;> simp [low, inRam, Nat.le_of_not_lt]

theorem length_initial (reservation : Reservation) (policy : π) :
    (initial reservation policy).frames.toList.length = reservation.frameCount := by
  simp [initial]

/-- Right after boot the reserved frames are those that were occupied and those that hold
descriptors. -/
theorem fixed_initial_iff_of_reservation? (found : layout.reservation? = some reservation)
    (room : reservation.leavesRoom = true) {i : Nat} :
    (initial reservation policy).frames[i]? = some .fixed ↔
      i < layout.frontPage ∨ ∃ a ∈ reservation.storedBytes, a / 4096 = i := by
  obtain ⟨count, begins⟩ := RamLayout.reservation?_eq_some_iff.mp found
  have few : reservation.frameCount ≤ 0x100000 := count ▸ Nat.le_of_lt (frameCount_lt layout)
  have front : reservation.storage.page.number = layout.frontPage := by
    simp only [Address.page, begins]
    omega
  rw [(sound_initial policy room few).tiled.fixed_iff,
    Reservation.exists_storedBytes_iff (by omega), front]
  change i < reservation.firstAllocatable ↔ _
  rw [Reservation.firstAllocatable, front]
  omega

/-- Writing the descriptors of all frames changes no byte but those that hold them. -/
theorem byte_store_initial (encoding : Encoding) (policy : π) (ram : Ram) {a : Nat}
    (outside : a ∉ reservation.storedBytes) :
    (reservation.store encoding 0 (initial reservation policy).frames.toList ram).byte a =
      ram.byte a := by
  rw [Reservation.mem_storedBytes_iff, not_and_or, Nat.not_le, Nat.not_lt] at outside
  refine Reservation.byte_store_of_outside ram ?_
  rwa [Nat.zero_add, length_initial]

/-- The descriptors of a layout with room are written into what is reserved. -/
theorem reserves_store (found : layout.reservation? = some reservation)
    (room : reservation.leavesRoom = true) (covers : layout.lastAddr.toNat ≤ ram.size) :
    Reserves encoding layout ram
      (reservation.store encoding 0 (initial reservation policy).frames.toList ram)
      (initial reservation policy) := by
  obtain ⟨count, begins⟩ := RamLayout.reservation?_eq_some_iff.mp found
  have left := Reservation.leavesRoom_iff.mp room
  have reserved : ∀ i, (initial reservation policy).frames[i]? = some .fixed ↔
      i < reservation.firstAllocatable :=
    (sound_initial policy room (count ▸ Nat.le_of_lt (frameCount_lt layout))).tiled.fixed_iff
  have above : layout.firstFree.toNat ≤ reservation.storage.toNat :=
    (Address.alignUp_eq_some_iff.mp (RamLayout.alignUp_firstFree_eq_some_iff.mpr begins)).2.1
  have stop : reservation.descriptorAddr reservation.frameCount ≤ layout.lastAddr.toNat :=
    calc reservation.descriptorAddr reservation.frameCount
      _ ≤ reservation.frameCount * 4096 := Reservation.descriptorAddr_frameCount_le room
      _ ≤ layout.lastAddr.toNat := count ▸ Nat.div_mul_le_self _ _
  constructor
  case array => exact ⟨count, begins⟩
  case fits => exact RamLayout.fits_of_reservation? found
  case within =>
    intro a kept
    obtain ⟨begins, ends⟩ := Reservation.mem_storedBytes_iff.mp kept
    exact ⟨Nat.le_trans above begins, Nat.lt_of_lt_of_le ends stop⟩
  case covered =>
    exact fun a kept => (fixed_initial_iff_of_reservation? found room).mpr (.inr ⟨a, kept, rfl⟩)
  case stored =>
    intro i descriptor recorded
    have listed : (initial reservation policy).frames.toList[i]? = some descriptor :=
      Array.getElem?_toList.trans recorded
    have inRam : reservation.descriptorAddr
        (0 + (initial reservation policy).frames.toList.length) ≤ ram.size := by
      rw [Nat.zero_add, length_initial]
      exact Nat.le_trans stop covers
    have slice := Reservation.slice_store encoding ram listed inRam
    rwa [Nat.zero_add] at slice
  case untouched => exact fun _ => byte_store_initial encoding policy ram
  case occupied =>
    intro a low
    refine byte_store_initial encoding policy ram fun kept => ?_
    have begins := (Reservation.mem_storedBytes_iff.mp kept).1
    omega
  case size => exact Reservation.size_store _ _ _
  case described => simp [initial, count]
  case fixed_iff => exact fun _ => fixed_initial_iff_of_reservation? found room
  case free_iff =>
    intro i
    rw [Ne, reserved, free_initial_iff, count, Nat.not_lt]
  case cursor =>
    refine ⟨fun j => (reserved j).mp, fun i past => ?_⟩
    change reservation.firstAllocatable ≤ i
    by_contra low
    exact Nat.lt_irrefl i (past i ((reserved i).mpr (by omega)))
  case free => exact free_initial_iff.mpr ⟨left, Nat.le_refl _⟩

/-- In RAM that covers a layout with an aligned end, a bootstrap never panics. It reports an
error exactly for a layout that is too small, and then it writes nothing; for any other it
builds a coremap that reserves what it overwrites and what was occupied, and nothing more. -/
theorem bootstrapStoring_reserves (encoding : Encoding) (layout : RamLayout) (policy : π)
    (ram : Ram) (aligned : layout.lastAddr.isPageAligned = true)
    (covers : layout.lastAddr.toNat ≤ ram.size) (admits : ram.Admits layout.frameCount) :
    let outcome := (bootstrapStoring encoding layout policy).run ram
    outcome.result = ((bootstrap layout policy).run ram).result ∧
      (∀ reservation, layout.reservation? = some reservation → reservation.Fits) ∧
      (outcome.result = .error ⟨layout.frameCount⟩ ↔ layout.TooSmall) ∧
      (layout.TooSmall → outcome.state = ram) ∧
      (¬ layout.TooSmall → ∃ coremap, outcome.result = .value coremap ∧
        Reserves encoding layout ram outcome.state coremap) := by
  intro outcome
  have answers : outcome.result = ((bootstrap layout policy).run ram).result :=
    bootstrapStoring_answers.1
  refine ⟨answers, fun _ => RamLayout.fits_of_reservation?, ?_⟩
  by_cases small : layout.TooSmall
  · obtain ⟨refused, same⟩ := run_bootstrap_of_tooSmall policy ram aligned small
    refine ⟨iff_of_true (answers.trans refused) small, fun _ => ?_, fun other => (other small).elim⟩
    exact (state_bootstrapStoring_of_error refused).trans same
  · rcases found : layout.reservation? with _ | reservation
    · have past := RamLayout.reservation?_eq_none_iff.mp found
      exact absurd (Or.inl past) small
    · have room : reservation.leavesRoom = true :=
        Bool.of_not_eq_false fun full =>
          small ((RamLayout.tooSmall_iff_of_reservation? found).mpr full)
      obtain ⟨built, same⟩ := run_bootstrap_of_room policy aligned found room admits
      have value : outcome.result = .value (initial reservation policy) := answers.trans built
      have returned : outcome.result ≠ .error ⟨layout.frameCount⟩ := fun refused => by
        rw [value] at refused
        cases refused
      refine ⟨iff_of_false returned small, fun other => (small other).elim,
        fun _ => ⟨_, value, ?_⟩⟩
      have state : outcome.state =
          reservation.store encoding 0 (initial reservation policy).frames.toList ram := by
        rw [← same]
        exact state_bootstrapStoring_of_value built
      rw [state]
      exact reserves_store found room covers

/-- An image that ends within the second of eight frames leaves room behind the descriptors;
one that ends with the third of four frames leaves none. -/
theorem bootstrapStoring_reserves_eight :
    let encoding : Encoding := ⟨fun _ => List.replicate 40 1, fun _ => List.length_replicate⟩
    let layout : RamLayout := ⟨.ofNat 0x1800, .ofNat 0x8000⟩
    let full : RamLayout := ⟨.ofNat 0x3000, .ofNat 0x4000⟩
    let ram := Ram.zeroed .directMap 8
    (∃ coremap, ((bootstrapStoring encoding layout ()).run ram).result = .value coremap ∧
        Reserves encoding layout ram ((bootstrapStoring encoding layout ()).run ram).state
          coremap) ∧
      ((bootstrapStoring encoding full ()).run ram).result = .error ⟨4⟩ ∧
      ((bootstrapStoring encoding full ()).run ram).state = ram := by
  intro encoding layout full ram
  have size : ram.size = 0x8000 := Ram.size_zeroed _ _
  have admits {count : Nat} (few : count ≤ 8) : ram.Admits count :=
    Ram.admits_of_directMap rfl (by rw [Layout.directMapSize]; omega)
  obtain ⟨_, _, _, _, built⟩ := bootstrapStoring_reserves encoding layout () ram (by decide)
    (by rw [size]; decide) (admits (by decide))
  obtain ⟨_, _, refused, kept, _⟩ := bootstrapStoring_reserves encoding full () ram (by decide)
    (by rw [size]; decide) (admits (by decide))
  have small : full.TooSmall := by decide
  have four : full.frameCount = 4 := by decide
  exact ⟨built (by decide), (refused.mpr small).trans (by rw [four]), kept small⟩

end Coremap

end PagedMemory
