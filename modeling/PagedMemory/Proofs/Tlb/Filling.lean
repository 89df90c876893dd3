import Mathlib.Tactic.ByContra
import PagedMemory.Proofs.Tlb.Slots

/-!
# Buffers that are filled by misses

A lookaside buffer that starts unused and is only ever refilled holds, in each slot,
either what an unused slot holds or a mapping that some miss called for. No page has
two mappings, and a tag is never a page of a program, so no two slots name the same
page.
-/

namespace PagedMemory

/-- Every slot is unused or maps a page as `maps` says, and no page is mapped twice. -/
structure Tlb.Filled (maps : VirtPage → Frame → Prop) (tlb : Tlb) : Prop where
  size : tlb.slots.size = Layout.tlbSlots
  each : ∀ (slot : Nat) (entry : TlbEntry), tlb.slots[slot]? = some entry →
    entry = .idle slot ∨ ∃ page frame, entry = .mapping page frame ∧ maps page frame
  once : ∀ (slot slot' : Nat) (page : VirtPage) (frame frame' : Frame),
    tlb.slots[slot]? = some (.mapping page frame) →
      tlb.slots[slot']? = some (.mapping page frame') → slot = slot'

namespace Tlb

variable {maps : VirtPage → Frame → Prop} {tlb : Tlb} {slot slot' : Nat}
  {entry entry' old : TlbEntry} {page : VirtPage} {frame : Frame}

theorem idle_ne_mapping : TlbEntry.idle slot ≠ .mapping page frame := by
  intro same
  have valid := congrArg (fun entry : TlbEntry => entry.lo.isValid) same
  simp [TlbEntry.idle, TlbEntry.mapping] at valid

theorem page_eq_of_mapping {page' : VirtPage} {frame' : Frame}
    (same : TlbEntry.mapping page frame = .mapping page' frame') : page = page' := by
  simpa [TlbEntry.mapping] using congrArg (fun entry : TlbEntry => entry.hi.page) same

theorem filled_idle : (idle Layout.tlbSlots).Filled maps where
  size := by simp [idle]
  each _ _ found := .inl (entry_of_idle found)
  once _ _ _ _ _ found := absurd (entry_of_idle found).symm idle_ne_mapping

namespace Filled

/-- A refill of a slot that is offered keeps a buffer filled. -/
theorem set (filled : tlb.Filled maps) (offers : tlb.Offers page slot old)
    (mapped : maps page frame) : (tlb.set slot (.mapping page frame)).Filled maps := by
  obtain ⟨found, chosen⟩ := offers
  have within := (Array.getElem?_eq_some_iff.mp found).1
  have written : (tlb.set slot (.mapping page frame)).slots[slot]? = some (.mapping page frame) :=
    getElem?_set_self within
  -- Another slot does not have the page, whichever way the slot was chosen.
  have elsewhere {other : Nat} {frame' : Frame} (different : slot ≠ other) :
      tlb.slots[other]? ≠ some (.mapping page frame') := by
    intro foundOther
    rcases chosen with translates | ⟨_, untranslated⟩
    · rcases filled.each slot old found with rfl | ⟨page', frame'', rfl, _⟩
      · simp at translates
      · obtain rfl := TlbEntry.translates_mapping_iff.mp translates
        exact different (filled.once _ _ _ _ _ found foundOther)
    · have not := untranslated other _ foundOther
      rw [TlbEntry.translates_mapping_iff.mpr rfl] at not
      cases not
  constructor
  · exact size_set.trans filled.size
  · intro other entry foundEntry
    by_cases same : slot = other
    · subst same
      rw [written] at foundEntry
      exact .inr ⟨page, frame, (Option.some.inj foundEntry).symm, mapped⟩
    · rw [getElem?_set_ne same] at foundEntry
      exact filled.each other entry foundEntry
  · intro first second page' frame₁ frame₂ foundFirst foundSecond
    have atSlot {other : Nat} {frame' : Frame} (foundOther :
        (tlb.set slot (.mapping page frame)).slots[other]? = some (.mapping page frame')) :
        slot = other := by
      by_contra different
      rw [getElem?_set_ne different] at foundOther
      exact elsewhere different foundOther
    by_cases samePage : page = page'
    · subst samePage
      exact (atSlot foundFirst).symm.trans (atSlot foundSecond)
    · have notSlot {other : Nat} {frame' : Frame} (foundOther :
          (tlb.set slot (.mapping page frame)).slots[other]? = some (.mapping page' frame')) :
          slot ≠ other := by
        rintro rfl
        rw [written] at foundOther
        exact samePage (page_eq_of_mapping (Option.some.inj foundOther))
      rw [getElem?_set_ne (notSlot foundFirst)] at foundFirst
      rw [getElem?_set_ne (notSlot foundSecond)] at foundSecond
      exact filled.once first second page' frame₁ frame₂ foundFirst foundSecond

theorem mono {maps' : VirtPage → Frame → Prop} (filled : tlb.Filled maps)
    (weaker : ∀ page frame, maps page frame → maps' page frame) : tlb.Filled maps' where
  size := filled.size
  each slot entry found := (filled.each slot entry found).imp_right
    fun ⟨page, frame, isMapping, mapped⟩ => ⟨page, frame, isMapping, weaker page frame mapped⟩
  once := filled.once

/-- A valid slot is a mapping and permits stores. -/
theorem valid (filled : tlb.Filled maps) (found : tlb.slots[slot]? = some entry)
    (isValid : entry.lo.isValid = true) :
    entry.lo.isDirty = true ∧ maps entry.hi.page entry.lo.frame := by
  rcases filled.each slot entry found with rfl | ⟨page, frame, rfl, mapped⟩
  · simp [TlbEntry.idle] at isValid
  · simpa [TlbEntry.mapping] using mapped

/-- No two slots name the same page if only pages of programs are mapped. -/
theorem page_ne (filled : tlb.Filled maps)
    (programs : ∀ page frame, maps page frame → page.number < 0x80000)
    (found : tlb.slots[slot]? = some entry) (found' : tlb.slots[slot']? = some entry')
    (different : slot ≠ slot') : entry.hi.page ≠ entry'.hi.page := by
  have few {slot : Nat} {entry : TlbEntry} (found : tlb.slots[slot]? = some entry) :
      slot < 0x80000 := by
    have within := (Array.getElem?_eq_some_iff.mp found).1
    rw [filled.size] at within
    exact Nat.lt_trans within (by decide)
  intro same
  have number := congrArg Page.number same
  rcases filled.each _ _ found with rfl | ⟨page, frame, rfl, mapped⟩ <;>
    rcases filled.each _ _ found' with rfl | ⟨page', frame', rfl, mapped'⟩
  · simp only [TlbEntry.idle, EntryHi.number_page_tag (few found),
      EntryHi.number_page_tag (few found')] at number
    omega
  · have program := programs page' frame' mapped'
    simp only [TlbEntry.idle, TlbEntry.mapping, EntryHi.number_page_tag (few found),
      EntryHi.page_ofPage] at number
    omega
  · have program := programs page frame mapped
    simp only [TlbEntry.idle, TlbEntry.mapping, EntryHi.number_page_tag (few found'),
      EntryHi.page_ofPage] at number
    omega
  · simp only [TlbEntry.mapping, EntryHi.page_ofPage] at same
    subst same
    exact different (filled.once _ _ _ _ _ found found')

end Filled

end Tlb

end PagedMemory
