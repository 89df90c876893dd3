import PagedMemory.Tlb.Entry

/-!
# What the words of a slot say

A mapping names its page and its frame and permits stores. An unused slot translates
nothing, and the page that it is tagged with is one of the direct map, so it is no
page of a program and no tag of another slot.
-/

namespace PagedMemory

variable {page page' : VirtPage} {frame : Frame} {slot : Nat}

namespace EntryHi

theorem get_ofPage (page : VirtPage) : pageField.get (ofPage page).bits = page.number :=
  (pageField.get_put_self page.number 0).trans (Nat.mod_eq_of_lt page.lt)

@[simp]
theorem page_ofPage (page : VirtPage) : (ofPage page).page = page := by
  rw [EntryHi.page, get_ofPage]
  exact Page.ofNumber_number page

theorem toNat_ofPage (page : VirtPage) : (ofPage page).bits.toNat = page.number * 4096 := by
  have small : page.number % BitField.weight pageField.width = page.number :=
    Nat.mod_eq_of_lt page.lt
  rw [ofPage, BitField.toNat_put, small]
  simp [pageField, BitField.pageNumber, BitField.weight]

/-- Up to half a million slots, the tag of a slot is a page of the direct map. -/
theorem number_page_tag (few : slot < 0x80000) : (tag slot).page.number = 0x80000 + slot := by
  have number : invalidTag slot = 0x80000 + slot := by
    simp only [invalidTag, Layout.directMapBase, Layout.pageSize]
    omega
  have small : 0x80000 + slot < 0x100000 := by
    omega
  have got : pageField.get (tag slot).bits = 0x80000 + slot := by
    rw [tag, number]
    exact (pageField.get_put_self _ 0).trans (Nat.mod_eq_of_lt small)
  rw [EntryHi.page, got]
  exact Page.number_ofNumber_of_lt small

end EntryHi

namespace EntryLo

@[simp]
theorem isValid_invalid : invalid.isValid = false := by
  decide

@[simp]
theorem isValid_writable (frame : Frame) : (writable frame).isValid = true :=
  BitField.test_mark rfl true _

@[simp]
theorem isDirty_writable (frame : Frame) : (writable frame).isDirty = true := by
  have kept (word : UInt32) :
      dirtyField.get (validField.mark true word) = dirtyField.get word :=
    BitField.get_put_of_disjoint _ word (.inl (by decide))
  rw [isDirty, writable, BitField.test, kept]
  exact BitField.test_mark rfl true _

@[simp]
theorem frame_writable (frame : Frame) : (writable frame).frame = frame := by
  have validKept (word : UInt32) :
      frameField.get (validField.mark true word) = frameField.get word :=
    BitField.get_put_of_disjoint _ word (.inl (by decide))
  have dirtyKept (word : UInt32) :
      frameField.get (dirtyField.mark true word) = frameField.get word :=
    BitField.get_put_of_disjoint _ word (.inl (by decide))
  have got : frameField.get (writable frame).bits = frame.number := by
    rw [writable, validKept, dirtyKept]
    exact (frameField.get_put_self frame.number 0).trans (Nat.mod_eq_of_lt frame.lt)
  rw [EntryLo.frame, got]
  exact Page.ofNumber_number frame

/-- The word has the frame, the bit that permits stores and the valid bit, and no other. -/
theorem toNat_writable (frame : Frame) :
    (writable frame).bits.toNat = frame.number * 4096 + 0x400 + 0x200 := by
  have small : frame.number % BitField.weight frameField.width = frame.number :=
    Nat.mod_eq_of_lt frame.lt
  rw [writable, BitField.mark, BitField.mark, BitField.toNat_put, BitField.toNat_put,
    BitField.toNat_put, small]
  simp [frameField, validField, dirtyField, BitField.pageNumber, BitField.weight]
  omega

end EntryLo

namespace TlbEntry

/-- A slot translates the page that it names, if it is valid. -/
theorem translates_iff {entry : TlbEntry} :
    entry.translates page = true ↔ entry.lo.isValid = true ∧ entry.hi.page = page := by
  have number : entry.hi.page.number = EntryHi.pageField.get entry.hi.bits :=
    Page.number_ofNumber_of_lt (BitField.get_lt _ _)
  rw [translates, Bool.and_eq_true, beq_iff_eq, ← number]
  exact and_congr_right fun _ => ⟨Page.ext, congrArg Page.number⟩

@[simp]
theorem translates_idle (slot : Nat) (page : VirtPage) : (idle slot).translates page = false := by
  simp [translates, idle]

@[simp]
theorem translates_mapping_iff :
    (mapping page frame).translates page' = true ↔ page = page' := by
  simp only [translates, mapping, EntryLo.isValid_writable, EntryHi.get_ofPage, Bool.true_and,
    beq_iff_eq]
  exact ⟨Page.ext, congrArg Page.number⟩

end TlbEntry

end PagedMemory
