import PagedMemory.BitField
import PagedMemory.Layout

/-!
# Slots of the lookaside buffer

A slot is a pair of words. The high word names a virtual page, the low word the
frame it translates to and the access bits. A slot whose valid bit is clear
translates nothing; it is tagged with a page of the direct map, a
different one for every slot, so that no two slots ever name the same page.
-/

namespace PagedMemory

/-- The high word of a slot. -/
structure EntryHi where
  bits : UInt32
deriving DecidableEq

/-- The low word of a slot. -/
structure EntryLo where
  bits : UInt32
deriving DecidableEq

namespace EntryHi

/-- Bits 6 to 11: an address space number, which nothing here uses. -/
def asidField : BitField := ⟨6, 6, by decide⟩

/-- Bits 12 to 31: the virtual page. -/
def pageField : BitField := .pageNumber

/-- The high word for a page. -/
def ofPage (page : VirtPage) : EntryHi :=
  ⟨pageField.put page.number 0⟩

/-- The page number by which an unused slot is tagged; the slot counts as a
32-bit number. -/
def invalidTag (slot : Nat) : Nat :=
  Layout.directMapBase / Layout.pageSize + slot % 0x100000000

/-- The high word of an unused slot, as far as its tag fits. -/
def tag (slot : Nat) : EntryHi :=
  ⟨pageField.put (invalidTag slot) 0⟩

/-- The high word of an unused slot. Its tag has to fit a word and its field. -/
def invalid (slot : Nat) : Except Panic EntryHi :=
  if invalidTag slot < 0x100000000 then (pageField.set (invalidTag slot) 0).map .mk
  else .error .addOverflow

/-- The word with another address space number and another page number. -/
def withFields (hi : EntryHi) (asid page : Nat) : Except Panic EntryHi := do
  return ⟨← pageField.set page (← asidField.set asid hi.bits)⟩

/-- The virtual page of the slot. -/
def page (hi : EntryHi) : VirtPage :=
  .ofNumber (pageField.get hi.bits)

end EntryHi

namespace EntryLo

/-- Bit 8: the slot translates for every address space. -/
def globalField : BitField := ⟨8, 1, by decide⟩

/-- Bit 9: the slot is valid. -/
def validField : BitField := ⟨9, 1, by decide⟩

/-- Bit 10: stores are permitted. -/
def dirtyField : BitField := ⟨10, 1, by decide⟩

/-- Bit 11: accesses bypass the cache. -/
def uncachedField : BitField := ⟨11, 1, by decide⟩

/-- Bits 12 to 31: the frame. -/
def frameField : BitField := .pageNumber

/-- The low word of an unused slot. -/
def invalid : EntryLo :=
  ⟨0⟩

/-- The low word of a valid slot that permits stores to `frame`. -/
def writable (frame : Frame) : EntryLo :=
  ⟨validField.mark true (dirtyField.mark true (frameField.put frame.number 0))⟩

/-- Whether the slot is valid. -/
def isValid (lo : EntryLo) : Bool :=
  validField.test lo.bits

/-- Whether stores are permitted. -/
def isDirty (lo : EntryLo) : Bool :=
  dirtyField.test lo.bits

/-- Whether the slot translates for every address space. -/
def isGlobal (lo : EntryLo) : Bool :=
  globalField.test lo.bits

/-- Whether accesses bypass the cache. -/
def isUncached (lo : EntryLo) : Bool :=
  uncachedField.test lo.bits

/-- The word with other marks and another frame number. -/
def withFields (lo : EntryLo) (everywhere valid dirty uncached : Bool) (frame : Nat) :
    Except Panic EntryLo := do
  let marked := uncachedField.mark uncached (dirtyField.mark dirty
    (validField.mark valid (globalField.mark everywhere lo.bits)))
  return ⟨← frameField.set frame marked⟩

/-- The frame of the slot. -/
def frame (lo : EntryLo) : Frame :=
  .ofNumber (frameField.get lo.bits)

end EntryLo

/-- What one slot of the lookaside buffer holds. -/
structure TlbEntry where
  hi : EntryHi
  lo : EntryLo
deriving DecidableEq

namespace TlbEntry

/-- A slot that has never been used. -/
def idle (slot : Nat) : TlbEntry :=
  ⟨.tag slot, .invalid⟩

/-- What a slot is set to when it is invalidated. -/
def unused (slot : Nat) : Except Panic TlbEntry :=
  (EntryHi.invalid slot).map fun hi => ⟨hi, .invalid⟩

/-- The slot that maps `page` to `frame` and permits stores. -/
def mapping (page : VirtPage) (frame : Frame) : TlbEntry :=
  ⟨.ofPage page, .writable frame⟩

/-- Whether the slot translates `page`. -/
def translates (entry : TlbEntry) (page : VirtPage) : Bool :=
  entry.lo.isValid && EntryHi.pageField.get entry.hi.bits == page.number

/-- Up to half a million slots, invalidating a slot sets it to its first state. -/
theorem unused_eq_idle {slot : Nat} (few : slot < 0x80000) : unused slot = .ok (idle slot) := by
  have tagSmall : EntryHi.invalidTag slot < 0x100000 := by
    simp only [EntryHi.invalidTag, Layout.directMapBase, Layout.pageSize]
    omega
  have tagFits : EntryHi.invalidTag slot < BitField.weight EntryHi.pageField.width := tagSmall
  rw [unused, EntryHi.invalid, if_pos (by omega), BitField.set, if_pos tagFits]
  rfl

end TlbEntry

end PagedMemory
