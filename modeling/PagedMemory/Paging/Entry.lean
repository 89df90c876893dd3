import PagedMemory.BitField

/-!
# Table entries

Both levels of tables hold 32-bit words with a frame number in the twenty high
bits. A directory entry is present by bit 0, a second-level entry by bit 1; the
latter also has ten bits in which a swapper may keep notes. Bits outside these
fields are kept and ignored.
-/

namespace PagedMemory

/-- An entry of a page directory. -/
structure DirectoryEntry where
  bits : UInt32
deriving DecidableEq

/-- An entry of a second-level table. -/
structure TableEntry where
  bits : UInt32
deriving DecidableEq

namespace DirectoryEntry

/-- Bit 0: the entry names a table. -/
def presentField : BitField := ⟨0, 1, by decide⟩

/-- Bits 12 to 31: the frame that holds the table. -/
def frameField : BitField := .pageNumber

/-- The entry that names no table. -/
def absent : DirectoryEntry :=
  ⟨0⟩

/-- The entry that names the table in `frame`. -/
def table (frame : Frame) : DirectoryEntry :=
  ⟨presentField.mark true (frameField.put frame.number 0)⟩

/-- Whether the entry names a table. -/
def isPresent (entry : DirectoryEntry) : Bool :=
  presentField.test entry.bits

/-- The frame of the table that the entry names, if any. -/
def table? (entry : DirectoryEntry) : Option Frame :=
  if entry.isPresent then some (.ofNumber (frameField.get entry.bits)) else none

@[simp]
theorem table?_absent : absent.table? = none := by
  decide

@[simp]
theorem table?_table (frame : Frame) : (table frame).table? = some frame := by
  have kept : frameField.get (table frame).bits = frame.number := by
    rw [table, BitField.mark, BitField.get_put_of_disjoint _ _ (by decide), BitField.get_put_self]
    exact Nat.mod_eq_of_lt frame.lt
  have present : (table frame).isPresent = true := BitField.test_mark rfl true _
  rw [table?, if_pos present, kept]
  exact congrArg some (Page.ext (Page.number_ofNumber_of_lt frame.lt))

end DirectoryEntry

namespace TableEntry

/-- Bit 1: the entry maps a page. -/
def presentField : BitField := ⟨1, 1, by decide⟩

/-- Bits 2 to 11: notes for a swapper. -/
def swapField : BitField := ⟨2, 10, by decide⟩

/-- Bits 12 to 31: the frame of the mapped page. -/
def frameField : BitField := .pageNumber

/-- The entry that maps no page. -/
def absent : TableEntry :=
  ⟨0⟩

/-- The entry that maps a page to `frame`. -/
def mapping (frame : Frame) : TableEntry :=
  ⟨presentField.mark true (frameField.put frame.number 0)⟩

/-- Whether the entry maps a page. -/
def isPresent (entry : TableEntry) : Bool :=
  presentField.test entry.bits

/-- The frame that the entry maps its page to, if any. -/
def frame? (entry : TableEntry) : Option Frame :=
  if entry.isPresent then some (.ofNumber (frameField.get entry.bits)) else none

/-- The notes kept for a swapper. -/
def swapNotes (entry : TableEntry) : Nat :=
  swapField.get entry.bits

/-- The entry with other notes for a swapper, which have to fit ten bits. -/
def withSwapNotes (entry : TableEntry) (notes : Nat) : Except Panic TableEntry :=
  (swapField.set notes entry.bits).map .mk

@[simp]
theorem frame?_absent : absent.frame? = none := by
  decide

@[simp]
theorem frame?_mapping (frame : Frame) : (mapping frame).frame? = some frame := by
  have kept : frameField.get (mapping frame).bits = frame.number := by
    rw [mapping, BitField.mark, BitField.get_put_of_disjoint _ _ (by decide),
      BitField.get_put_self]
    exact Nat.mod_eq_of_lt frame.lt
  have present : (mapping frame).isPresent = true := BitField.test_mark rfl true _
  rw [frame?, if_pos present, kept]
  exact congrArg some (Page.ext (Page.number_ofNumber_of_lt frame.lt))

end TableEntry

end PagedMemory
