/-!
# Cells that are set once

A cell accepts one value for ever. A writer goes through three atomic steps:
it reserves the cell, writes the slot, and publishes it. Readers see nothing
before the publication. A writer that cannot reserve the cell gets its value
back and never touches the slot.
-/

namespace PagedMemory

/-- How far the value of a cell has come. -/
inductive SetOnceState where
  | empty
  | writing
  | set
deriving DecidableEq

/-- A cell that is set once. -/
structure SetOnce (α : Type) where
  state : SetOnceState
  /-- What was written to the slot, if anything. -/
  slot : Option α
deriving DecidableEq

namespace SetOnce

variable {α : Type}

/-- A cell without a value. -/
def empty : SetOnce α := ⟨.empty, none⟩

/-! ## Atomic steps -/

/-- Reserve the cell for writing, unless a writer was there before. -/
def reserve (cell : SetOnce α) : Option (SetOnce α) :=
  if cell.state = .empty then some { cell with state := .writing } else none

/-- Write the slot. -/
def write (cell : SetOnce α) (value : α) : SetOnce α :=
  { cell with slot := some value }

/-- Let readers see the slot. -/
def publish (cell : SetOnce α) : SetOnce α :=
  { cell with state := .set }

/-- The published value. -/
def get? (cell : SetOnce α) : Option α :=
  if cell.state = .set then cell.slot else none

/-! ## The whole call -/

/-- Store a value for ever; `none` if the cell has or is getting another. -/
def set? (cell : SetOnce α) (value : α) : Option (SetOnce α) :=
  cell.reserve.map fun reserved => (reserved.write value).publish

end SetOnce

end PagedMemory
