import PagedMemory.Paging.Entry
import PagedMemory.Paging.Index
import PagedMemory.Ram

/-!
# Tables in RAM

A frame of RAM seen as a page directory or as a second-level table is a run of
1024 little-endian words. Nothing is kept beside RAM: an entry is whatever its
word says at the moment it is read.
-/

namespace PagedMemory.Ram

/-! ## A frame as a table -/

/-- Where a directory in `directory` keeps an entry. -/
def directorySlot (directory : Frame) (i : DirectoryIndex) : Nat :=
  directory.base.toNat + 4 * i.toFin.val

/-- Where a second-level table in `table` keeps an entry. -/
def tableSlot (table : Frame) (i : TableIndex) : Nat :=
  table.base.toNat + 4 * i.toFin.val

/-- An entry of the directory in a frame. -/
def directoryEntry (ram : Ram) (directory : Frame) (i : DirectoryIndex) : DirectoryEntry :=
  ⟨ram.word (directorySlot directory i)⟩

/-- An entry of the second-level table in a frame. -/
def tableEntry (ram : Ram) (table : Frame) (i : TableIndex) : TableEntry :=
  ⟨ram.word (tableSlot table i)⟩

/-- RAM with an entry of a directory overwritten. -/
def setDirectoryEntry (ram : Ram) (directory : Frame) (i : DirectoryIndex)
    (entry : DirectoryEntry) : Ram :=
  ram.setWord (directorySlot directory i) entry.bits

/-- RAM with an entry of a second-level table overwritten. -/
def setTableEntry (ram : Ram) (table : Frame) (i : TableIndex) (entry : TableEntry) : Ram :=
  ram.setWord (tableSlot table i) entry.bits

/-- The tables that a directory names, in ascending order of their indices. -/
def tables (ram : Ram) (directory : Frame) : List (DirectoryIndex × Frame) :=
  DirectoryIndex.all.filterMap fun i =>
    (ram.directoryEntry directory i).table?.map fun table => (i, table)

/-- The frames that a second-level table maps to, in ascending order of their
indices. -/
def mappings (ram : Ram) (table : Frame) : List (TableIndex × Frame) :=
  TableIndex.all.filterMap fun i =>
    (ram.tableEntry table i).frame?.map fun frame => (i, frame)

/-- The second-level table that covers `address`. -/
def findTable (ram : Ram) (directory : Frame) (address : VirtAddr) : Option Frame :=
  (ram.directoryEntry directory (.ofAddr address)).table?

/-- The frame that the two levels of tables map `address` to. -/
def lookup (ram : Ram) (directory : Frame) (address : VirtAddr) : Option Frame :=
  (ram.findTable directory address).bind fun table =>
    (ram.tableEntry table (.ofAddr address)).frame?

/-- The physical address that the two levels of tables give for `address`. -/
def translate (ram : Ram) (directory : Frame) (address : VirtAddr) : Option PhysAddr :=
  (ram.lookup directory address).map fun frame => frame.join address.offset

/-! ## Admitted accesses -/

variable {ε : Type}

/-- Read an entry of the directory in a frame. -/
def readDirectory (directory : Frame) (i : DirectoryIndex) : Operation ε Ram DirectoryEntry := do
  allowFrame directory
  Operation.read fun ram => ram.directoryEntry directory i

/-- Read an entry of the second-level table in a frame. -/
def readTable (table : Frame) (i : TableIndex) : Operation ε Ram TableEntry := do
  allowFrame table
  Operation.read fun ram => ram.tableEntry table i

/-- Overwrite an entry of the directory in a frame. -/
def writeDirectory (directory : Frame) (i : DirectoryIndex) (entry : DirectoryEntry) :
    Operation ε Ram Unit := do
  allowFrame directory
  Operation.change fun ram => ram.setDirectoryEntry directory i entry

/-- Overwrite an entry of the second-level table in a frame. -/
def writeTable (table : Frame) (i : TableIndex) (entry : TableEntry) :
    Operation ε Ram Unit := do
  allowFrame table
  Operation.change fun ram => ram.setTableEntry table i entry

/-- Replace the swap notes of an entry and answer the entry as it is then. -/
def noteSwap (table : Frame) (i : TableIndex) (notes : Nat) : Operation ε Ram TableEntry := do
  let entry ← Operation.ofExcept ((← readTable table i).withSwapNotes notes)
  writeTable table i entry
  return entry

/-- The tables that the directory in a frame names. -/
def readTables (directory : Frame) : Operation ε Ram (List (DirectoryIndex × Frame)) := do
  allowFrame directory
  Operation.read fun ram => ram.tables directory

/-- The frames that the second-level table in a frame maps to. -/
def readMappings (table : Frame) : Operation ε Ram (List (TableIndex × Frame)) := do
  allowFrame table
  Operation.read fun ram => ram.mappings table

/-- Find the second-level table that covers `address`. -/
def walk (directory : Frame) (address : VirtAddr) : Operation ε Ram (Option Frame) := do
  return (← readDirectory directory (.ofAddr address)).table?

/-- Find the frame that `address` is mapped to. -/
def resolve (directory : Frame) (address : VirtAddr) : Operation ε Ram (Option Frame) := do
  match ← walk directory address with
  | none => return none
  | some table => return (← readTable table (.ofAddr address)).frame?

end PagedMemory.Ram
