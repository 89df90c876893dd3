import Mathlib.Logic.Function.Basic
import PagedMemory.Paging.Tables
import PagedMemory.Proofs.Ram.Frames

/-!
# What tables say

The two levels of tables in RAM, seen as partial functions: from directory
indices to tables, from table indices to frames, and from pages to frames. The
last is what a lookup answers. The functions depend on the directory and on its
tables alone, so a write anywhere else leaves them as they are; a write of one
entry changes them at one place.
-/

namespace PagedMemory.Ram

variable {ε : Type} {ram ram' : Ram} {directory table frame : Frame} {i j : DirectoryIndex}
  {k l : TableIndex} {page : VirtPage} {address : VirtAddr}

/-- The table that a directory names at an index. -/
def table? (ram : Ram) (directory : Frame) (i : DirectoryIndex) : Option Frame :=
  (ram.directoryEntry directory i).table?

/-- The frame that a table maps to at an index. -/
def mapping? (ram : Ram) (table : Frame) (k : TableIndex) : Option Frame :=
  (ram.tableEntry table k).frame?

/-- The frame that the two levels of tables map a page to. -/
def page? (ram : Ram) (directory : Frame) (page : VirtPage) : Option Frame :=
  (ram.table? directory (.ofPage page)).bind fun table => ram.mapping? table (.ofPage page)

/-- A lookup answers the frame of the address's page. -/
theorem lookup_eq_page? (ram : Ram) (directory : Frame) (address : VirtAddr) :
    ram.lookup directory address = ram.page? directory address.page :=
  rfl

/-- Without a table no page is mapped. -/
theorem page?_eq_none_of_table? {page : VirtPage}
    (unnamed : ram.table? directory (.ofPage page) = none) : ram.page? directory page = none := by
  rw [page?, unnamed, Option.bind_none]

theorem page?_ofIndices (named : ram.table? directory i = some table) :
    ram.page? directory (VirtPage.ofIndices i k) = ram.mapping? table k := by
  rw [page?, DirectoryIndex.ofPage_ofIndices, TableIndex.ofPage_ofIndices, named, Option.bind_some]

/-! ## What they depend on -/

theorem byte_of_word {m n : Nat} (small : n + 4 ≤ 4096) (smallM : m < 4) : n + m < 4096 := by
  omega

theorem word_eq_of_bytes {m : Nat} (same : ∀ n, n < 4 → ram'.byte (m + n) = ram.byte (m + n)) :
    ram'.word m = ram.word m := by
  have first : ram'.byte m = ram.byte m := same 0 (by decide)
  simp only [word, first, same 1 (by decide), same 2 (by decide), same 3 (by decide)]

theorem word_eq_of_sameFrame (same : SameFrame frame ram ram') {n : Nat} (small : n + 4 ≤ 4096) :
    ram'.word (frame.base.toNat + n) = ram.word (frame.base.toNat + n) := by
  apply word_eq_of_bytes
  intro m smallM
  rw [Nat.add_assoc]
  exact same (n + m) (byte_of_word small smallM)

theorem table?_eq_of_sameFrame (same : SameFrame directory ram ram') (i : DirectoryIndex) :
    ram'.table? directory i = ram.table? directory i := by
  have small := i.toFin.isLt
  simp only [table?, directoryEntry, directorySlot]
  rw [word_eq_of_sameFrame same (by omega)]

theorem mapping?_eq_of_sameFrame (same : SameFrame table ram ram') (k : TableIndex) :
    ram'.mapping? table k = ram.mapping? table k := by
  have small := k.toFin.isLt
  simp only [mapping?, tableEntry, tableSlot]
  rw [word_eq_of_sameFrame same (by omega)]

/-- A memory that agrees on a directory and on its tables maps the same pages. -/
theorem page?_eq_of_sameFrames (same : SameFrame directory ram ram')
    (sameTables : ∀ i table, ram.table? directory i = some table → SameFrame table ram ram')
    (page : VirtPage) : ram'.page? directory page = ram.page? directory page := by
  rw [page?, page?, table?_eq_of_sameFrame same]
  rcases named : ram.table? directory (.ofPage page) with _ | table
  · rw [Option.bind_none, Option.bind_none]
  · rw [Option.bind_some, Option.bind_some, mapping?_eq_of_sameFrame (sameTables _ _ named)]

/-! ## Writes of entries -/

theorem differOn_setDirectoryEntry (ram : Ram) (directory : Frame) (i : DirectoryIndex)
    (entry : DirectoryEntry) :
    DifferOn (· = directory) ram (ram.setDirectoryEntry directory i entry) := by
  have small := i.toFin.isLt
  exact differOn_setWord ram directory entry.bits (by omega)

theorem differOn_setTableEntry (ram : Ram) (table : Frame) (k : TableIndex) (entry : TableEntry) :
    DifferOn (· = table) ram (ram.setTableEntry table k entry) := by
  have small := k.toFin.isLt
  exact differOn_setWord ram table entry.bits (by omega)

theorem word_setWord_of_apart (ram : Ram) {m n : Nat} (value : UInt32)
    (apart : n + 4 ≤ m ∨ m + 4 ≤ n) : (ram.setWord m value).word n = ram.word n := by
  simp only [word]
  rw [byte_setWord_of_outside _ _ (by omega), byte_setWord_of_outside _ _ (by omega),
    byte_setWord_of_outside _ _ (by omega), byte_setWord_of_outside _ _ (by omega)]

/-- The word at a place of a frame. -/
def frameWord (ram : Ram) (frame : Frame) (place : Fin 1024) : UInt32 :=
  ram.word (frame.base.toNat + 4 * place.val)

/-- A word that was written reads back, and the other words of its frame read as before. -/
theorem frameWord_setWord (within : frame.number * 4096 + 4096 ≤ ram.size)
    (place other : Fin 1024) (value : UInt32) :
    (ram.setWord (frame.base.toNat + 4 * place.val) value).frameWord frame other =
      if other = place then value else ram.frameWord frame other := by
  unfold frameWord
  split
  next same =>
    subst same
    have small := other.isLt
    exact word_setWord _ _ _ (by simp only [Page.base]; omega)
  next different =>
    have : other.val ≠ place.val := Fin.val_ne_of_ne different
    exact word_setWord_of_apart _ _ (by omega)

theorem directoryEntry_setDirectoryEntry (within : directory.number * 4096 + 4096 ≤ ram.size)
    (i j : DirectoryIndex) (entry : DirectoryEntry) :
    (ram.setDirectoryEntry directory i entry).directoryEntry directory j =
      if j = i then entry else ram.directoryEntry directory j := by
  have written := frameWord_setWord within i.toFin j.toFin entry.bits
  rcases i with ⟨i⟩
  rcases j with ⟨j⟩
  simp only [DirectoryIndex.mk.injEq]
  split
  next same => exact congrArg DirectoryEntry.mk (written.trans (if_pos same))
  next different => exact congrArg DirectoryEntry.mk (written.trans (if_neg different))

theorem tableEntry_setTableEntry (within : table.number * 4096 + 4096 ≤ ram.size)
    (k l : TableIndex) (entry : TableEntry) :
    (ram.setTableEntry table k entry).tableEntry table l =
      if l = k then entry else ram.tableEntry table l := by
  have written := frameWord_setWord within k.toFin l.toFin entry.bits
  rcases k with ⟨k⟩
  rcases l with ⟨l⟩
  simp only [TableIndex.mk.injEq]
  split
  next same => exact congrArg TableEntry.mk (written.trans (if_pos same))
  next different => exact congrArg TableEntry.mk (written.trans (if_neg different))

theorem table?_setDirectoryEntry (within : directory.number * 4096 + 4096 ≤ ram.size)
    (entry : DirectoryEntry) :
    (ram.setDirectoryEntry directory i entry).table? directory =
      Function.update (ram.table? directory) i entry.table? := by
  funext j
  rw [table?, directoryEntry_setDirectoryEntry within, Function.update_apply]
  split <;> rfl

theorem table?_setDirectoryEntry_table (within : directory.number * 4096 + 4096 ≤ ram.size)
    (i : DirectoryIndex) (table : Frame) :
    (ram.setDirectoryEntry directory i (.table table)).table? directory =
      Function.update (ram.table? directory) i (some table) := by
  rw [table?_setDirectoryEntry within, DirectoryEntry.table?_table]

theorem mapping?_setTableEntry (within : table.number * 4096 + 4096 ≤ ram.size)
    (entry : TableEntry) :
    (ram.setTableEntry table k entry).mapping? table =
      Function.update (ram.mapping? table) k entry.frame? := by
  funext l
  rw [mapping?, tableEntry_setTableEntry within, Function.update_apply]
  split <;> rfl

/-! ## Cleared tables -/

theorem word_eq_zero_of_bytes {m : Nat} (zero : ∀ n, n < 4 → ram.byte (m + n) = 0) :
    ram.word m = 0 := by
  have first : ram.byte m = 0 := zero 0 (by decide)
  simp [word, first, zero 1 (by decide), zero 2 (by decide), zero 3 (by decide)]

theorem word_of_clearFrame (isClear : ClearFrame ram frame) {n : Nat} (small : n + 4 ≤ 4096) :
    ram.word (frame.base.toNat + n) = 0 := by
  apply word_eq_zero_of_bytes
  intro m smallM
  rw [Nat.add_assoc]
  exact isClear (n + m) (byte_of_word small smallM)

theorem table?_of_clearFrame (isClear : ClearFrame ram directory) (i : DirectoryIndex) :
    ram.table? directory i = none := by
  have small := i.toFin.isLt
  rw [table?, directoryEntry, directorySlot, word_of_clearFrame isClear (by omega)]
  exact DirectoryEntry.table?_absent

theorem mapping?_of_clearFrame (isClear : ClearFrame ram table) (k : TableIndex) :
    ram.mapping? table k = none := by
  have small := k.toFin.isLt
  rw [mapping?, tableEntry, tableSlot, word_of_clearFrame isClear (by omega)]
  exact TableEntry.frame?_absent

/-! ## Pages after a write -/

/-- Naming a cleared table where none was named maps no page. -/
theorem page?_setDirectoryEntry (within : directory.number * 4096 + 4096 ≤ ram.size)
    (unnamed : ram.table? directory i = none) (isClear : ClearFrame ram table)
    (different : table ≠ directory)
    (others : ∀ j other, ram.table? directory j = some other → other ≠ directory) :
    (ram.setDirectoryEntry directory i (.table table)).page? directory = ram.page? directory := by
  have differ := differOn_setDirectoryEntry ram directory i (.table table)
  funext page
  rw [page?, page?, table?_setDirectoryEntry_table within]
  by_cases same : DirectoryIndex.ofPage page = i
  · rw [same, Function.update_self, unnamed, Option.bind_some, Option.bind_none,
      mapping?_eq_of_sameFrame (differ.same table different)]
    exact mapping?_of_clearFrame isClear _
  · rw [Function.update_of_ne same]
    rcases named : ram.table? directory (.ofPage page) with _ | other
    · rw [Option.bind_none, Option.bind_none]
    · rw [Option.bind_some, Option.bind_some,
        mapping?_eq_of_sameFrame (differ.same other (others _ _ named))]

/-- Writing a mapping into the table that covers a page maps this page and no
other. -/
theorem page?_setTableEntry (within : table.number * 4096 + 4096 ≤ ram.size)
    (named : ram.table? directory (.ofPage page) = some table) (different : table ≠ directory)
    (alone : ∀ j, ram.table? directory j = some table → j = .ofPage page) :
    (ram.setTableEntry table (.ofPage page) (.mapping frame)).page? directory =
      Function.update (ram.page? directory) page (some frame) := by
  have differ := differOn_setTableEntry ram table (.ofPage page) (.mapping frame)
  have sameDirectory := differ.same directory (Ne.symm different)
  funext other
  rw [page?, table?_eq_of_sameFrame sameDirectory]
  by_cases same : other = page
  · subst same
    rw [Function.update_self, named, Option.bind_some, mapping?_setTableEntry within,
      Function.update_self, TableEntry.frame?_mapping]
  · rw [Function.update_of_ne same, page?]
    rcases covers : ram.table? directory (.ofPage other) with _ | otherTable
    · rw [Option.bind_none, Option.bind_none]
    · rw [Option.bind_some, Option.bind_some]
      by_cases sameTable : otherTable = table
      · subst sameTable
        have sameDir := alone _ covers
        have differentEntry : TableIndex.ofPage other ≠ .ofPage page := by
          intro sameEntry
          have indices := VirtPage.eq_ofIndices_iff.mpr ⟨sameDir, sameEntry⟩
          exact same (indices.trans (VirtPage.ofIndices_ofPage page))
        rw [mapping?_setTableEntry within, Function.update_of_ne differentEntry]
      · rw [mapping?_eq_of_sameFrame (differ.same otherTable sameTable)]

/-! ## Admitted accesses -/

variable {left : Nat}

theorem ends_readDirectory {post : Post ε Ram DirectoryEntry}
    (refused : ¬ ram.Admitted directory → ∀ cause, post.panic cause ram)
    (done : ram.Admitted directory → post.value (ram.directoryEntry directory i) ram left) :
    (readDirectory directory i).Ends left ram post := by
  refine Operation.ends_bind.mpr (ends_allowFrame refused fun admitted => ?_)
  exact Operation.ends_read.mpr (done admitted)

theorem ends_readTable {post : Post ε Ram TableEntry}
    (refused : ¬ ram.Admitted table → ∀ cause, post.panic cause ram)
    (done : post.value (ram.tableEntry table k) ram left) :
    (readTable table k).Ends left ram post := by
  refine Operation.ends_bind.mpr (ends_allowFrame refused fun _ => ?_)
  exact Operation.ends_read.mpr done

theorem ends_writeDirectory {entry : DirectoryEntry} {post : Post ε Ram Unit}
    (refused : ¬ ram.Admitted directory → ∀ cause, post.panic cause ram)
    (done : post.value () (ram.setDirectoryEntry directory i entry) left) :
    (writeDirectory directory i entry).Ends left ram post := by
  refine Operation.ends_bind.mpr (ends_allowFrame refused fun _ => ?_)
  exact Operation.ends_change.mpr done

theorem ends_writeTable {entry : TableEntry} {post : Post ε Ram Unit}
    (refused : ¬ ram.Admitted table → ∀ cause, post.panic cause ram)
    (done : post.value () (ram.setTableEntry table k entry) left) :
    (writeTable table k entry).Ends left ram post := by
  refine Operation.ends_bind.mpr (ends_allowFrame refused fun _ => ?_)
  exact Operation.ends_change.mpr done

theorem ends_walk {address : VirtAddr} {post : Post ε Ram (Option Frame)}
    (refused : ¬ ram.Admitted directory → ∀ cause, post.panic cause ram)
    (done : ram.Admitted directory →
      post.value (ram.table? directory (.ofAddr address)) ram left) :
    (walk directory address).Ends left ram post := by
  refine Operation.ends_bind.mpr (ends_readDirectory refused fun admitted => ?_)
  exact Operation.ends_pure.mpr (done admitted)

theorem page?_page (ram : Ram) (directory : Frame) (address : VirtAddr) :
    ram.page? directory address.page =
      (ram.table? directory (.ofAddr address)).bind fun table =>
        ram.mapping? table (.ofAddr address) :=
  rfl

theorem ends_resolve {address : VirtAddr} {post : Post ε Ram (Option Frame)}
    (refused : ∀ cause, post.panic cause ram)
    (done : post.value (ram.page? directory address.page) ram left) :
    (resolve directory address).Ends left ram post := by
  refine Operation.ends_bind.mpr (ends_walk (fun _ => refused) fun _ => ?_)
  rw [page?_page] at done
  dsimp only
  rcases named : ram.table? directory (.ofAddr address) with _ | table
  · rw [named, Option.bind_none] at done
    exact Operation.ends_pure.mpr done
  · rw [named, Option.bind_some, mapping?] at done
    refine Operation.ends_bind.mpr (ends_readTable (fun _ => refused) ?_)
    exact Operation.ends_pure.mpr done

/-! ## Accesses that are admitted -/

open Operation

theorem run_readDirectory (admitted : ram.Admitted directory) :
    (readDirectory directory i : Operation ε Ram DirectoryEntry).run ram =
      ⟨.value (ram.directoryEntry directory i), ram, []⟩ := by
  rw [readDirectory, run_bind_of_value (run_allowFrame admitted), run_read, List.nil_append]

theorem run_readTable (admitted : ram.Admitted table) :
    (readTable table k : Operation ε Ram TableEntry).run ram =
      ⟨.value (ram.tableEntry table k), ram, []⟩ := by
  rw [readTable, run_bind_of_value (run_allowFrame admitted), run_read, List.nil_append]

theorem run_writeDirectory (admitted : ram.Admitted directory) (entry : DirectoryEntry) :
    (writeDirectory directory i entry : Operation ε Ram Unit).run ram =
      ⟨.value (), ram.setDirectoryEntry directory i entry, []⟩ := by
  rw [writeDirectory, run_bind_of_value (run_allowFrame admitted), run_change, List.nil_append]

theorem run_writeTable (admitted : ram.Admitted table) (entry : TableEntry) :
    (writeTable table k entry : Operation ε Ram Unit).run ram =
      ⟨.value (), ram.setTableEntry table k entry, []⟩ := by
  rw [writeTable, run_bind_of_value (run_allowFrame admitted), run_change, List.nil_append]

theorem run_readTables (admitted : ram.Admitted directory) :
    (readTables directory : Operation ε Ram (List (DirectoryIndex × Frame))).run ram =
      ⟨.value (ram.tables directory), ram, []⟩ := by
  rw [readTables, run_bind_of_value (run_allowFrame admitted), run_read, List.nil_append]

theorem run_readMappings (admitted : ram.Admitted table) :
    (readMappings table : Operation ε Ram (List (TableIndex × Frame))).run ram =
      ⟨.value (ram.mappings table), ram, []⟩ := by
  rw [readMappings, run_bind_of_value (run_allowFrame admitted), run_read, List.nil_append]

theorem run_walk (admitted : ram.Admitted directory) :
    (walk directory address : Operation ε Ram (Option Frame)).run ram =
      ⟨.value (ram.table? directory (.ofAddr address)), ram, []⟩ := by
  rw [walk, run_bind_of_value (run_readDirectory admitted), run_pure, List.nil_append, table?]

/-- Through tables that can be accessed, walking both levels is a lookup. -/
theorem run_resolve (admitted : ram.Admitted directory)
    (tablesAdmitted : ∀ i table, ram.table? directory i = some table → ram.Admitted table) :
    (resolve directory address : Operation ε Ram (Option Frame)).run ram =
      ⟨.value (ram.lookup directory address), ram, []⟩ := by
  rw [resolve, run_bind_of_value (run_walk admitted), List.nil_append, lookup_eq_page?, page?_page]
  rcases named : ram.table? directory (.ofAddr address) with _ | table
  · rw [run_pure, Option.bind_none]
  · rw [run_bind_of_value (run_readTable (tablesAdmitted _ table named)), run_pure,
      List.nil_append, Option.bind_some, mapping?]

end PagedMemory.Ram

namespace PagedMemory

variable {ram ram' : Ram} {directory table : Frame} {address address' : VirtAddr}
  {tables : Nat → Option Frame}

/-! ## Slots of 4 MiB -/

namespace DirectoryIndex

/-- The place in a directory of the slot with some number. -/
def ofSlot (n : Nat) : DirectoryIndex :=
  ⟨n % 1024, Nat.mod_lt _ (by decide)⟩

theorem ofSlot_toFin (i : DirectoryIndex) : ofSlot i.toFin = i := by
  rcases i with ⟨i, small⟩
  simp only [ofSlot, Nat.mod_eq_of_lt small]

theorem ofPage_eq_ofSlot_iff {page : VirtPage} {n : Nat} (small : n < 1024) :
    ofPage page = ofSlot n ↔ page.number / 1024 = n := by
  simp only [ofPage, ofSlot, mk.injEq, Fin.mk.injEq, Nat.mod_eq_of_lt small]

theorem ofSlot_div (address : VirtAddr) : ofSlot (address.toNat / 0x400000) = ofAddr address := by
  have lt := address.lt
  simp only [ofSlot, ofAddr, ofPage, Address.page, mk.injEq, Fin.mk.injEq]
  omega

/-- Addresses have the same directory index exactly if they lie in the same slot. -/
theorem ofAddr_eq_iff :
    ofAddr address = ofAddr address' ↔ address.toNat / 0x400000 = address'.toNat / 0x400000 := by
  simp only [ofAddr, ofPage, Address.page, mk.injEq, Fin.mk.injEq]
  omega

end DirectoryIndex

namespace Ram

/-- The table that a directory names for the slot of 4 MiB with some number. -/
def slotTable? (ram : Ram) (directory : Frame) (n : Nat) : Option Frame :=
  ram.table? directory (.ofSlot n)

/-- A directory names these tables for the slots of addresses. -/
def NamesTables (ram : Ram) (directory : Frame) (tables : Nat → Option Frame) : Prop :=
  ∀ address : VirtAddr, ram.table? directory (.ofAddr address) =
    tables (address.toNat / 0x400000)

theorem namesTables_slotTable? (ram : Ram) (directory : Frame) :
    ram.NamesTables directory (ram.slotTable? directory) := by
  intro address
  exact congrArg (ram.table? directory) (DirectoryIndex.ofSlot_div address).symm

/-- A table that is entered for an address is entered for the slot of the address. -/
theorem NamesTables.update (names : ram.NamesTables directory tables)
    (entered : ram'.table? directory =
      Function.update (ram.table? directory) (.ofAddr address) (some table)) :
    ram'.NamesTables directory
      (Function.update tables (address.toNat / 0x400000) (some table)) := by
  intro other
  simp only [entered, Function.update_apply, DirectoryIndex.ofAddr_eq_iff, names other]

end Ram

end PagedMemory
