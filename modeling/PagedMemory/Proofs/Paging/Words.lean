import Mathlib.Data.List.Basic
import Mathlib.Logic.Function.Basic
import PagedMemory.Proofs.Paging.Views

/-!
# The words of a table

A frame of RAM is 1024 little-endian words, whatever table it is read as. Writing an entry
overwrites one of them and leaves every other byte of RAM alone, so that a table reads back entry
by entry. What a table lists are the words with the present bit of its level set, and the frames
named by their upper bits. Which word is meant is told by the bits of an address: its two indices
and its offset determine it, and any three of them belong to one address.
-/

namespace PagedMemory

/-! ## Bits of numbers -/

namespace BitField

/-- A run of bits of a number, taken out by a mask and a shift. -/
theorem land_shiftRight_eq (n width shift : Nat) :
    (n &&& (weight width - 1) <<< shift) >>> shift = n / weight shift % weight width := by
  rw [Nat.shiftRight_and_distrib, Nat.shiftLeft_shiftRight, Nat.shiftRight_eq_div_pow]
  exact Nat.and_two_pow_sub_one_eq_mod _ width

/-- Bits placed above a smaller number. -/
theorem shiftLeft_lor_eq {low width : Nat} (small : low < weight width) (high : Nat) :
    high <<< width ||| low = high * weight width + low := by
  rw [← Nat.shiftLeft_add_eq_or_of_lt small, Nat.shiftLeft_eq]
  rfl

/-- A field of one bit is that bit. -/
theorem test_eq_testBit {field : BitField} (single : field.width = 1) (word : UInt32) :
    field.test word = word.toNat.testBit field.offset := by
  have bit : field.get word = word.toNat / 2 ^ field.offset % 2 := by
    rw [get, single]
    rfl
  rw [test, bit, Nat.testBit_eq_decide_div_mod_eq]
  rcases Nat.mod_two_eq_zero_or_one (word.toNat / 2 ^ field.offset) with zero | one
  · simp [zero]
  · simp [one]

/-- The number of a page stands in all bits from the twelfth on. -/
theorem get_pageNumber (word : UInt32) : pageNumber.get word = word.toNat >>> 12 := by
  have small := word.toNat_lt
  rw [Nat.shiftRight_eq_div_pow]
  exact Nat.mod_eq_of_lt (Nat.div_lt_of_lt_mul small)

/-- The number of a page with a lower bit set beside it. -/
theorem toNat_mark_put_pageNumber (field : BitField) (single : field.width = 1)
    (low : field.offset < 12) {number : Nat} (small : number < 0x100000) :
    (field.mark true (pageNumber.put number 0)).toNat = number <<< 12 ||| 1 <<< field.offset := by
  have upper : (pageNumber.put number 0).toNat = number * 2 ^ 12 := by
    rw [toNat_put, show pageNumber.offset = 12 from rfl, show pageNumber.width = 20 from rfl,
      show weight 20 = 0x100000 from rfl, Nat.mod_eq_of_lt small]
    simp [weight]
  have below : 2 ^ field.offset < 2 ^ 12 := Nat.pow_lt_pow_right (by decide) low
  have clear : number * 2 ^ 12 % 2 ^ field.offset = 0 :=
    Nat.mod_eq_zero_of_dvd (Nat.dvd_mul_left_of_dvd (Nat.pow_dvd_pow 2 (Nat.le_of_lt low)) number)
  have kept : number * 2 ^ 12 / 2 ^ (field.offset + 1) * 2 ^ (field.offset + 1) = number * 2 ^ 12 :=
    Nat.div_mul_cancel (Nat.dvd_mul_left_of_dvd (Nat.pow_dvd_pow 2 low) number)
  have marked := field.toNat_put 1 (pageNumber.put number 0)
  simp only [single, upper, weight, Nat.pow_eq] at marked
  rw [clear, kept] at marked
  rw [shiftLeft_lor_eq (by simpa [Nat.shiftLeft_eq, weight] using below), Nat.shiftLeft_eq, mark]
  simp only [Bool.toNat_true, marked, weight, Nat.pow_eq]
  omega

/-- What an entry names is told by one bit and by the number of a page above it. -/
theorem ite_test_eq_some_iff (field : BitField) (single : field.width = 1) {word : UInt32}
    {named : Frame} :
    (if field.test word then some (Page.ofNumber (pageNumber.get word)) else none) = some named ↔
      word.toNat.testBit field.offset = true ∧ named.number = word.toNat >>> 12 := by
  have small : word.toNat >>> 12 < 0x100000 := by
    rw [← get_pageNumber]
    exact get_lt pageNumber word
  rw [test_eq_testBit single, get_pageNumber]
  simp only [Option.ite_none_right_eq_some, Option.some.injEq, Page.ext_iff,
    Page.number_ofNumber_of_lt small]
  exact and_congr_right fun _ => eq_comm

end BitField

/-! ## One word of RAM -/

namespace Ram

/-- One word of RAM was overwritten, its lowest byte first, and nothing else has changed. -/
structure Overwritten (start : Nat) (value : UInt32) (ram ram' : Ram) : Prop where
  window : ram'.window = ram.window
  size : ram'.size = ram.size
  inside : ∀ k < 4, ram'.byte (start + k) = UInt8.ofNat (value.toNat >>> (8 * k))
  outside : ∀ n, n < start ∨ start + 4 ≤ n → ram'.byte n = ram.byte n

theorem overwritten_setWord (ram : Ram) {start : Nat} (value : UInt32)
    (within : start + 4 ≤ ram.size) :
    Overwritten start value ram (ram.setWord start value) where
  window := window_setWord _ _ _
  size := size_setWord _ _ _
  inside := by
    intro k small
    have isByte : k = 0 ∨ k = 1 ∨ k = 2 ∨ k = 3 := by omega
    have last : start + 3 < ram.size := by omega
    rcases isByte with rfl | rfl | rfl | rfl
    · simp [setWord, byte_setByte, show start < ram.size by omega]
    · simp [setWord, byte_setByte, show start + 1 < ram.size by omega, Nat.shiftRight_eq_div_pow]
    · simp [setWord, byte_setByte, show start + 2 < ram.size by omega, Nat.shiftRight_eq_div_pow]
    · simp [setWord, byte_setByte, last, Nat.shiftRight_eq_div_pow]
  outside := fun _ outside => byte_setWord_of_outside ram value outside

end Ram

/-! ## Indices and offsets of addresses -/

namespace VirtAddr

/-- The two indices of an address and its offset. -/
def split (address : VirtAddr) : DirectoryIndex × TableIndex × PageOffset :=
  (.ofAddr address, .ofAddr address, address.offset)

/-- The address with some indices and an offset. -/
def join (parts : DirectoryIndex × TableIndex × PageOffset) : VirtAddr :=
  (VirtPage.ofIndices parts.1 parts.2.1).join parts.2.2

theorem join_split : Function.LeftInverse join split := by
  intro address
  rw [join, split, DirectoryIndex.ofAddr, TableIndex.ofAddr, VirtPage.ofIndices_ofPage,
    Address.join_split]

theorem split_join : Function.RightInverse join split := by
  rintro ⟨directory, table, offset⟩
  rw [join, split, DirectoryIndex.ofAddr, TableIndex.ofAddr, Page.page_join, Page.offset_join,
    DirectoryIndex.ofPage_ofIndices, TableIndex.ofPage_ofIndices]

theorem offset_eq_bits (address : VirtAddr) : address.offset.val = address.toNat &&& 0xFFF :=
  (Nat.and_two_pow_sub_one_eq_mod _ 12).symm

theorem number_ofIndices_eq_bits (directory : DirectoryIndex) (table : TableIndex) :
    (VirtPage.ofIndices directory table).number =
      directory.toFin.val <<< 10 ||| table.toFin.val := by
  rw [BitField.shiftLeft_lor_eq (show table.toFin.val < BitField.weight 10 from table.toFin.isLt)]
  rfl

theorem toNat_join_eq_bits (page : VirtPage) (offset : PageOffset) :
    (page.join offset).toNat = page.number <<< 12 ||| offset.val := by
  rw [BitField.shiftLeft_lor_eq (show offset.val < BitField.weight 12 from offset.isLt)]
  rfl

end VirtAddr

/-! ## The two levels -/

/-- Which of the two kinds of tables a frame is read as. -/
inductive Level where
  | directory
  | table

namespace Level

variable {ε : Type}

/-- The place of an address in a table. -/
def index : Level → VirtAddr → Fin 1024
  | .directory, address => (DirectoryIndex.ofAddr address).toFin
  | .table, address => (TableIndex.ofAddr address).toFin

/-- The bits of an address that form its index. -/
def mask : Level → Nat
  | .directory => Layout.directoryMask
  | .table => Layout.tableMask

/-- The lowest of these bits. -/
def shift : Level → Nat
  | .directory => Layout.directoryShift
  | .table => Layout.pageShift

/-- The bit of an entry that is set if the entry names a frame. -/
def flag : Level → Nat
  | .directory => 0
  | .table => 1

/-- The word of the entry that names a frame. -/
def word : Level → Frame → UInt32
  | .directory, named => (DirectoryEntry.table named).bits
  | .table, named => (TableEntry.mapping named).bits

/-- The frame that the entry in a word names, if any. -/
def frame? : Level → UInt32 → Option Frame
  | .directory, word => DirectoryEntry.table? ⟨word⟩
  | .table, word => TableEntry.frame? ⟨word⟩

/-- Read the entry of an address. -/
def read : Level → Frame → VirtAddr → Operation ε Ram UInt32
  | .directory, frame, address => do return (← Ram.readDirectory frame (.ofAddr address)).bits
  | .table, frame, address => do return (← Ram.readTable frame (.ofAddr address)).bits

/-- Let the entry of an address name a frame. -/
def write : Level → Frame → VirtAddr → Frame → Operation ε Ram Unit
  | .directory, frame, address, named => Ram.writeDirectory frame (.ofAddr address) (.table named)
  | .table, frame, address, named => Ram.writeTable frame (.ofAddr address) (.mapping named)

/-- List the entries that name a frame. -/
def list : Level → Frame → Operation ε Ram (List (Fin 1024 × Frame))
  | .directory, frame => do
    return (← Ram.readTables frame).map fun entry => (entry.1.toFin, entry.2)
  | .table, frame => do
    return (← Ram.readMappings frame).map fun entry => (entry.1.toFin, entry.2)

/-! ### Indices -/

/-- An index is a run of bits of its address. -/
theorem index_eq_bits (level : Level) (address : VirtAddr) :
    (level.index address).val = (address.toNat &&& level.mask) >>> level.shift := by
  have small := address.lt
  cases level with
  | directory =>
    have cut := BitField.land_shiftRight_eq address.toNat 10 22
    rw [show BitField.weight 22 = 0x400000 from rfl, show BitField.weight 10 = 1024 from rfl] at cut
    refine Eq.trans ?_ cut.symm
    simp only [index, DirectoryIndex.ofAddr, DirectoryIndex.ofPage, Address.page]
    omega
  | table => exact (BitField.land_shiftRight_eq address.toNat 10 12).symm

/-! ### Entries -/

/-- An entry that names a frame is the frame's number above the flag, and nothing else. -/
theorem toNat_word (level : Level) (named : Frame) :
    (level.word named).toNat = named.number <<< 12 ||| 1 <<< level.flag := by
  cases level with
  | directory =>
    exact BitField.toNat_mark_put_pageNumber DirectoryEntry.presentField rfl (by decide) named.lt
  | table =>
    exact BitField.toNat_mark_put_pageNumber TableEntry.presentField rfl (by decide) named.lt

/-- Whether an entry names a frame is told by its flag, and which one by its upper bits. -/
theorem frame?_eq_some_iff {level : Level} {word : UInt32} {named : Frame} :
    level.frame? word = some named ↔
      word.toNat.testBit level.flag = true ∧ named.number = word.toNat >>> 12 := by
  cases level with
  | directory => exact BitField.ite_test_eq_some_iff DirectoryEntry.presentField rfl
  | table => exact BitField.ite_test_eq_some_iff TableEntry.presentField rfl

@[simp]
theorem frame?_word (level : Level) (named : Frame) :
    level.frame? (level.word named) = some named := by
  cases level with
  | directory => exact DirectoryEntry.table?_table named
  | table => exact TableEntry.frame?_mapping named

/-- The places of a frame whose entries name a frame, and these frames. -/
def entries (level : Level) (ram : Ram) (frame : Frame) : List (Fin 1024 × Frame) :=
  (List.finRange 1024).filterMap fun place =>
    (level.frame? (ram.frameWord frame place)).map fun named => (place, named)

variable {level : Level} {ram : Ram} {frame : Frame}

theorem pairwise_entries (level : Level) (ram : Ram) (frame : Frame) :
    (level.entries ram frame).Pairwise fun entry other => entry.1 < other.1 := by
  refine (List.pairwise_lt_finRange 1024).filterMap _ ?_
  intro place other before entry isEntry otherEntry isOtherEntry
  obtain ⟨_, _, rfl⟩ := Option.map_eq_some_iff.mp isEntry
  obtain ⟨_, _, rfl⟩ := Option.map_eq_some_iff.mp isOtherEntry
  exact before

theorem mem_entries_iff {place : Fin 1024} {named : Frame} :
    (place, named) ∈ level.entries ram frame ↔
      (ram.frameWord frame place).toNat.testBit level.flag = true ∧
        named.number = (ram.frameWord frame place).toNat >>> 12 := by
  rw [← frame?_eq_some_iff, entries, List.mem_filterMap]
  constructor
  · rintro ⟨_, _, found⟩
    obtain ⟨_, isNamed, same⟩ := Option.map_eq_some_iff.mp found
    cases same
    exact isNamed
  · intro isNamed
    exact ⟨place, List.mem_finRange place, by rw [isNamed, Option.map_some]⟩

/-! ### Accesses -/

open Operation

theorem run_read (admitted : ram.Admitted frame) (level : Level) (address : VirtAddr) :
    (level.read frame address : Operation ε Ram UInt32).run ram =
      ⟨.value (ram.frameWord frame (level.index address)), ram, []⟩ := by
  cases level with
  | directory =>
    rw [read, run_bind_of_value (Ram.run_readDirectory admitted), run_pure, List.nil_append]
    rfl
  | table =>
    rw [read, run_bind_of_value (Ram.run_readTable admitted), run_pure, List.nil_append]
    rfl

theorem run_write (admitted : ram.Admitted frame) (level : Level) (address : VirtAddr)
    (named : Frame) :
    (level.write frame address named : Operation ε Ram Unit).run ram =
      ⟨.value (), ram.setWord (frame.base.toNat + 4 * (level.index address).val)
        (level.word named), []⟩ := by
  cases level with
  | directory => exact Ram.run_writeDirectory admitted _
  | table => exact Ram.run_writeTable admitted _

/-- Listing by the indices of a level is listing by the places they stand for. -/
theorem map_filterMap_indices {ι : Type} {index : Fin 1024 → ι} {place : ι → Fin 1024}
    (place_index : ∀ n, place (index n) = n) (named? : ι → Option Frame) :
    (((List.finRange 1024).map index).filterMap fun i =>
        (named? i).map fun named => (i, named)).map (fun entry => (place entry.1, entry.2)) =
      (List.finRange 1024).filterMap fun n => (named? (index n)).map fun named => (n, named) := by
  rw [List.filterMap_map, List.map_filterMap]
  refine List.filterMap_congr fun n _ => ?_
  simp only [Function.comp_apply, Option.map_map, Function.comp_def, place_index]

theorem map_tables_eq_entries (ram : Ram) (frame : Frame) :
    (ram.tables frame).map (fun entry => (entry.1.toFin, entry.2)) =
      directory.entries ram frame :=
  map_filterMap_indices (fun _ => rfl) _

theorem map_mappings_eq_entries (ram : Ram) (frame : Frame) :
    (ram.mappings frame).map (fun entry => (entry.1.toFin, entry.2)) =
      table.entries ram frame :=
  map_filterMap_indices (fun _ => rfl) _

theorem run_list (admitted : ram.Admitted frame) (level : Level) :
    (level.list frame : Operation ε Ram (List (Fin 1024 × Frame))).run ram =
      ⟨.value (level.entries ram frame), ram, []⟩ := by
  cases level with
  | directory =>
    rw [list, run_bind_of_value (Ram.run_readTables admitted), run_pure, List.nil_append,
      map_tables_eq_entries]
  | table =>
    rw [list, run_bind_of_value (Ram.run_readMappings admitted), run_pure, List.nil_append,
      map_mappings_eq_entries]

/-! ## What is promised -/

/-- What a frame promises that is read and written as a table of a level. -/
structure Worded (level : Level) (ram : Ram) (frame : Frame) : Prop where
  /-- The entry of an address is the word at its place. -/
  reads : ∀ address, (level.read frame address : Operation Empty Ram UInt32).run ram =
    ⟨.value (ram.frameWord frame (level.index address)), ram, []⟩
  /-- Letting the entry of an address name a frame overwrites this word and no other byte. The
  addresses with the same index then read the new entry, and all others read what they read
  before. -/
  writes : ∀ address named, ∃ ram',
    (level.write frame address named : Operation Empty Ram Unit).run ram =
        ⟨.value (), ram', []⟩ ∧
      Ram.Overwritten (frame.base.toNat + 4 * (level.index address).val) (level.word named)
        ram ram' ∧
      ∀ other, (level.read frame other : Operation Empty Ram UInt32).run ram' =
        ⟨.value (if level.index other = level.index address then level.word named
          else ram.frameWord frame (level.index other)), ram', []⟩
  /-- The new entry consists of the flag and of the frame's number, and names the frame. -/
  packs : ∀ named, (level.word named).toNat = named.number <<< 12 ||| 1 <<< level.flag ∧
    level.frame? (level.word named) = some named
  /-- Any word names a frame if its flag is set, and then the one in its upper bits. -/
  names : ∀ word named, level.frame? word = some named ↔
    word.toNat.testBit level.flag = true ∧ named.number = word.toNat >>> 12
  /-- Listed are the places whose word has the flag set, each once and in ascending order, with
  the frame in the upper bits. -/
  lists : ∃ entries, (level.list frame : Operation Empty Ram (List (Fin 1024 × Frame))).run ram =
        ⟨.value entries, ram, []⟩ ∧
      (entries.Pairwise fun entry other => entry.1 < other.1) ∧
      ∀ place named, (place, named) ∈ entries ↔
        (ram.frameWord frame place).toNat.testBit level.flag = true ∧
          named.number = (ram.frameWord frame place).toNat >>> 12

end Level

/-- Addresses are split into their two indices and their offset, by their bits from the top. -/
structure VirtAddr.Splits : Prop where
  bijective : Function.Bijective split
  leftInverse : Function.LeftInverse join split
  rightInverse : Function.RightInverse join split
  indices : ∀ (level : Level) (address : VirtAddr),
    (level.index address).val = (address.toNat &&& level.mask) >>> level.shift
  offset : ∀ address : VirtAddr, address.offset.val = address.toNat &&& 0xFFF
  page : ∀ (directory : DirectoryIndex) (table : TableIndex),
    (VirtPage.ofIndices directory table).number = directory.toFin.val <<< 10 ||| table.toFin.val
  address : ∀ (page : VirtPage) (offset : PageOffset),
    (page.join offset).toNat = page.number <<< 12 ||| offset.val

/-- Whatever a frame holds, it is 1024 words when it is read and written as a table, and the
indices and the offset of an address are one-to-one with it. -/
theorem worded_and_splits {ram : Ram} {frame : Frame}
    (within : frame.number * 4096 + 4096 ≤ ram.size) (admitted : ram.Admitted frame) :
    (∀ level : Level, level.Worded ram frame) ∧ VirtAddr.Splits := by
  refine ⟨fun level => ?_, ?_⟩
  · exact {
      reads := Level.run_read admitted level
      writes := by
        intro address named
        have inFrame : frame.base.toNat + 4 * (level.index address).val + 4 ≤ ram.size := by
          have small := (level.index address).isLt
          simp only [Page.base]
          omega
        have overwritten := Ram.overwritten_setWord ram (level.word named) inFrame
        refine ⟨_, Level.run_write admitted level address named, overwritten, fun other => ?_⟩
        have stillAdmitted :=
          (Ram.admitted_iff_of_eq overwritten.window overwritten.size).mpr admitted
        rw [Level.run_read stillAdmitted, Ram.frameWord_setWord within]
      packs := fun named => ⟨level.toNat_word named, level.frame?_word named⟩
      names := fun _ _ => Level.frame?_eq_some_iff
      lists := ⟨level.entries ram frame, Level.run_list admitted level,
        level.pairwise_entries ram frame, fun _ _ => Level.mem_entries_iff⟩ }
  · exact {
      bijective := ⟨VirtAddr.join_split.injective, VirtAddr.split_join.surjective⟩
      leftInverse := VirtAddr.join_split
      rightInverse := VirtAddr.split_join
      indices := Level.index_eq_bits
      offset := VirtAddr.offset_eq_bits
      page := VirtAddr.number_ofIndices_eq_bits
      address := VirtAddr.toNat_join_eq_bits }

/-- Two frames of RAM. The first word of the second frame has all low bits set but the lowest, the
last word has all of them set. -/
def rough : Ram :=
  ((Ram.zeroed .bounded 2).setWord 4096 0x5FFE).setWord 8188 0xABCDEFFF

/-- The first word of a frame names a frame when it is read as an entry of a table, and none when
it is read as an entry of a directory; the last word names one either way. -/
theorem worded_and_splits_rough :
    let frame : Frame := .ofNumber 1
    (frame.number * 4096 + 4096 ≤ rough.size ∧ rough.Admitted frame) ∧
      ((∀ level : Level, level.Worded rough frame) ∧ VirtAddr.Splits) ∧
      (∀ named, Level.directory.frame? (rough.frameWord frame 0) ≠ some named) ∧
      Level.table.frame? (rough.frameWord frame 0) = some (.ofNumber 5) ∧
      ∀ level : Level, level.frame? (rough.frameWord frame 1023) = some (.ofNumber 0xABCDE) := by
  intro frame
  have size : rough.size = 8192 := by
    simp [rough, Ram.size_zeroed]
  have within : frame.number * 4096 + 4096 ≤ rough.size := by
    rw [size]
    decide
  have admitted : rough.Admitted frame := by
    refine Ram.admitted_of_bounded ?_ within
    rw [rough, Ram.window_setWord, Ram.window_setWord, Ram.zeroed]
  have worded := worded_and_splits within admitted
  have first : rough.frameWord frame 0 = 0x5FFE := by
    rw [rough, Ram.frameWord, show frame.base.toNat + 4 * (0 : Fin 1024).val = 4096 by decide,
      Ram.word_setWord_of_apart _ _ (by decide),
      Ram.word_setWord _ _ _ (by simp [Ram.size_zeroed])]
  have last : rough.frameWord frame 1023 = 0xABCDEFFF := by
    rw [rough, Ram.frameWord, show frame.base.toNat + 4 * (1023 : Fin 1024).val = 8188 by decide,
      Ram.word_setWord _ _ _ (by simp [Ram.size_zeroed])]
  refine ⟨⟨within, admitted⟩, worded, fun named => ?_, ?_, fun level => ?_⟩
  · rw [first, Ne, (worded.1 .directory).names]
    exact fun both => absurd both.1 (by decide)
  · rw [first, (worded.1 .table).names]
    decide
  · rw [last, (worded.1 level).names]
    cases level with
    | directory => decide
    | table => decide

end PagedMemory
