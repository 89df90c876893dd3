import PagedMemory.Panic

/-!
# Indices into the two levels of tables

The ten high bits of a virtual address choose an entry of the directory, the
next ten an entry of the second-level table. A page is exactly such a pair:
`join_split` and `split_join`.
-/

namespace PagedMemory

/-- A place in a page directory. -/
structure DirectoryIndex where
  toFin : Fin 1024
deriving DecidableEq

/-- A place in a second-level table. -/
structure TableIndex where
  toFin : Fin 1024
deriving DecidableEq

namespace DirectoryIndex

/-- The index `n`, which has to lie within a directory. -/
def ofNat (n : Nat) : Except Panic DirectoryIndex :=
  if h : n < 1024 then .ok ⟨n, h⟩ else .error .directoryIndexTooLarge

/-- The directory index of a page. -/
def ofPage (page : VirtPage) : DirectoryIndex :=
  ⟨page.number / 1024, by have := page.lt; omega⟩

/-- The directory index of an address. -/
def ofAddr (address : VirtAddr) : DirectoryIndex :=
  ofPage address.page

/-- Every index, in ascending order. -/
def all : List DirectoryIndex :=
  (List.finRange 1024).map .mk

end DirectoryIndex

namespace TableIndex

/-- The index `n`, which has to lie within a table. -/
def ofNat (n : Nat) : Except Panic TableIndex :=
  if h : n < 1024 then .ok ⟨n, h⟩ else .error .tableIndexTooLarge

/-- The table index of a page. -/
def ofPage (page : VirtPage) : TableIndex :=
  ⟨page.number % 1024, Nat.mod_lt _ (by decide)⟩

/-- The table index of an address. -/
def ofAddr (address : VirtAddr) : TableIndex :=
  ofPage address.page

/-- The first index of a table. -/
def first : TableIndex :=
  ⟨0⟩

/-- Every index, in ascending order. -/
def all : List TableIndex :=
  (List.finRange 1024).map .mk

end TableIndex

/-- The page that a directory index and a table index name. -/
def VirtPage.ofIndices (dir : DirectoryIndex) (table : TableIndex) : VirtPage :=
  ⟨dir.toFin.val * 1024 + table.toFin.val, by
    have := dir.toFin.isLt; have := table.toFin.isLt; omega⟩

@[simp]
theorem VirtPage.ofIndices_ofPage (page : VirtPage) :
    VirtPage.ofIndices (.ofPage page) (.ofPage page) = page := by
  ext
  simp only [ofIndices, DirectoryIndex.ofPage, TableIndex.ofPage]
  omega

@[simp]
theorem DirectoryIndex.ofPage_ofIndices (dir : DirectoryIndex) (table : TableIndex) :
    DirectoryIndex.ofPage (VirtPage.ofIndices dir table) = dir := by
  have := table.toFin.isLt
  rcases dir with ⟨dir, dirLt⟩
  simp only [ofPage, VirtPage.ofIndices, mk.injEq, Fin.mk.injEq]
  omega

@[simp]
theorem TableIndex.ofPage_ofIndices (dir : DirectoryIndex) (table : TableIndex) :
    TableIndex.ofPage (VirtPage.ofIndices dir table) = table := by
  rcases table with ⟨table, tableLt⟩
  simp only [ofPage, VirtPage.ofIndices, mk.injEq, Fin.mk.injEq]
  omega

theorem VirtPage.eq_ofIndices_iff {page : VirtPage} {dir : DirectoryIndex} {table : TableIndex} :
    page = VirtPage.ofIndices dir table ↔
      DirectoryIndex.ofPage page = dir ∧ TableIndex.ofPage page = table := by
  constructor
  · rintro rfl
    exact ⟨DirectoryIndex.ofPage_ofIndices dir table, TableIndex.ofPage_ofIndices dir table⟩
  · rintro ⟨rfl, rfl⟩
    exact (VirtPage.ofIndices_ofPage page).symm

/-- The index is the same for all addresses of a page. -/
theorem DirectoryIndex.ofAddr_base (address : VirtAddr) :
    DirectoryIndex.ofAddr address.page.base = .ofAddr address := by
  rw [ofAddr, ofAddr, Page.page_base]

end PagedMemory
