import PagedMemory.Proofs.Coremap.Accounts
import PagedMemory.Proofs.Coremap.Sound
import PagedMemory.Proofs.Paging.Views
import PagedMemory.Space.Lifecycle

/-!
# What a space consists of

The frames of a space are its directory, the tables that the directory names,
the blocks of its segments, and the single frames that its tables map pages to.
Each of these is a slot, and RAM together with the record of the space says
which run of frames the slot names. A space is held in memory if its slots are
the account of its owner and its segments are mapped linearly.
-/

namespace PagedMemory

/-! ## Segments -/

/-- Which segment of a space. -/
inductive SegmentName where
  /-- The segment of the region that was defined as number `i`. -/
  | region (i : Nat)
  | stack
deriving DecidableEq

namespace AddressSpace

/-- The segment of a name, if it is backed. -/
def segment? (space : AddressSpace) : SegmentName → Option Segment
  | .region i => space.regions[i]?.bind Region.segment?
  | .stack => space.stack.map fun frame => ⟨stackBase, frame, Layout.stackPages⟩

/-- The regions of a space are few, not empty, below the stack and apart. -/
structure Shaped (space : AddressSpace) : Prop where
  few : space.regions.length ≤ Layout.maxRegions
  nonempty : ∀ region ∈ space.regions, 0 < region.pages
  below : ∀ region ∈ space.regions, region.page.number + region.pages ≤ stackBase.number
  apart : space.regions.Pairwise fun region other =>
    region.page.number + region.pages ≤ other.page.number ∨
      other.page.number + other.pages ≤ region.page.number

/-- What the segments of a space are for: the pages of its regions and of its stack. -/
def Spans (space : AddressSpace) (address : VirtAddr) : Prop :=
  (∃ region ∈ space.regions, region.page.base.toNat ≤ address.toNat ∧
    address.toNat < region.page.base.toNat + region.pages * Layout.pageSize) ∨
  Layout.userStack - Layout.stackPages * Layout.pageSize ≤ address.toNat ∧
    address.toNat < Layout.userStack

end AddressSpace

theorem stackBase_number : stackBase.number = 0x7FFEE :=
  rfl

variable {space : AddressSpace} {name name' : SegmentName} {g g' : Segment} {frame : Frame}

theorem segment?_region_eq_some_iff {i : Nat} :
    space.segment? (.region i) = some g ↔
      ∃ region, space.regions[i]? = some region ∧ region.backing = some g.frame ∧
        region.page = g.page ∧ region.pages = g.pages := by
  rcases g with ⟨page, frame, pages⟩
  simp only [AddressSpace.segment?, Region.segment?, Option.bind_eq_some_iff,
    Option.map_eq_some_iff, Segment.mk.injEq]
  constructor
  · rintro ⟨region, found, start, backed, rfl, rfl, rfl⟩
    exact ⟨region, found, backed, rfl, rfl⟩
  · rintro ⟨region, found, backed, rfl, rfl⟩
    exact ⟨region, found, frame, backed, rfl, rfl, rfl⟩

/-- A region that is backed has a segment. -/
theorem exists_segment?_region {i : Nat} {region : Region}
    (isRegion : space.regions[i]? = some region) (backed : region.backing.isSome) :
    ∃ frame, region.backing = some frame ∧
      space.segment? (.region i) = some ⟨region.page, frame, region.pages⟩ := by
  obtain ⟨frame, isBacking⟩ := Option.isSome_iff_exists.mp backed
  exact ⟨frame, isBacking,
    segment?_region_eq_some_iff.mpr ⟨region, isRegion, isBacking, rfl, rfl⟩⟩

/-- The segment of the stack is for its pages. -/
theorem AddressSpace.spans_stack {k : Nat} (small : k < Layout.stackPages) :
    space.Spans (stackBase.plus k).base := by
  have number : (stackBase.plus k).number = stackBase.number + k :=
    Page.number_ofNumber_of_lt (Nat.lt_trans (Nat.add_lt_add_left small _) (by decide))
  right
  simp only [Page.base, number, stackBase_number, Layout.userStack, Layout.directMapBase,
    Layout.stackPages, Layout.pageSize] at small ⊢
  omega

namespace AddressSpace.Shaped

/-- The list of segments holds exactly the segments that have a name. -/
theorem mem_segments_iff (shaped : space.Shaped) :
    g ∈ space.segments.toList ↔ ∃ name, space.segment? name = some g := by
  simp only [SegmentTable.toList, segments, List.mem_filterMap]
  constructor
  · rintro ⟨found, mem, rfl⟩
    simp only [List.mem_cons, List.not_mem_nil, or_false] at mem
    rcases mem with first | second | stack
    · exact ⟨.region 0, first.symm⟩
    · exact ⟨.region 1, second.symm⟩
    · exact ⟨.stack, stack.symm⟩
  · rintro ⟨name, found⟩
    refine ⟨some g, ?_, rfl⟩
    simp only [List.mem_cons, List.not_mem_nil, or_false]
    cases name with
    | stack => exact .inr (.inr found.symm)
    | region i =>
      obtain ⟨region, inList, _⟩ := segment?_region_eq_some_iff.mp found
      have low : i < space.regions.length := (List.getElem?_eq_some_iff.mp inList).1
      have few : space.regions.length ≤ 2 := shaped.few
      obtain rfl | rfl : i = 0 ∨ i = 1 := by omega
      · exact .inl found.symm
      · exact .inr (.inl found.symm)

/-- A frame is backed if a segment that has a name backs it. -/
theorem backs_iff (shaped : space.Shaped) :
    space.segments.backs frame = true ↔
      ∃ name g, space.segment? name = some g ∧ g.backs frame = true := by
  simp only [SegmentTable.backs, List.any_eq_true, shaped.mem_segments_iff]
  constructor
  · rintro ⟨g, ⟨name, found⟩, backs⟩
    exact ⟨name, g, found, backs⟩
  · rintro ⟨name, g, found, backs⟩
    exact ⟨g, ⟨name, found⟩, backs⟩

theorem nonempty_segment (shaped : space.Shaped) (found : space.segment? name = some g) :
    0 < g.pages := by
  cases name with
  | stack =>
    obtain ⟨_, _, rfl⟩ := Option.map_eq_some_iff.mp found
    exact show 0 < Layout.stackPages by decide
  | region i =>
    obtain ⟨region, inList, _, _, same⟩ := segment?_region_eq_some_iff.mp found
    exact same ▸ shaped.nonempty region (List.mem_of_getElem? inList)

/-- Segments end where the stack ends. -/
theorem segment_below (shaped : space.Shaped) (found : space.segment? name = some g) :
    g.page.number + g.pages ≤ 0x80000 := by
  cases name with
  | stack =>
    obtain ⟨_, _, rfl⟩ := Option.map_eq_some_iff.mp found
    exact show stackBase.number + Layout.stackPages ≤ 0x80000 by decide
  | region i =>
    obtain ⟨region, inList, _, samePage, same⟩ := segment?_region_eq_some_iff.mp found
    have below := shaped.below region (List.mem_of_getElem? inList)
    rw [samePage, same, stackBase_number] at below
    omega

/-- The pages of a segment follow each other. -/
theorem number_segment_page (shaped : space.Shaped) (found : space.segment? name = some g) {k : Nat}
    (small : k < g.pages) : (g.page.plus k).number = g.page.number + k := by
  have below := shaped.segment_below found
  exact Page.number_ofNumber_of_lt (by omega)

/-- Two places of a segment are two pages. -/
theorem segment_page_ne (shaped : space.Shaped) (found : space.segment? name = some g) {k k' : Nat}
    (small : k < g.pages) (small' : k' < g.pages) (different : k ≠ k') :
    g.page.plus k ≠ g.page.plus k' := by
  intro same
  have numbers := congrArg Page.number same
  rw [shaped.number_segment_page found small, shaped.number_segment_page found small'] at numbers
  omega

/-- The segment of a region is for its pages. -/
theorem spans_region (shaped : space.Shaped) {region : Region} (inList : region ∈ space.regions)
    {k : Nat} (small : k < region.pages) : space.Spans (region.page.plus k).base := by
  have below := shaped.below region inList
  rw [stackBase_number] at below
  have number : (region.page.plus k).number = region.page.number + k :=
    Page.number_ofNumber_of_lt (by omega)
  refine .inl ⟨region, inList, ?_⟩
  simp only [Page.base, number, Layout.pageSize]
  omega

/-- A segment is for its pages. -/
theorem spans_segment (shaped : space.Shaped) (found : space.segment? name = some g) {k : Nat}
    (small : k < g.pages) : space.Spans (g.page.plus k).base := by
  cases name with
  | stack =>
    obtain ⟨_, _, rfl⟩ := Option.map_eq_some_iff.mp found
    exact spans_stack small
  | region i =>
    obtain ⟨region, inList, _, samePage, same⟩ := segment?_region_eq_some_iff.mp found
    rw [← samePage]
    exact shaped.spans_region (List.mem_of_getElem? inList) (same ▸ small)

/-- No page belongs to two segments. -/
theorem segments_apart (shaped : space.Shaped) (found : space.segment? name = some g)
    (found' : space.segment? name' = some g') (different : name ≠ name') :
    g.page.number + g.pages ≤ g'.page.number ∨ g'.page.number + g'.pages ≤ g.page.number := by
  have regions {i j : Nat} {g g' : Segment} (found : space.segment? (.region i) = some g)
      (found' : space.segment? (.region j) = some g') (less : i < j) :
      g.page.number + g.pages ≤ g'.page.number ∨ g'.page.number + g'.pages ≤ g.page.number := by
    obtain ⟨region, inList, _, samePage, same⟩ := segment?_region_eq_some_iff.mp found
    obtain ⟨region', inList', _, samePage', same'⟩ := segment?_region_eq_some_iff.mp found'
    obtain ⟨low, rfl⟩ := List.getElem?_eq_some_iff.mp inList
    obtain ⟨low', rfl⟩ := List.getElem?_eq_some_iff.mp inList'
    have apart := List.pairwise_iff_getElem.mp shaped.apart i j low low' less
    rwa [samePage, same, samePage', same'] at apart
  have withStack {i : Nat} {g g' : Segment} (found : space.segment? (.region i) = some g)
      (found' : space.segment? .stack = some g') : g.page.number + g.pages ≤ g'.page.number := by
    obtain ⟨region, inList, _, samePage, same⟩ := segment?_region_eq_some_iff.mp found
    obtain ⟨_, _, rfl⟩ := Option.map_eq_some_iff.mp found'
    have below := shaped.below region (List.mem_of_getElem? inList)
    rwa [samePage, same] at below
  cases name with
  | region i =>
    cases name' with
    | region j =>
      rcases Nat.lt_or_gt_of_ne (fun same => different (congrArg SegmentName.region same)) with
        less | more
      · exact regions found found' less
      · exact (regions found' found more).symm
    | stack => exact .inl (withStack found found')
  | stack =>
    cases name' with
    | region j => exact .inr (withStack found' found)
    | stack => exact absurd rfl different

theorem segment_injective (shaped : space.Shaped) (found : space.segment? name = some g)
    (found' : space.segment? name' = some g) : name = name' := by
  by_contra different
  have apart := shaped.segments_apart found found' different
  have nonempty := shaped.nonempty_segment found
  omega

end AddressSpace.Shaped

/-! ## Slots -/

/-- A part of a space that a run of frames may be set aside for. -/
inductive Slot where
  /-- The page directory. -/
  | directory
  /-- The table that the directory names at an index. -/
  | table (i : DirectoryIndex)
  /-- The block of a segment. -/
  | segment (name : SegmentName)
  /-- A page that lies in no segment's block. -/
  | page (page : VirtPage)
deriving DecidableEq

namespace AddressSpace

/-- The frames that a slot of a space names, as RAM and the record of the space
have it. -/
def extent? (space : AddressSpace) (ram : Ram) : Slot → Option Extent
  | .directory => some (.ofFrame space.directory)
  | .table i => (ram.table? space.directory i).map .ofFrame
  | .segment name => (space.segment? name).map fun g => ⟨g.frame.number, g.pages⟩
  | .page page => (ram.page? space.directory page).bind fun frame =>
    if space.segments.backs frame then none else some (.ofFrame frame)

variable (space : AddressSpace) (ram : Ram)

theorem extent?_directory : space.extent? ram .directory = some (.ofFrame space.directory) :=
  rfl

theorem extent?_table (i : DirectoryIndex) :
    space.extent? ram (.table i) = (ram.table? space.directory i).map .ofFrame :=
  rfl

theorem extent?_segment (name : SegmentName) :
    space.extent? ram (.segment name) =
      (space.segment? name).map fun g => ⟨g.frame.number, g.pages⟩ :=
  rfl

theorem extent?_page (page : VirtPage) :
    space.extent? ram (.page page) =
      (ram.page? space.directory page).bind fun frame =>
        if space.segments.backs frame then none else some (.ofFrame frame) :=
  rfl

variable {space ram} {ram' : Ram}

theorem extent?_eq (tables : ram'.table? space.directory = ram.table? space.directory)
    (pages : ram'.page? space.directory = ram.page? space.directory) :
    space.extent? ram' = space.extent? ram := by
  funext slot
  cases slot with
  | directory => rw [extent?_directory, extent?_directory]
  | table i => rw [extent?_table, extent?_table, tables]
  | segment name => rw [extent?_segment, extent?_segment]
  | page page => rw [extent?_page, extent?_page, pages]

/-- One more table is one more run. -/
theorem extent?_of_table {i : DirectoryIndex} {table : Frame}
    (tables : ram'.table? space.directory =
      Function.update (ram.table? space.directory) i (some table))
    (pages : ram'.page? space.directory = ram.page? space.directory) :
    space.extent? ram' =
      Function.update (space.extent? ram) (.table i) (some (.ofFrame table)) := by
  funext slot
  cases slot with
  | directory => rw [Function.update_of_ne (by simp), extent?_directory, extent?_directory]
  | segment name => rw [Function.update_of_ne (by simp), extent?_segment, extent?_segment]
  | page page => rw [Function.update_of_ne (by simp), extent?_page, extent?_page, pages]
  | table j =>
    by_cases same : j = i
    · subst same
      rw [Function.update_self, extent?_table, tables, Function.update_self, Option.map_some]
    · rw [Function.update_of_ne (by simpa using same), extent?_table, extent?_table, tables,
        Function.update_of_ne same]

/-- One more page on a frame of its own is one more run. -/
theorem extent?_of_page {page : VirtPage}
    (tables : ram'.table? space.directory = ram.table? space.directory)
    (pages : ram'.page? space.directory =
      Function.update (ram.page? space.directory) page (some frame))
    (single : space.segments.backs frame = false) :
    space.extent? ram' =
      Function.update (space.extent? ram) (.page page) (some (.ofFrame frame)) := by
  funext slot
  cases slot with
  | directory => rw [Function.update_of_ne (by simp), extent?_directory, extent?_directory]
  | segment name => rw [Function.update_of_ne (by simp), extent?_segment, extent?_segment]
  | table j => rw [Function.update_of_ne (by simp), extent?_table, extent?_table, tables]
  | page other =>
    by_cases same : other = page
    · subst same
      rw [Function.update_self, extent?_page, pages, Function.update_self, Option.bind_some,
        single, if_neg (by simp)]
    · rw [Function.update_of_ne (by simpa using same), extent?_page, extent?_page, pages,
        Function.update_of_ne same]

/-- One more page on a frame of a segment is no new run. -/
theorem extent?_of_backed {page : VirtPage}
    (tables : ram'.table? space.directory = ram.table? space.directory)
    (pages : ram'.page? space.directory =
      Function.update (ram.page? space.directory) page (some frame))
    (unmapped : ram.page? space.directory page = none)
    (backed : space.segments.backs frame = true) : space.extent? ram' = space.extent? ram := by
  funext slot
  cases slot with
  | directory => rw [extent?_directory, extent?_directory]
  | segment name => rw [extent?_segment, extent?_segment]
  | table j => rw [extent?_table, extent?_table, tables]
  | page other =>
    rw [extent?_page, extent?_page, pages]
    by_cases same : other = page
    · subst same
      rw [Function.update_self, unmapped, Option.bind_some, Option.bind_none, backed, if_pos rfl]
    · rw [Function.update_of_ne same]

end AddressSpace

/-- Slots of which one is for a run that was taken and is not yet part of the
space. -/
def withSpare (place : Slot → Option Extent) (spare : Option Extent) : Option Slot → Option Extent
  | none => spare
  | some slot => place slot

theorem withSpare_none (place : Slot → Option Extent) (spare : Option Extent) :
    withSpare place spare none = spare :=
  rfl

theorem withSpare_some (place : Slot → Option Extent) (spare : Option Extent) (slot : Slot) :
    withSpare place spare (some slot) = place slot :=
  rfl

theorem update_withSpare_some (place : Slot → Option Extent) (spare : Option Extent) (slot : Slot)
    (e : Option Extent) :
    Function.update (withSpare place spare) (some slot) e =
      withSpare (Function.update place slot e) spare := by
  funext other
  rcases other with _ | other
  · rw [Function.update_of_ne (by simp)]
    rfl
  · by_cases same : other = slot
    · subst same
      rw [Function.update_self, withSpare_some, Function.update_self]
    · rw [Function.update_of_ne (by simpa using same), withSpare_some, withSpare_some,
        Function.update_of_ne same]

theorem update_withSpare_none (place : Slot → Option Extent) (spare e : Option Extent) :
    Function.update (withSpare place spare) none e = withSpare place e := by
  funext other
  rcases other with _ | other
  · rw [Function.update_self]
    rfl
  · rw [Function.update_of_ne (by simp)]
    rfl

end PagedMemory
