import Mathlib.Order.CompletePartialOrder
import Mathlib.Order.Interval.Set.Disjoint
import PagedMemory.Proofs.Operation.Preserves
import PagedMemory.Proofs.Space.Defining
import PagedMemory.Proofs.Space.Loading

/-!
# Regions of spaces

A space comes from creating, defining regions, loading and copying, each over any frame
source and in any memory, whether it succeeds or fails. Only the definition of a region
adds one; loading and copying keep the layout. So the regions of a space lie apart and
below the stack, and the heap begins behind the second. In every such space a further
region is accepted just when it is placed so that this stays true, and no arithmetic on
the way wraps around.
-/

namespace PagedMemory

/-- The numbers of the pages of a region. -/
def Region.interval (region : Region) : Set Nat :=
  Set.Ico region.page.number (region.page.number + region.pages)

namespace AddressSpace

/-! ## Spaces that are reached -/

/-- The spaces that there can be, over any frame sources and in any memories. -/
inductive Reached : AddressSpace → Prop where
  | create {σ : Type} {source : FrameSource σ} {memory memory' : Memory σ} {shown : List Event}
      {space : AddressSpace}
      (run : (create source).run memory = ⟨.value space, memory', shown⟩) : Reached space
  | define {space : AddressSpace} (reached : Reached space) (address : VirtAddr) (size : Nat)
      (flags : RegionFlags) : Reached ((define address size flags).run space).state
  | prepareLoad {σ : Type} {space : AddressSpace} (reached : Reached space)
      (source : FrameSource σ) (memory : Memory σ) :
      Reached ((prepareLoad source).run ⟨memory, space⟩).state.space
  | copy {σ : Type} {source : FrameSource σ} {memory memory' : Memory σ} {shown : List Event}
      {parent child : AddressSpace} (reached : Reached parent)
      (run : (copy source parent).run memory = ⟨.value child, memory', shown⟩) : Reached child

/-- How the regions and the heap of a space lie. -/
structure Laid (space : AddressSpace) : Prop where
  few : space.regions.length ≤ 2
  nonempty : ∀ region ∈ space.regions, 0 < region.pages
  below : ∀ region ∈ space.regions, region.page.number + region.pages ≤ stackBase.number
  apart : space.regions.Pairwise fun region other => Disjoint region.interval other.interval
  /-- There is a heap just when there are two regions, and it begins and ends behind the
  second. -/
  heap : ∀ heap, space.heap = some heap ↔ ∃ second, space.regions[1]? = some second ∧
    heap.start.toNat = (second.page.number + second.pages) * 4096 ∧
    heap.stop.toNat = (second.page.number + second.pages) * 4096

/-! ## Definitions -/

/-- When a region may be added to a space: its pages, taken over unbounded numbers, lie
below the stack and meet no other region. -/
structure Accepts (space : AddressSpace) (address : VirtAddr) (size : Nat) : Prop where
  unloaded : space.loaded = false
  few : space.regions.length < 2
  nonempty : 0 < size
  below : address.pageEnd size * 4096 ≤ stackBase.base.toNat
  apart : ∀ region ∈ space.regions,
    Disjoint (Set.Ico address.page.number (address.pageEnd size)) region.interval

/-- What is changed when a region is added. -/
structure Appends (space : AddressSpace) (address : VirtAddr) (size : Nat) (flags : RegionFlags)
    (space' : AddressSpace) : Prop where
  regions : ∃ region, space'.regions = space.regions ++ [region] ∧
    region.interval = Set.Ico address.page.number (address.pageEnd size) ∧
    region.page = address.page ∧ region.flags = flags ∧ region.backing = none
  heap : ∃ stop : VirtAddr, stop.toNat = address.pageEnd size * 4096 ∧
    space'.heap = if space.regions.length = 1 then some ⟨stop, stop⟩ else space.heap
  id : space'.id = space.id
  directory : space'.directory = space.directory
  stack : space'.stack = space.stack
  loaded : space'.loaded = space.loaded

/-- How the definition of a region ends. -/
structure Defines (space : AddressSpace) (address : VirtAddr) (size : Nat) (flags : RegionFlags)
    (outcome : Outcome SpaceError AddressSpace Unit) : Prop where
  total : ∀ cause, outcome.result ≠ .panic cause
  /-- The ends of the regions that a new one is compared with are pages. -/
  sums : ∀ region ∈ space.regions,
    (region.page.plus region.pages).number = region.page.number + region.pages
  /-- The pages that are counted begin before they end, and they end with the last. -/
  differences : ∀ stop, regionEnd? address size = some stop →
    address.page.number ≤ stop.page.number ∧
      address.page.plus (stop.page.number - address.page.number) = stop.page
  accepts : outcome.result = .value () ↔ space.Accepts address size
  appends : outcome.result = .value () → space.Appends address size flags outcome.state
  refuses : ∀ e, outcome.result = .error e → outcome.state = space

variable {space space' parent : AddressSpace} {address stop : VirtAddr} {size left : Nat}
  {flags : RegionFlags}

/-! ## Regions that lie apart -/

/-- Intervals of pages that are not empty are disjoint if one of them lies below the
other. -/
theorem disjoint_ico_iff {a b c d : Nat} (nonempty : a < b) (nonempty' : c < d) :
    Disjoint (Set.Ico a b) (Set.Ico c d) ↔ b ≤ c ∨ d ≤ a := by
  rw [Set.Ico_disjoint_Ico]
  omega

theorem disjoint_interval_iff {region other : Region} (nonempty : 0 < region.pages)
    (nonempty' : 0 < other.pages) : Disjoint region.interval other.interval ↔
      region.page.number + region.pages ≤ other.page.number ∨
        other.page.number + other.pages ≤ region.page.number :=
  disjoint_ico_iff (by omega) (by omega)

theorem Laid.shaped (laid : space.Laid) : space.Shaped where
  few := laid.few
  nonempty := laid.nonempty
  below := laid.below
  apart := laid.apart.imp_of_mem fun inList inList' disjoint =>
    (disjoint_interval_iff (laid.nonempty _ inList) (laid.nonempty _ inList')).mp disjoint

theorem Shaped.laid (shaped : space.Shaped)
    (heap : ∀ heap, space.heap = some heap ↔ ∃ second, space.regions[1]? = some second ∧
      heap.start.toNat = (second.page.number + second.pages) * 4096 ∧
      heap.stop.toNat = (second.page.number + second.pages) * 4096) : space.Laid where
  few := shaped.few
  nonempty := shaped.nonempty
  below := shaped.below
  apart := shaped.apart.imp_of_mem fun inList inList' apart =>
    (disjoint_interval_iff (shaped.nonempty _ inList) (shaped.nonempty _ inList')).mpr apart
  heap := heap

/-- How a space lies does not depend on what backs its regions. -/
theorem Laid.of_layout (laid : space.Laid)
    (regions : space'.regions.map Region.unbacked = space.regions.map Region.unbacked)
    (heap : space'.heap = space.heap) : space'.Laid := by
  refine (laid.shaped.of_regions regions).laid fun heap' => ?_
  rw [heap, laid.heap]
  have second := congrArg (fun regions : List Region => regions[1]?) regions
  simp only [List.getElem?_map] at second
  rcases is : space.regions[1]? with _ | region <;> rcases is' : space'.regions[1]? with _ | region'
  · rfl
  · simp [is, is'] at second
  · simp [is, is'] at second
  · rw [is, is', Option.map_some, Option.map_some, Option.some.injEq] at second
    have page : region'.unbacked.page = region.unbacked.page := congrArg Region.page second
    have pages : region'.unbacked.pages = region.unbacked.pages := congrArg Region.pages second
    simp only [Region.unbacked] at page pages
    simp only [Option.some.injEq, exists_eq_left', page, pages]

/-! ## Adding a region -/

/-- The pages of a region that passes the checks are those that it asks for. -/
theorem Passes.number_stop (passes : space.Passes address size stop) :
    stop.page.number = address.pageEnd size ∧ stop.toNat = address.pageEnd size * 4096 := by
  obtain ⟨_, isEnd, _⟩ := regionEnd?_eq_some_iff.mp passes.ends
  refine ⟨?_, isEnd⟩
  simp only [Address.page, isEnd]
  exact Nat.mul_div_cancel _ (by decide)

/-- The checks are passed just by the regions that may be added. -/
theorem Laid.passes_iff (laid : space.Laid) :
    (∃ stop, space.Passes address size stop) ↔ space.Accepts address size := by
  have overlaps_iff {region : Region} (inList : region ∈ space.regions) {stop : VirtAddr}
      (ends : regionEnd? address size = some stop)
      (number : stop.page.number = address.pageEnd size) :
      region.overlaps address.page stop.page = false ↔
        Disjoint (Set.Ico address.page.number (address.pageEnd size)) region.interval := by
    have nonempty := laid.nonempty region inList
    have below := laid.below region inList
    rw [stackBase_number] at below
    have isEnd : (region.page.plus region.pages).number = region.page.number + region.pages :=
      Page.number_ofNumber_of_lt (by omega)
    have ordered := (regionEnd?_eq_some ends).1
    rw [Region.interval, disjoint_ico_iff (by omega) (by omega)]
    simp only [Region.overlaps, Bool.and_eq_false_iff, decide_eq_false_iff_not, isEnd, number]
    omega
  constructor
  · rintro ⟨stop, passes⟩
    obtain ⟨number, isEnd⟩ := passes.number_stop
    obtain ⟨nonempty, _, below⟩ := regionEnd?_eq_some_iff.mp passes.ends
    refine ⟨passes.unloaded, passes.few, nonempty, isEnd ▸ below, fun region inList => ?_⟩
    exact (overlaps_iff inList passes.ends number).mp (passes.alone region inList)
  · intro accepts
    have stackBytes : stackBase.base.toNat = 0x7FFEE * 4096 := rfl
    have below := accepts.below
    have fits : address.pageEnd size * 4096 < 0x100000000 := by omega
    have ends : regionEnd? address size = some ⟨_, fits⟩ :=
      regionEnd?_eq_some_iff.mpr ⟨accepts.nonempty, rfl, below⟩
    refine ⟨_, accepts.unloaded, accepts.few, ends, fun region inList => ?_⟩
    refine (overlaps_iff inList ends ?_).mpr (accepts.apart region inList)
    exact Nat.mul_div_cancel _ (by decide)

theorem Passes.appends (passes : space.Passes address size stop) :
    space.Appends address size flags (space.withRegion address stop flags) := by
  obtain ⟨number, isEnd⟩ := passes.number_stop
  have ordered := (regionEnd?_eq_some passes.ends).1
  constructor
  case regions =>
    refine ⟨_, rfl, ?_, rfl, rfl, rfl⟩
    rw [Region.interval, ← number]
    dsimp only
    rw [Nat.add_sub_cancel' (Nat.le_of_lt ordered)]
  case heap => exact ⟨stop, isEnd, if_congr (by simp [Layout.maxRegions]) rfl rfl⟩
  all_goals rfl

theorem Laid.withRegion (laid : space.Laid) (passes : space.Passes address size stop) :
    (space.withRegion address stop flags).Laid := by
  refine (passes.defined.shaped laid.shaped).laid fun heap => ?_
  have few : space.regions.length < 2 := passes.few
  rcases isRegions : space.regions with _ | ⟨region, _ | ⟨other, rest⟩⟩
  · have noHeap : space.heap = none := by
      rcases isHeap : space.heap with _ | old
      · rfl
      · obtain ⟨second, isSecond, _⟩ := (laid.heap old).mp isHeap
        simp [isRegions] at isSecond
    simp [AddressSpace.withRegion, isRegions, noHeap, Layout.maxRegions]
  · obtain ⟨number, isEnd⟩ := passes.number_stop
    have ordered := (regionEnd?_eq_some passes.ends).1
    have sum : address.page.number + (stop.page.number - address.page.number) =
        address.pageEnd size := by omega
    simp only [AddressSpace.withRegion, isRegions, Layout.maxRegions, List.length_singleton,
      if_true, Option.some.injEq, List.singleton_append, List.getElem?_cons_succ,
      List.getElem?_cons_zero, exists_eq_left', sum, ← isEnd]
    constructor
    · rintro rfl
      exact ⟨rfl, rfl⟩
    · rintro ⟨start, final⟩
      exact congrArg₂ Heap.mk (Address.ext start.symm) (Address.ext final.symm)
  · simp only [isRegions, List.length_cons] at few
    omega

/-! ## Loading and copying -/

section Loading

variable {σ : Type} {memory : Memory σ}

/-- Loading changes what backs a space and not its layout, however it ends. -/
theorem preserves_like_prepareLoad (before : AddressSpace) (source : FrameSource σ) :
    (prepareLoad source).Preserves fun building => before.Like building.space := by
  have backs (slot : Nat) (regions : List Region) : (loadRegions source slot regions).Preserves
      fun building => before.Like building.space := by
    induction regions generalizing slot with
    | nil => exact .pure ()
    | cons region regions ih =>
      refine .bind Building.preserves_space_inMemory fun frame => ?_
      refine .bind (Building.preserves_space_updateSpace fun space like =>
        like.trans (like_backRegion slot frame space)) fun _ => ?_
      exact .bind Building.preserves_space_inMemory fun _ => ih (slot + 1)
  have mapsStack : (loadStack source).Preserves fun building => before.Like building.space := by
    refine .bind Building.preserves_space_inMemory fun frame => ?_
    refine .bind (Building.preserves_space_updateSpace fun space like => ?_) fun _ => ?_
    · exact like.trans ⟨rfl, rfl, rfl, rfl⟩
    refine .bind Building.preserves_space_inMemory fun _ => ?_
    refine .bind (Building.preserves_space_updateSpace fun space like => ?_) fun _ => ?_
    · exact like.trans ⟨rfl, rfl, rfl, rfl⟩
    exact .bind (.read _) fun _ => .log _ _
  refine .bind (.read _) fun loaded => ?_
  split
  · exact .fail _
  · exact .bind (.read _) fun regions => .bind (backs 0 regions) fun _ => mapsStack

theorem ends_create_empty (source : FrameSource σ) : (create source).Ends left memory
    ⟨fun space _ _ => ∃ id directory, space = empty id directory,
      fun _ _ _ => True, fun _ _ => True⟩ := by
  refine Operation.ends_bind_last fun id _ _ => Operation.ends_bind_last fun directory _ _ => ?_
  refine Operation.ends_bind_last fun _ _ _ => Operation.ends_bind_last fun _ _ _ => ?_
  exact Operation.ends_pure.mpr ⟨id, directory, rfl⟩

/-- A copy has the layout of its parent. -/
theorem ends_copy_layout (source : FrameSource σ) : (copy source parent).Ends left memory
    ⟨fun child _ _ => child.heap = parent.heap ∧
        child.regions.map Region.unbacked = parent.regions.map Region.unbacked,
      fun _ _ _ => True, fun _ _ => True⟩ := by
  refine Operation.ends_bind_last fun start memory _ => ?_
  have fills : (copyFrom source parent).Preserves
      fun building => (start.inherit parent).Like building.space := by
    have copies : (Building.inMemory fun child => copyTables source parent child).Preserves
        fun building => (start.inherit parent).Like building.space :=
      Building.preserves_space_inMemory
    unfold copyFrom
    split
    · exact .bind (preserves_like_prepareLoad _ source) fun _ => copies
    · exact .bind (.pure ()) fun _ => copies
  refine Operation.ends_bind.mpr (Building.ends_around.mpr ?_)
  refine (fills.ends (Like.refl _)).mono ?_ ?_ fun _ _ _ => trivial
  · intro _ building _ like
    refine Operation.ends_bind_last fun _ _ _ => Operation.ends_pure.mpr ⟨like.heap, ?_⟩
    rw [like.regions]
    simp [inherit, Function.comp_def, Region.unbacked]
  · intro _ _ _ _
    refine Operation.ends_bind_last fun _ _ _ => Operation.ends_bind_last fun _ _ _ => ?_
    exact Operation.ends_fail.mpr trivial

end Loading

/-! ## Every space -/

/-- The regions of every space lie apart and below the stack, and the heap behind them. -/
theorem Reached.laid (reached : Reached space) : space.Laid := by
  induction reached with
  | @create _ source memory _ _ _ run =>
    have ends (left : Nat) : (AddressSpace.create source).Ends left memory _ :=
      ends_create_empty source
    obtain ⟨id, directory, rfl⟩ := (ends _).of_value run (Nat.le_refl _)
    exact ⟨by simp [empty], nofun, nofun, .nil, by simp [empty]⟩
  | define _ address size flags laid =>
    refine Operation.state_of_ends fun left => ends_define_checks.mono ?_ ?_ fun _ _ => False.elim
    · rintro _ _ _ ⟨stop, passes, rfl⟩
      exact laid.withRegion passes
    · rintro _ _ _ ⟨rfl, _⟩
      exact laid
  | @prepareLoad _ space _ source memory laid =>
    have like := preserves_like_prepareLoad space source ⟨memory, space⟩ (Like.refl _)
    exact laid.of_layout like.regions like.heap
  | @copy _ source memory _ _ parent _ _ run laid =>
    have ends (left : Nat) : (AddressSpace.copy source parent).Ends left memory _ :=
      ends_copy_layout source
    obtain ⟨heap, regions⟩ := (ends _).of_value run (Nat.le_refl _)
    exact laid.of_layout regions heap

/-- In every space a region is accepted just when it is well placed, and refusing one
changes nothing. -/
theorem laid_and_defines_of_reached (reached : Reached space) : space.Laid ∧
    ∀ address size flags,
      space.Defines address size flags ((define address size flags).run space) := by
  have laid := reached.laid
  refine ⟨laid, fun address size flags => ?_⟩
  have sums : ∀ region ∈ space.regions,
      (region.page.plus region.pages).number = region.page.number + region.pages := by
    intro region inList
    have below := laid.below region inList
    rw [stackBase_number] at below
    exact Page.number_ofNumber_of_lt (by omega)
  have differences : ∀ stop, regionEnd? address size = some stop →
      address.page.number ≤ stop.page.number ∧
        address.page.plus (stop.page.number - address.page.number) = stop.page :=
    fun _ ends =>
      ⟨Nat.le_of_lt (regionEnd?_eq_some ends).1, plus_of_regionEnd?_eq_some ends⟩
  have ends (left : Nat) : (define address size flags).Ends left space _ := ends_define_checks
  have met := ends _ (Nat.le_refl _)
  generalize (define address size flags).run space = outcome at met ⊢
  rcases outcome with ⟨_ | e | cause, space', shown⟩
  · obtain ⟨stop, passes, rfl⟩ := met
    exact ⟨nofun, sums, differences, iff_of_true rfl (laid.passes_iff.mp ⟨stop, passes⟩),
      fun _ => passes.appends, nofun⟩
  · obtain ⟨rfl, declined⟩ := met
    have refused : ¬ space'.Accepts address size :=
      fun accepts => (laid.passes_iff.mpr accepts).elim declined
    exact ⟨nofun, sums, differences, iff_of_false nofun refused, nofun, fun _ _ => rfl⟩
  · exact met.elim

/-- A space that is created in four frames and given a region of two pages. -/
theorem laid_and_defines_of_reached_defined : ∃ space : AddressSpace, space.Reached ∧
    space.regions.length = 1 ∧ space.Laid ∧ ∀ address size flags,
      space.Defines address size flags ((define address size flags).run space) := by
  let memory : Memory (Coremap NoEviction) :=
    ⟨.initial ⟨4, .ofNat 0⟩ NoEviction.mk, .zeroed .directMap 4, ⟨1⟩⟩
  have created : ((AddressSpace.create (Coremap.source (some ⟨1, false⟩))).run memory).result =
      .value (empty ⟨1⟩ (.ofNumber 1)) := by
    decide +kernel
  have reached : Reached (empty ⟨1⟩ (.ofNumber 1)) :=
    .create (Operation.run_eq_of_result_of_state created rfl)
  have defined := reached.define (.ofNat 0x1000) 0x1800 (.ofBools true true false)
  exact ⟨_, defined, by decide +kernel, laid_and_defines_of_reached defined⟩

end AddressSpace

/-- The numbers of the pages of every stack. -/
def stackInterval : Set Nat :=
  Set.Ico stackBase.number (stackBase.number + Layout.stackPages)

/-- A page that the segments of a space are for lies in a region or in the stack. -/
theorem AddressSpace.spans_base_iff {space : AddressSpace} (page : VirtPage) :
    space.Spans page.base ↔
      (∃ region ∈ space.regions, page.number ∈ region.interval) ∨
        page.number ∈ stackInterval := by
  refine or_congr (exists_congr fun region => and_congr_right fun _ => ?_) ?_
  · simp only [Page.base, Region.interval, Set.mem_Ico, Layout.pageSize]
    omega
  · simp only [Page.base, stackInterval, Set.mem_Ico, stackBase_number, Layout.userStack,
      Layout.directMapBase, Layout.stackPages, Layout.pageSize]
    omega

end PagedMemory
