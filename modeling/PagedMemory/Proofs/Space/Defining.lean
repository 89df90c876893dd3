import Mathlib.Data.Option.Basic
import PagedMemory.Proofs.Space.Holdings

/-!
# Defining regions

A region that passes the checks is not empty, ends below the stack and meets no other
region, so a space that is well shaped stays so. A new region is not backed, and
the segments of the space are those that it had. A region that does not pass leaves
the space as it was.
-/

namespace PagedMemory

variable {space space' : AddressSpace} {left : Nat} {mem : Memory (Coremap NoEviction)}
  {address : VirtAddr} {size : Nat} {flags : RegionFlags} {complete : Prop}

/-- One more region was accepted. -/
structure AddressSpace.Defined (region : Region) (space space' : AddressSpace) : Prop where
  id : space'.id = space.id
  directory : space'.directory = space.directory
  stack : space'.stack = space.stack
  unloaded : space.loaded = false
  loaded : space'.loaded = false
  regions : space'.regions = space.regions ++ [region]
  unbacked : region.backing = none
  few : space.regions.length < Layout.maxRegions
  nonempty : 0 < region.pages
  below : region.page.number + region.pages ≤ stackBase.number
  alone : ∀ other ∈ space.regions,
    other.overlaps region.page (region.page.plus region.pages) = false

/-- The number of the page that begins where the last page of `size` bytes at `address`
ends, as if addresses went on for ever. -/
def Address.pageEnd (address : VirtAddr) (size : Nat) : Nat :=
  (address.toNat + size + 4095) / 4096

namespace AddressSpace

/-- What is checked of a new region that ends at `stop`. -/
structure Passes (space : AddressSpace) (address : VirtAddr) (size : Nat) (stop : VirtAddr) :
    Prop where
  unloaded : space.loaded = false
  few : space.regions.length < Layout.maxRegions
  ends : regionEnd? address size = some stop
  alone : ∀ region ∈ space.regions, region.overlaps address.page stop.page = false

/-- The space with one more region. -/
def withRegion (address stop : VirtAddr) (flags : RegionFlags) (space : AddressSpace) :
    AddressSpace :=
  { space with
    regions := space.regions ++
      [⟨address.page, stop.page.number - address.page.number, flags, none⟩]
    heap := if space.regions.length + 1 = Layout.maxRegions then some ⟨stop, stop⟩
      else space.heap }

variable {stop : VirtAddr}

/-- The bytes of a region end below the stack exactly if they do so with no bound on
addresses. -/
theorem regionEnd?_eq_some_iff : regionEnd? address size = some stop ↔
    0 < size ∧ stop.toNat = address.pageEnd size * 4096 ∧ stop.toNat ≤ stackBase.base.toNat := by
  have stackBytes : stackBase.base.toNat = 0x7FFEE * 4096 := rfl
  simp only [regionEnd?, Option.bind_eq_bind, Option.bind_eq_some_iff]
  rw [stackBytes, Address.pageEnd]
  constructor
  · rintro ⟨last, isLast, aligned, isAligned, _, guarded, isStop⟩
    obtain ⟨nonempty, below⟩ := (Option.guard_eq_some' _).mp guarded
    obtain rfl := Option.some.inj isStop
    have isSum : address.toNat + size = last.toNat := Address.ofNat?_eq_some_iff.mp isLast
    obtain ⟨raised, isRaised, rfl⟩ := Option.map_eq_some_iff.mp isAligned
    have isRaisedSum : last.toNat + 4095 = raised.toNat := Address.ofNat?_eq_some_iff.mp isRaised
    simp only [Address.alignDown] at below ⊢
    omega
  · rintro ⟨nonempty, isEnd, below⟩
    have inside : address.toNat + size < 0x100000000 := by omega
    have raisedInside : address.toNat + size + 4095 < 0x100000000 := by omega
    refine ⟨⟨_, inside⟩, Address.ofNat?_eq_some_iff.mpr rfl, stop, ?_, (), ?_, rfl⟩
    · refine Option.map_eq_some_iff.mpr
        ⟨⟨_, raisedInside⟩, Address.ofNat?_eq_some_iff.mpr rfl, Address.ext ?_⟩
      simp only [Address.alignDown]
      omega
    · exact (Option.guard_eq_some' _).mpr ⟨by omega, below⟩

/-- Where the bytes of an accepted region end. -/
theorem regionEnd?_eq_some (found : regionEnd? address size = some stop) :
    address.page.number < stop.page.number ∧ stop.page.number ≤ stackBase.number := by
  obtain ⟨nonempty, isEnd, below⟩ := regionEnd?_eq_some_iff.mp found
  have stackBytes : stackBase.base.toNat = 0x7FFEE * 4096 := rfl
  rw [stackBytes] at below
  rw [stackBase_number]
  simp only [Address.pageEnd, Address.page] at isEnd ⊢
  omega

/-- The pages of an accepted region are counted up to the page where it ends. -/
theorem plus_of_regionEnd?_eq_some (found : regionEnd? address size = some stop) :
    address.page.plus (stop.page.number - address.page.number) = stop.page := by
  have ordered := (regionEnd?_eq_some found).1
  apply Page.ext
  rw [Page.plus, Page.number_ofNumber_of_lt (by have := stop.page.lt; omega)]
  omega

/-- A region is added if it passes the checks, and else nothing happens. -/
theorem ends_define_checks :
    (define address size flags).Ends left space
      ⟨fun _ space' _ => ∃ stop, space.Passes address size stop ∧
          space' = space.withRegion address stop flags,
        fun _ space' _ => space' = space ∧ ∀ stop, ¬ space.Passes address size stop,
        fun _ _ => False⟩ := by
  refine Operation.ends_bind.mpr (Operation.ends_read.mpr ?_)
  dsimp only
  split
  · next isLoaded =>
    exact Operation.ends_fail.mpr ⟨rfl, fun _ passes => by simp [passes.unloaded] at isLoaded⟩
  next unloaded =>
  split
  · next many =>
    refine Operation.ends_bind.mpr (Operation.ends_log.mpr (Operation.ends_fail.mpr ⟨rfl, ?_⟩))
    exact fun _ passes => Nat.not_lt.mpr many passes.few
  next few =>
  split
  · next noEnd =>
    exact Operation.ends_fail.mpr ⟨rfl, fun _ passes => by simp [passes.ends] at noEnd⟩
  · next stop ends =>
    split
    · next overlaps =>
      refine Operation.ends_bind.mpr (Operation.ends_log.mpr (Operation.ends_fail.mpr ⟨rfl, ?_⟩))
      intro stop' passes
      obtain rfl := Option.some.inj (ends.symm.trans passes.ends)
      obtain ⟨region, inList, isOverlap⟩ := List.any_eq_true.mp overlaps
      simp [passes.alone region inList] at isOverlap
    · next alone =>
      refine Operation.ends_bind.mpr (Operation.ends_change.mpr (Operation.ends_log.mpr ?_))
      exact ⟨stop, ⟨by simpa using unloaded, Nat.lt_of_not_le few, ends, by simpa using alone⟩, rfl⟩

/-- What an added region is. -/
theorem Passes.defined (passes : space.Passes address size stop) :
    Defined ⟨address.page, stop.page.number - address.page.number, flags, none⟩ space
      (space.withRegion address stop flags) := by
  obtain ⟨nonempty, below⟩ := regionEnd?_eq_some passes.ends
  refine ⟨rfl, rfl, rfl, passes.unloaded, passes.unloaded, rfl, rfl, passes.few, ?_, ?_, ?_⟩
  · dsimp only
    omega
  · dsimp only
    omega
  · dsimp only
    rw [plus_of_regionEnd?_eq_some passes.ends]
    exact passes.alone

theorem ends_define :
    (define address size flags).Ends left space
      ⟨fun _ space' _ => ∃ region, Defined region space space', fun _ space' _ => space' = space,
        fun _ _ => False⟩ := by
  refine ends_define_checks.mono ?_ (fun _ _ _ declined => declined.1) fun _ _ => False.elim
  rintro _ _ _ ⟨stop, passes, rfl⟩
  exact ⟨_, passes.defined⟩

namespace Defined

variable {region : Region}

theorem shaped (defined : Defined region space space') (shaped : space.Shaped) :
    space'.Shaped := by
  have each {p : Region → Prop} (all : ∀ other ∈ space.regions, p other) (new : p region) :
      ∀ other ∈ space'.regions, p other := by
    intro other inList
    rw [defined.regions, List.mem_append, List.mem_singleton] at inList
    rcases inList with old | rfl
    · exact all other old
    · exact new
  constructor
  case few =>
    have few := defined.few
    rw [defined.regions, List.length_append, List.length_singleton]
    omega
  case nonempty => exact each shaped.nonempty defined.nonempty
  case below => exact each shaped.below defined.below
  case apart =>
    rw [defined.regions, List.pairwise_append]
    refine ⟨shaped.apart, List.pairwise_singleton _ _, ?_⟩
    intro other inList new isNew
    obtain rfl := List.mem_singleton.mp isNew
    have alone := defined.alone other inList
    have below := defined.below
    have otherBelow := shaped.below other inList
    rw [stackBase_number] at below otherBelow
    have newEnd : (new.page.plus new.pages).number = new.page.number + new.pages :=
      Page.number_ofNumber_of_lt (by omega)
    have otherEnd : (other.page.plus other.pages).number = other.page.number + other.pages :=
      Page.number_ofNumber_of_lt (by omega)
    simp only [Region.overlaps, Bool.and_eq_false_iff, decide_eq_false_iff_not, newEnd,
      otherEnd] at alone
    omega

theorem segment?_eq (defined : Defined region space space') :
    space'.segment? = space.segment? := by
  funext name
  cases name with
  | stack => rw [AddressSpace.segment?, AddressSpace.segment?, defined.stack]
  | region i =>
    rw [AddressSpace.segment?, AddressSpace.segment?, defined.regions]
    by_cases low : i < space.regions.length
    · rw [List.getElem?_append_left low]
    · have outside : space.regions[i]? = none := List.getElem?_eq_none (by omega)
      rw [List.getElem?_append_right (by omega), outside]
      rcases i - space.regions.length with _ | n
      · rw [List.getElem?_cons_zero, Option.bind_some, Region.segment?, defined.unbacked]
        rfl
      · rfl

end Defined

end AddressSpace

/-- A space is held as before after a region was defined. -/
theorem Holds.define {region : Region} {spare : Option Extent}
    (holds : Holds complete space spare mem) (defined : space.Defined region space') :
    Holds complete space' spare mem :=
  holds.of_segments (congrArg Owner.space defined.id) defined.directory defined.segment?_eq
    (defined.shaped holds.shaped) defined.loaded

end PagedMemory
