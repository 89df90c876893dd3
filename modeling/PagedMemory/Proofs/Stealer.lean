import Mathlib.Algebra.Order.Floor.Div
import Mathlib.Data.Option.Basic
import Mathlib.Order.CompletePartialOrder
import Mathlib.Order.Interval.Set.Disjoint
import PagedMemory.Stealer

/-!
# What the stealer grants

Pages are granted off the front of the RAM that is left: a grant begins at the
first page boundary there, ends at or before the end of RAM, and what is left
then begins where the grant ends. Counted over all the naturals, nothing else
decides about a request, although every number in the code has 32 bits: what does
not fit in a word would not fit in RAM either. So over any requests the grants
follow one another in RAM, and a refusal leaves room for a smaller request.
-/

namespace PagedMemory

variable {realm : Realm}

/-- Rounding up gives the one page boundary less than a page further. -/
theorem Address.alignUp_eq_some_iff {a b : Address realm} :
    a.alignUp = some b ↔
      b.toNat % 4096 = 0 ∧ a.toNat ≤ b.toNat ∧ b.toNat < a.toNat + 4096 := by
  simp only [alignUp, Option.map_eq_some_iff, ofNat?_eq_some_iff]
  constructor
  · rintro ⟨past, rounded, rfl⟩
    simp only [alignDown]
    omega
  · rintro ⟨aligned, low, high⟩
    have fits : a.toNat + 4095 < 0x100000000 := by
      have := b.lt
      omega
    refine ⟨⟨_, fits⟩, rfl, ?_⟩
    ext
    simp only [alignDown]
    omega

/-- The page of a page boundary begins there. -/
theorem Address.base_page {a : Address realm} (aligned : a.toNat % 4096 = 0) : a.page.base = a := by
  ext
  simp only [Page.base, page]
  omega

theorem Page.isPageAligned_base {page : Page realm} : page.base.isPageAligned = true := by
  simp [Address.isPageAligned, Page.base]

/-- The number of the first page that begins at or past the end of what is occupied, also
where that page has no address. -/
def RamLayout.frontPage (layout : RamLayout) : Nat :=
  layout.firstFree.toNat ⌈/⌉ 4096

theorem RamLayout.alignUp_firstFree_eq_some_iff {layout : RamLayout} {storage : PhysAddr} :
    layout.firstFree.alignUp = some storage ↔ storage.toNat = layout.frontPage * 4096 := by
  rw [Address.alignUp_eq_some_iff, frontPage, Nat.ceilDiv_eq_add_pred_div]
  omega

/-- `pages` adjacent pages that begin with `frame` and end at `stop` lie at the front of
the RAM that is left. -/
structure RamLayout.Grants (layout : RamLayout) (pages : Nat) (frame : Frame) (stop : PhysAddr) :
    Prop where
  positive : 0 < pages
  low : layout.firstFree.toNat ≤ frame.base.toNat
  near : frame.base.toNat < layout.firstFree.toNat + 4096
  stops : stop.toNat = frame.base.toNat + pages * 4096
  within : stop.toNat ≤ layout.lastAddr.toNat

namespace Stealer

/-- Adjacent pages that were taken. -/
structure Taken where
  first : Frame
  pages : Nat
deriving DecidableEq

namespace Taken

/-- Where the pages begin. -/
def start (taken : Taken) : Nat :=
  taken.first.base.toNat

/-- Where the pages end. -/
def stop (taken : Taken) : Nat :=
  taken.start + 4096 * taken.pages

/-- The addresses on the pages. -/
def interval (taken : Taken) : Set Nat :=
  Set.Ico taken.start taken.stop

end Taken

variable {stealer : Stealer} {pages : Nat} {frame : Frame} {stop : PhysAddr}

theorem word?_eq_some_iff {n w : Nat} : word? n = some w ↔ n < 0x100000000 ∧ n = w := by
  simp [word?]

/-- A request is granted exactly when the pages lie within the RAM that is left. -/
theorem grant?_eq_some_iff :
    stealer.grant? pages = some (frame, stop) ↔ stealer.remaining.Grants pages frame stop := by
  simp only [grant?, bind, pure, Option.bind_eq_some_iff, Option.guard_eq_some', Address.add?,
    Address.ofNat?_eq_some_iff, Address.alignUp_eq_some_iff, word?_eq_some_iff]
  constructor
  · rintro ⟨_, nonempty, base, ⟨aligned, low, near⟩, _, ⟨_, rfl⟩, _, ⟨_, rfl⟩, _, ends, _, within,
      granted⟩
    cases granted
    rw [← Address.base_page aligned] at low near ends
    exact ⟨Nat.pos_of_ne_zero nonempty, low, near, ends.symm, within⟩
  · rintro ⟨positive, low, near, stops, within⟩
    have aligned : frame.base.toNat % 4096 = 0 := Nat.mul_mod_left frame.number 4096
    -- The end of RAM is an address, so what does not pass it fits in 32 bits.
    have fits := stop.lt
    refine ⟨(), Nat.ne_of_gt positive, frame.base, ⟨aligned, low, near⟩, pages, ⟨by omega, rfl⟩,
      pages * 4096, ⟨by omega, rfl⟩, stop, stops.symm, (), within, ?_⟩
    rw [Page.page_base]

/-! ## One request -/

theorem front_of_grants (grants : stealer.remaining.Grants pages frame stop) :
    frame.base.toNat = stealer.remaining.frontPage * 4096 :=
  RamLayout.alignUp_firstFree_eq_some_iff.mp
    (Address.alignUp_eq_some_iff.mpr ⟨Nat.mul_mod_left frame.number 4096, grants.low, grants.near⟩)

/-- A request is granted exactly when its pages, counted over all the naturals from the
first page boundary that is left, end at or before the end of RAM. -/
theorem exists_grants_iff : (∃ frame stop, stealer.remaining.Grants pages frame stop) ↔
    0 < pages ∧
      stealer.remaining.frontPage * 4096 + 4096 * pages ≤ stealer.remaining.lastAddr.toNat := by
  constructor
  · rintro ⟨frame, stop, grants⟩
    have front := front_of_grants grants
    have stops := grants.stops
    have within := grants.within
    exact ⟨grants.positive, by omega⟩
  · rintro ⟨positive, fits⟩
    have last := stealer.remaining.lastAddr.lt
    obtain ⟨base, begins⟩ : ∃ base : PhysAddr,
        base.toNat = stealer.remaining.frontPage * 4096 := ⟨⟨_, by omega⟩, rfl⟩
    obtain ⟨stop, ends⟩ : ∃ stop : PhysAddr, stop.toNat = base.toNat + pages * 4096 :=
      ⟨⟨base.toNat + pages * 4096, by omega⟩, rfl⟩
    obtain ⟨aligned, low, near⟩ := Address.alignUp_eq_some_iff.mp
      (RamLayout.alignUp_firstFree_eq_some_iff.mpr begins)
    refine ⟨base.page, stop, positive, ?_, ?_, ?_, by omega⟩
    all_goals rwa [Address.base_page aligned]

/-- A request is granted and moves the front of RAM, or it is refused and changes nothing. -/
theorem steal_cases (stealer : Stealer) (pages : Nat) :
    (∃ frame stop, stealer.remaining.Grants pages frame stop ∧
      stealer.steal pages = (some frame, ⟨{ stealer.remaining with firstFree := stop }⟩)) ∨
    ((¬ ∃ frame stop, stealer.remaining.Grants pages frame stop) ∧
      stealer.steal pages = (none, stealer)) := by
  unfold steal
  rcases granted : stealer.grant? pages with _ | ⟨frame, stop⟩
  · refine .inr ⟨?_, rfl⟩
    rintro ⟨frame, stop, grants⟩
    rw [grant?_eq_some_iff.mpr grants] at granted
    cases granted
  · exact .inl ⟨frame, stop, grant?_eq_some_iff.mp granted, rfl⟩

/-! ## Requests in a row -/

/-- The stealer after some requests. -/
def after (stealer : Stealer) : List Nat → Stealer
  | [] => stealer
  | pages :: rest => (stealer.steal pages).2.after rest

/-- What is taken by some requests, in the order of the requests. -/
def takes (stealer : Stealer) : List Nat → List Taken
  | [] => []
  | pages :: rest =>
    ((stealer.steal pages).1.map fun first => ⟨first, pages⟩).toList ++
      (stealer.steal pages).2.takes rest

/-- What a stealer does with some requests. -/
structure Bumps (stealer : Stealer) (requests : List Nat) : Prop where
  /-- Whatever was asked for before, a request is granted exactly if it asks for a page and,
  counted over all the naturals, the pages fit in behind the next page boundary. -/
  granted_iff : ∀ before pages later, requests = before ++ pages :: later →
    ((∃ first, ((stealer.after before).steal pages).1 = some first) ↔
      0 < pages ∧ (stealer.after before).remaining.frontPage * 4096 + 4096 * pages ≤
        stealer.remaining.lastAddr.toNat)
  /-- What is granted begins at that boundary, and what is left then begins at its end. -/
  moved : ∀ before pages later first, requests = before ++ pages :: later →
    ((stealer.after before).steal pages).1 = some first →
      first.base.toNat = (stealer.after before).remaining.frontPage * 4096 ∧
      ((stealer.after before).steal pages).2.remaining.firstFree.toNat =
        first.base.toNat + 4096 * pages
  /-- A request that is refused changes nothing. -/
  refused : ∀ before pages later, requests = before ++ pages :: later →
    ((stealer.after before).steal pages).1 = none →
      ((stealer.after before).steal pages).2 = stealer.after before
  ascending : (stealer.takes requests).Pairwise fun taken later =>
    taken.start < later.start ∧ Disjoint taken.interval later.interval
  aligned : ∀ taken ∈ stealer.takes requests, taken.start % 4096 = 0
  within : ∀ taken ∈ stealer.takes requests, taken.interval ⊆
    Set.Ico stealer.remaining.firstFree.toNat stealer.remaining.lastAddr.toNat
  /-- What is left begins where the last pages taken end, or where it began. -/
  front : (stealer.after requests).remaining.firstFree.toNat =
    ((stealer.takes requests).getLast?.map Taken.stop).getD stealer.remaining.firstFree.toNat
  last : (stealer.after requests).remaining.lastAddr = stealer.remaining.lastAddr

theorem lastAddr_steal (stealer : Stealer) (pages : Nat) :
    (stealer.steal pages).2.remaining.lastAddr = stealer.remaining.lastAddr := by
  unfold steal
  split <;> rfl

theorem lastAddr_after (stealer : Stealer) (requests : List Nat) :
    (stealer.after requests).remaining.lastAddr = stealer.remaining.lastAddr := by
  induction requests generalizing stealer with
  | nil => rfl
  | cons pages rest ih => exact (ih _).trans (lastAddr_steal stealer pages)

/-- What is taken lies in the RAM that was left before. -/
theorem within_of_mem_takes {requests : List Nat} {taken : Taken}
    (mem : taken ∈ stealer.takes requests) :
    0 < taken.pages ∧ stealer.remaining.firstFree.toNat ≤ taken.start ∧
      taken.stop ≤ stealer.remaining.lastAddr.toNat := by
  induction requests generalizing stealer with
  | nil => cases mem
  | cons pages rest ih =>
    rcases steal_cases stealer pages with ⟨frame, stop, grants, granted⟩ | ⟨_, refused⟩
    · have stops := grants.stops
      have low := grants.low
      have within := grants.within
      rw [takes, granted] at mem
      rcases List.mem_cons.mp mem with rfl | later
      · refine ⟨grants.positive, low, ?_⟩
        simp only [Taken.stop, Taken.start]
        omega
      · obtain ⟨positive, above, below⟩ := ih later
        exact ⟨positive, by simp only at above; omega, below⟩
    · rw [takes, refused] at mem
      exact ih mem

/-- What is taken next begins where the pages before it end, or behind. -/
theorem pairwise_takes (stealer : Stealer) (requests : List Nat) :
    (stealer.takes requests).Pairwise fun taken later => taken.stop ≤ later.start := by
  induction requests generalizing stealer with
  | nil => exact .nil
  | cons pages rest ih =>
    rcases steal_cases stealer pages with ⟨frame, stop, grants, granted⟩ | ⟨_, refused⟩
    · rw [takes, granted]
      refine List.pairwise_cons.mpr ⟨fun later mem => ?_, ih _⟩
      have above := (within_of_mem_takes mem).2.1
      have stops := grants.stops
      simp only [Taken.stop, Taken.start] at above ⊢
      omega
    · rw [takes, refused]
      exact ih _

theorem firstFree_after (stealer : Stealer) (requests : List Nat) :
    (stealer.after requests).remaining.firstFree.toNat =
      ((stealer.takes requests).getLast?.map Taken.stop).getD
        stealer.remaining.firstFree.toNat := by
  induction requests generalizing stealer with
  | nil => rfl
  | cons pages rest ih =>
    rcases steal_cases stealer pages with ⟨frame, stop, grants, granted⟩ | ⟨_, refused⟩
    · rw [after, takes, granted, ih]
      have stops : stop.toNat = frame.base.toNat + 4096 * pages := by
        rw [grants.stops, Nat.mul_comm]
      rcases takes _ rest with _ | ⟨next, more⟩
      · exact stops
      · rfl
    · rw [after, takes, refused]
      exact ih _

/-- The stealer of any layout takes pages off the front of RAM, one run after another, and
refuses a request just when its pages do not fit. -/
theorem bumps_of_layout (layout : RamLayout) (requests : List Nat) : Bumps ⟨layout⟩ requests := by
  constructor
  case granted_iff =>
    intro before pages later _
    rw [← lastAddr_after ⟨layout⟩ before, ← exists_grants_iff]
    rcases steal_cases (after ⟨layout⟩ before) pages with
      ⟨frame, stop, grants, granted⟩ | ⟨unable, refused⟩
    · rw [granted]
      exact iff_of_true ⟨frame, rfl⟩ ⟨frame, stop, grants⟩
    · rw [refused]
      exact iff_of_false nofun unable
  case moved =>
    intro before pages later first _ found
    rcases steal_cases (after ⟨layout⟩ before) pages with
      ⟨frame, stop, grants, granted⟩ | ⟨_, refused⟩
    · rw [granted] at found ⊢
      cases found
      exact ⟨front_of_grants grants, by rw [grants.stops, Nat.mul_comm]⟩
    · rw [refused] at found
      cases found
  case refused =>
    intro before pages later _ found
    rcases steal_cases (after ⟨layout⟩ before) pages with
      ⟨frame, stop, _, granted⟩ | ⟨_, refused⟩
    · rw [granted] at found
      cases found
    · rw [refused]
  case ascending =>
    refine (pairwise_takes _ requests).imp_of_mem fun {taken later} mem _ ordered => ?_
    have positive := (within_of_mem_takes mem).1
    refine ⟨?_, Set.Ico_disjoint_Ico.mpr ?_⟩
    · simp only [Taken.stop] at ordered
      omega
    · exact (min_le_left _ _).trans (ordered.trans (le_max_right _ _))
  case aligned => exact fun taken _ => Nat.mul_mod_left taken.first.number 4096
  case within =>
    intro taken mem
    obtain ⟨_, above, below⟩ := within_of_mem_takes mem
    exact Set.Ico_subset_Ico above below
  case front => exact firstFree_after _ requests
  case last => exact lastAddr_after _ requests

/-- Six pages do not fit behind the boundary at the fourth, but five do, and then none. -/
example : takes ⟨⟨.ofNat 0x2800, .ofNat 0x8000⟩⟩ [6, 0, 5, 1] = [⟨.ofNumber 3, 5⟩] := by
  decide

end Stealer

end PagedMemory
