import Mathlib.Algebra.Order.BigOperators.Group.Finset
import Mathlib.Combinatorics.Enumerative.DoubleCounting
import Mathlib.Data.Nat.Count
import Mathlib.Order.Interval.Finset.Nat
import PagedMemory.Proofs.Coremap.Accounts
import PagedMemory.Proofs.Coremap.Sections

/-!
# Counting the frames of an owner

The frames in use for an owner are those of its complete account. Two accounts that name
runs of the same sizes in the same slots therefore have equally many frames, in
whichever descriptors they are kept: a frame of one belongs to the frame of the
other that lies equally far into the run of the same slot. An account that names some more
runs has as many frames more as these are long. Free frames are counted in the same way.
-/

namespace PagedMemory

open Coremap (countHeldBy)

/-- Counting the items of a list is counting their indices. -/
theorem countP_eq_count {α : Type} (p : α → Bool) (items : List α) :
    items.countP p = Nat.count (fun i => items[i]?.any p = true) items.length := by
  induction items using List.reverseRecOn with
  | nil => rfl
  | append_singleton items item ih =>
    have earlier : Nat.count (fun i => (items ++ [item])[i]?.any p = true) items.length =
        Nat.count (fun i => items[i]?.any p = true) items.length := by
      simp only [Nat.count]
      apply List.countP_congr
      intro i inRange
      simp only [List.getElem?_append_left (List.mem_range.mp inRange)]
    rw [List.countP_append, List.length_append, List.length_singleton, Nat.count_succ, earlier,
      ← ih, List.getElem?_concat_length, Option.any_some, List.countP_singleton]

/-- The frames that are in use for an owner. -/
def heldFrames (frames : Array Descriptor) (owner : Owner) : Finset Nat :=
  {i ∈ Finset.range frames.size | (frames[i]?.any fun d => d.isHeldBy owner) = true}

theorem countHeldBy_eq_card (frames : Array Descriptor) (owner : Owner) :
    countHeldBy frames owner = (heldFrames frames owner).card := by
  rw [countHeldBy, ← Array.countP_toList, countP_eq_count, Nat.count_eq_card_filter_range,
    heldFrames]
  simp only [Array.length_toList, Array.getElem?_toList]

/-- The frames that are free. -/
def freeFrames (frames : Array Descriptor) : Finset Nat :=
  {i ∈ Finset.range frames.size | (frames[i]?.any Descriptor.isFree) = true}

theorem mem_freeFrames_iff {frames : Array Descriptor} {i : Nat} :
    i ∈ freeFrames frames ↔ frames[i]? = some .free := by
  rw [freeFrames, Finset.mem_filter, Finset.mem_range]
  constructor
  · rintro ⟨_, isFree⟩
    rcases recorded : frames[i]? with _ | _ | _ | _ <;> simp [recorded, Descriptor.isFree] at isFree
    rfl
  · intro recorded
    rw [recorded]
    exact ⟨(Array.getElem?_eq_some_iff.mp recorded).1, rfl⟩

/-- If there is no run of one free frame, no frame is free. -/
theorem Coremap.Starved.freeFrames_eq_empty {frames : Array Descriptor}
    (starved : Coremap.Starved frames 1) : freeFrames frames = ∅ :=
  Finset.eq_empty_iff_forall_notMem.mpr fun i isFree =>
    starved.not_free i (mem_freeFrames_iff.mp isFree)

/-- The statistics count the frames that are free. -/
theorem countStates_free_eq_card (frames : Array Descriptor) :
    (Coremap.countStates frames).free = (freeFrames frames).card := by
  have counted (step : FrameCounts → Descriptor → FrameCounts)
      (isStep : ∀ counts descriptor,
        (step counts descriptor).free = counts.free + descriptor.isFree.toNat)
      (descriptors : List Descriptor) (counts : FrameCounts) :
      (descriptors.foldl step counts).free =
        counts.free + descriptors.countP Descriptor.isFree := by
    induction descriptors generalizing counts with
    | nil => rfl
    | cons descriptor descriptors ih =>
      rw [List.foldl_cons, ih, isStep, List.countP_cons]
      cases descriptor <;> simp [Descriptor.isFree]
      omega
  have asCount := countP_eq_count Descriptor.isFree frames.toList
  rw [Coremap.countStates, ← Array.foldl_toList,
    counted _ (fun _ descriptor => by cases descriptor <;> rfl), Nat.zero_add, asCount,
    Nat.count_eq_card_filter_range, freeFrames]
  simp only [Array.length_toList, Array.getElem?_toList]

/-- The frames of the run that a slot names. -/
def slotFrames {ι : Type} (place : ι → Option Extent) (slot : ι) : Finset Nat :=
  (place slot).elim ∅ fun e => Finset.Ico e.base (e.base + e.size)

variable {ι : Type} {frames frames' : Array Descriptor} {owner owner' : Owner}
  {place place' : ι → Option Extent} {reserved reserved' : Nat}

theorem mem_slotFrames_iff {slot : ι} {i : Nat} :
    i ∈ slotFrames place slot ↔ ∃ e, place slot = some e ∧ e.Covers i := by
  rcases named : place slot with _ | e <;> simp [slotFrames, named, Extent.Covers]

theorem card_slotFrames (place : ι → Option Extent) (slot : ι) :
    (slotFrames place slot).card = (place slot).elim 0 Extent.size := by
  rcases named : place slot with _ | e <;> simp [slotFrames, named]

/-- The frames in use for an owner are those of its live blocks. -/
theorem Tiled.mem_heldFrames_iff (tiled : Tiled reserved frames) (owner : Owner) (i : Nat) :
    i ∈ heldFrames frames owner ↔ ∃ b, Live frames b ∧ b.owner = owner ∧ b.Covers i := by
  rw [← tiled.isHeldBy_iff, heldFrames, Finset.mem_filter, Finset.mem_range]
  constructor
  · exact And.right
  · intro held
    refine ⟨?_, held⟩
    by_contra outside
    rw [Array.getElem?_eq_none (Nat.le_of_not_lt outside)] at held
    cases held

/-- An owner with the same live blocks has the same frames in use. -/
theorem Tiled.heldFrames_eq (tiled : Tiled reserved frames) (tiled' : Tiled reserved' frames')
    (live_iff : ∀ b, b.owner = owner → (Live frames' b ↔ Live frames b)) :
    heldFrames frames' owner = heldFrames frames owner := by
  ext i
  rw [tiled.mem_heldFrames_iff, tiled'.mem_heldFrames_iff]
  constructor
  · rintro ⟨b, live, mine, covers⟩
    exact ⟨b, (live_iff b mine).mp live, mine, covers⟩
  · rintro ⟨b, live, mine, covers⟩
    exact ⟨b, (live_iff b mine).mpr live, mine, covers⟩

/-- As long as the blocks of other owners stay as they are, frames pass only between what is free
and what the owner has. -/
theorem Tiled.card_free_add_countHeldBy (tiled : Tiled reserved frames)
    (tiled' : Tiled reserved frames') (sameSize : frames'.size = frames.size)
    (live_iff : ∀ b, b.owner ≠ owner → (Live frames' b ↔ Live frames b)) :
    (freeFrames frames').card + countHeldBy frames' owner =
      (freeFrames frames).card + countHeldBy frames owner := by
  have disjoint (descriptors : Array Descriptor) :
      Disjoint (freeFrames descriptors) (heldFrames descriptors owner) := by
    rw [Finset.disjoint_left]
    intro i isFree isHeld
    rw [heldFrames, Finset.mem_filter, mem_freeFrames_iff.mp isFree] at isHeld
    cases isHeld.2
  -- Both unions are the frames that are not reserved and in no block of another owner.
  have union {descriptors : Array Descriptor} (isTiled : Tiled reserved descriptors) (i : Nat) :
      i ∈ freeFrames descriptors ∪ heldFrames descriptors owner ↔
        reserved ≤ i ∧ i < descriptors.size ∧
          ∀ b, b.owner ≠ owner → Live descriptors b → ¬ b.Covers i := by
    rw [Finset.mem_union, mem_freeFrames_iff, isTiled.mem_heldFrames_iff]
    constructor
    · rintro (isFree | ⟨b, live, mine, covers⟩)
      · refine ⟨?_, (Array.getElem?_eq_some_iff.mp isFree).1, fun b _ live covers => ?_⟩
        · by_contra low
          rw [(isTiled.fixed_iff i).mpr (Nat.lt_of_not_le low)] at isFree
          cases isFree
        · rw [live.recorded i covers] at isFree
          cases isFree
      · refine ⟨Nat.le_trans (isTiled.reserved_le live) covers.1,
          Nat.lt_of_lt_of_le covers.2 live.within, fun d others liveToo coversToo => ?_⟩
        exact others (live.eq_of_covers liveToo covers coversToo ▸ mine)
    · rintro ⟨high, inRam, outside⟩
      by_cases covered : ∃ b, Live descriptors b ∧ b.Covers i
      · obtain ⟨b, live, covers⟩ := covered
        by_cases mine : b.owner = owner
        · exact .inr ⟨b, live, mine, covers⟩
        · exact absurd covers (outside b mine live)
      · refine .inl ?_
        rw [isTiled.getElem?_of_not_covers fun b live covers => covered ⟨b, live, covers⟩,
          if_neg (Nat.not_lt_of_le high), if_pos inRam]
  rw [countHeldBy_eq_card, countHeldBy_eq_card, ← Finset.card_union_of_disjoint (disjoint _),
    ← Finset.card_union_of_disjoint (disjoint _)]
  congr 1
  ext i
  rw [union tiled, union tiled', sameSize]
  refine and_congr_right fun _ => and_congr_right fun _ => forall_congr' fun b => ?_
  exact forall_congr' fun others => imp_congr_left (live_iff b others)

/-- The frames in use for an owner are those of its account. -/
theorem Accounted.mem_heldFrames_iff (accounted : Accounted True frames owner place)
    (tiled : Tiled reserved frames) (i : Nat) :
    i ∈ heldFrames frames owner ↔ ∃ slot e, place slot = some e ∧ e.Covers i := by
  rw [tiled.mem_heldFrames_iff, accounted.exists_live_iff trivial]

/-- Runs that are found again in the same slots, with the same sizes, have at most as many
frames. -/
theorem Accounted.countHeldBy_le_card (accounted : Accounted True frames owner place)
    (tiled : Tiled reserved frames) (accounted' : Accounted True frames' owner' place')
    {within : Finset Nat}
    (found : ∀ slot e, place slot = some e →
      ∃ e', place' slot = some e' ∧ e'.size = e.size ∧ ∀ j, e'.Covers j → j ∈ within) :
    countHeldBy frames owner ≤ within.card := by
  rw [countHeldBy_eq_card]
  -- Frames correspond if they lie equally far into the runs of one slot.
  let corresponds (i j : Nat) : Prop := ∃ slot e e', place slot = some e ∧ place' slot = some e' ∧
    e.Covers i ∧ e'.Covers j ∧ i + e'.base = j + e.base
  apply Finset.card_le_card_of_forall_subsingleton corresponds
  · intro i isHeld
    obtain ⟨slot, e, named, covers⟩ := (accounted.mem_heldFrames_iff tiled i).mp isHeld
    obtain ⟨e', named', equal, inside⟩ := found slot e named
    have low := covers.1
    have high := covers.2
    have covers' : e'.Covers (e'.base + (i - e.base)) := ⟨by omega, by omega⟩
    exact ⟨_, inside _ covers', slot, e, e', named, named', covers, covers', by omega⟩
  · rintro j _ i ⟨_, slot, e, e', named, named', _, covers', far⟩ k
      ⟨_, slot2, e2, e2', named2, named2', _, covers2', far2⟩
    obtain rfl := accounted'.slot_eq named' named2' covers' covers2'
    obtain rfl := Option.some.inj (named.symm.trans named2)
    obtain rfl := Option.some.inj (named'.symm.trans named2')
    omega

/-- Runs that are found again in the same slots have fewer frames if there is a run in another
slot. -/
theorem Accounted.countHeldBy_lt (accounted : Accounted True frames owner place)
    (tiled : Tiled reserved frames) (accounted' : Accounted True frames' owner' place')
    (tiled' : Tiled reserved' frames')
    (found : ∀ slot e, place slot = some e → ∃ e', place' slot = some e' ∧ e'.size = e.size)
    {other : ι} {e : Extent} (empty : place other = none) (named : place' other = some e) :
    countHeldBy frames owner < countHeldBy frames' owner' := by
  obtain ⟨id, live⟩ := accounted'.live other e named
  have coversBase := Block.covers_base live.nonempty
  have isHeld : e.base ∈ heldFrames frames' owner' :=
    (accounted'.mem_heldFrames_iff tiled' _).mpr ⟨other, e, named, coversBase⟩
  rw [countHeldBy_eq_card frames', ← Finset.card_erase_add_one isHeld, Nat.lt_add_one_iff]
  refine accounted.countHeldBy_le_card tiled accounted' fun slot d isSlot => ?_
  obtain ⟨d', isSlot', equal⟩ := found slot d isSlot
  refine ⟨d', isSlot', equal, fun j covers => Finset.mem_erase.mpr ⟨?_, ?_⟩⟩
  · rintro rfl
    rw [accounted'.slot_eq isSlot' named covers coversBase, empty] at isSlot
    cases isSlot
  · exact (accounted'.mem_heldFrames_iff tiled' _).mpr ⟨slot, d', isSlot', covers⟩

/-- Runs of the same sizes have at most as many frames. -/
theorem Accounted.countHeldBy_le (accounted : Accounted True frames owner place)
    (tiled : Tiled reserved frames) (accounted' : Accounted True frames' owner' place')
    (tiled' : Tiled reserved' frames')
    (sizes : ∀ slot, (place slot).map Extent.size = (place' slot).map Extent.size) :
    countHeldBy frames owner ≤ countHeldBy frames' owner' := by
  rw [countHeldBy_eq_card frames']
  refine accounted.countHeldBy_le_card tiled accounted' fun slot e named => ?_
  have sameSize := sizes slot
  rw [named, Option.map_some] at sameSize
  obtain ⟨e', named', equal⟩ := Option.map_eq_some_iff.mp sameSize.symm
  refine ⟨e', named', equal, fun j covers => ?_⟩
  exact (accounted'.mem_heldFrames_iff tiled' _).mpr ⟨slot, e', named', covers⟩

/-- Runs of the same sizes have equally many frames. -/
theorem Accounted.countHeldBy_eq (accounted : Accounted True frames owner place)
    (tiled : Tiled reserved frames) (accounted' : Accounted True frames' owner' place')
    (tiled' : Tiled reserved' frames')
    (sizes : ∀ slot, (place slot).map Extent.size = (place' slot).map Extent.size) :
    countHeldBy frames owner = countHeldBy frames' owner' := by
  apply Nat.le_antisymm
  · exact accounted.countHeldBy_le tiled accounted' tiled' sizes
  · exact accounted'.countHeldBy_le tiled' accounted tiled fun slot => (sizes slot).symm

/-- An owner whose slots name what they named, and some slots besides, has the frames of
those slots more in use. -/
theorem Accounted.countHeldBy_eq_add [DecidableEq ι]
    (accounted : Accounted True frames owner place) (tiled : Tiled reserved frames)
    (accounted' : Accounted True frames' owner' place') (tiled' : Tiled reserved' frames')
    (kept : ∀ slot e, place slot = some e → place' slot = some e) (gained : Finset ι)
    (empty : ∀ slot ∈ gained, place slot = none)
    (all : ∀ slot, place slot = none → place' slot ≠ none → slot ∈ gained) :
    countHeldBy frames' owner' =
      countHeldBy frames owner + ∑ slot ∈ gained, (place' slot).elim 0 Extent.size := by
  have apart : (gained : Set ι).PairwiseDisjoint (slotFrames place') := by
    intro slot _ slot' _ different
    rw [Function.onFun, Finset.disjoint_left]
    intro i inSlot inSlot'
    obtain ⟨e, named, covers⟩ := mem_slotFrames_iff.mp inSlot
    obtain ⟨e', named', covers'⟩ := mem_slotFrames_iff.mp inSlot'
    exact different (accounted'.slot_eq named named' covers covers')
  have union : heldFrames frames' owner' =
      heldFrames frames owner ∪ gained.biUnion (slotFrames place') := by
    ext i
    rw [Finset.mem_union, Finset.mem_biUnion, accounted.mem_heldFrames_iff tiled,
      accounted'.mem_heldFrames_iff tiled']
    constructor
    · rintro ⟨slot, e, named, covers⟩
      rcases old : place slot with _ | d
      · refine .inr ⟨slot, all slot old ?_, mem_slotFrames_iff.mpr ⟨e, named, covers⟩⟩
        rw [named]
        nofun
      · obtain rfl := Option.some.inj (named.symm.trans (kept slot d old))
        exact .inl ⟨slot, e, old, covers⟩
    · rintro (⟨slot, e, named, covers⟩ | ⟨slot, _, inSlot⟩)
      · exact ⟨slot, e, kept slot e named, covers⟩
      · exact ⟨slot, mem_slotFrames_iff.mp inSlot⟩
  have disjoint : Disjoint (heldFrames frames owner) (gained.biUnion (slotFrames place')) := by
    rw [Finset.disjoint_left]
    intro i held inGained
    obtain ⟨slot, e, named, covers⟩ := (accounted.mem_heldFrames_iff tiled i).mp held
    obtain ⟨slot', isGained, inSlot'⟩ := Finset.mem_biUnion.mp inGained
    obtain ⟨e', named', covers'⟩ := mem_slotFrames_iff.mp inSlot'
    obtain rfl := accounted'.slot_eq (kept slot e named) named' covers covers'
    rw [empty slot isGained] at named
    cases named
  rw [countHeldBy_eq_card, countHeldBy_eq_card, union, Finset.card_union_of_disjoint disjoint,
    Finset.card_biUnion apart]
  simp only [card_slotFrames]

/-- One more run has as many frames as it is long. -/
theorem Accounted.countHeldBy_update [DecidableEq ι]
    (accounted : Accounted True frames owner place) (tiled : Tiled reserved frames) {slot : ι}
    {e : Extent} (accounted' : Accounted True frames' owner' (Function.update place slot (some e)))
    (tiled' : Tiled reserved' frames') (empty : place slot = none) :
    countHeldBy frames' owner' = countHeldBy frames owner + e.size := by
  rw [accounted.countHeldBy_eq_add tiled accounted' tiled' ?_ {slot} ?_ ?_, Finset.sum_singleton,
    Function.update_self, Option.elim_some]
  · intro other e' named
    have different : other ≠ slot := by
      rintro rfl
      cases empty.symm.trans named
    rw [Function.update_of_ne different, named]
  · intro other isSlot
    rw [Finset.mem_singleton.mp isSlot, empty]
  · intro other vacant named
    by_contra different
    rw [Function.update_of_ne (Finset.mem_singleton.not.mp different)] at named
    exact named vacant

end PagedMemory
