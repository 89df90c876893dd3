import Mathlib.Tactic.ByContra
import PagedMemory.Coremap.Search

/-!
# Blocks among descriptors

A block is a run of frames that one allocation received: all of its frames, and
no others, carry its identity. An array of descriptors is tiled if it begins
with the reserved frames, has no others, and every frame in use lies in a block.
Claiming a free run for a fresh identity adds one block, freeing a block takes
one away, and neither touches another block.
-/

namespace PagedMemory

/-- The frames of one allocation, as its descriptors describe them. -/
structure Block where
  /-- The first frame. -/
  base : Nat
  /-- How many frames there are. -/
  size : Nat
  owner : Owner
  id : BlockId
deriving DecidableEq

namespace Block

/-- What is recorded about each frame of the block. -/
def descriptor (b : Block) : Descriptor :=
  .inUse b.owner b.id b.size

/-- The frame `i` is one of the block's. -/
def Covers (b : Block) (i : Nat) : Prop :=
  b.base ≤ i ∧ i < b.base + b.size

instance (b : Block) (i : Nat) : Decidable (b.Covers i) :=
  inferInstanceAs (Decidable (_ ∧ _))

/-- The frames of two blocks do not meet. -/
def Apart (b c : Block) : Prop :=
  ∀ i, b.Covers i → ¬ c.Covers i

theorem covers_base {b : Block} (nonempty : 0 < b.size) : b.Covers b.base :=
  ⟨Nat.le_refl _, by omega⟩

@[simp]
theorem block_descriptor (b : Block) : b.descriptor.block = some b.id :=
  rfl

/-- A block whose descriptor is recorded on a frame is known from that frame up
to its position. -/
theorem eq_of_descriptor {b c : Block} (same : b.descriptor = c.descriptor)
    (base : b.base = c.base) : b = c := by
  rcases b with ⟨base, size, owner, id⟩
  rcases c with ⟨base', size', owner', id'⟩
  simp only [descriptor, Descriptor.inUse.injEq] at same
  simp_all

end Block

/-- A block is live among some descriptors: all of its frames, and no others,
carry its identity. -/
structure Live (frames : Array Descriptor) (b : Block) : Prop where
  nonempty : 0 < b.size
  recorded : ∀ i, b.Covers i → frames[i]? = some b.descriptor
  alone : ∀ (i : Nat) (descriptor : Descriptor), frames[i]? = some descriptor →
    descriptor.block = some b.id → b.Covers i

/-- No frame carries an identity. -/
def Fresh (frames : Array Descriptor) (id : BlockId) : Prop :=
  ∀ (i : Nat) (descriptor : Descriptor), frames[i]? = some descriptor → descriptor.block ≠ some id

/-- The frames below `reserved`, and no others, are reserved, and every frame in
use belongs to a live block. -/
structure Tiled (reserved : Nat) (frames : Array Descriptor) : Prop where
  fixed_iff : ∀ i, frames[i]? = some .fixed ↔ i < reserved
  covered : ∀ i owner id size, frames[i]? = some (.inUse owner id size) →
    ∃ base, Live frames ⟨base, size, owner, id⟩ ∧ Block.Covers ⟨base, size, owner, id⟩ i

variable {frames frames' : Array Descriptor} {b c : Block} {i reserved : Nat}

/-! ## A frame names its block -/

namespace Live

theorem within (live : Live frames b) : b.base + b.size ≤ frames.size := by
  have nonempty := live.nonempty
  have last : b.Covers (b.base + b.size - 1) := ⟨by omega, by omega⟩
  have recorded := live.recorded _ last
  by_contra outside
  rw [Array.getElem?_eq_none (by omega)] at recorded
  cases recorded

/-- Whether a block is live can be read off the descriptors one by one. -/
theorem iff_forall (frames : Array Descriptor) (b : Block) :
    Live frames b ↔ 0 < b.size ∧ b.base + b.size ≤ frames.size ∧
      ∀ i : Fin frames.size,
        if b.Covers i then frames[i] = b.descriptor else frames[i].block ≠ some b.id := by
  constructor
  · intro live
    refine ⟨live.nonempty, live.within, fun i => ?_⟩
    have recorded : frames[i.val]? = some frames[i] := Array.getElem?_eq_getElem i.isLt
    split
    · next covers => exact Option.some.inj (recorded.symm.trans (live.recorded i covers))
    · next outside => exact fun carried => outside (live.alone i _ recorded carried)
  · rintro ⟨nonempty, within, each⟩
    constructor
    · exact nonempty
    · intro i covers
      have inside : i < frames.size := Nat.lt_of_lt_of_le covers.2 within
      have recorded := each ⟨i, inside⟩
      rw [if_pos covers] at recorded
      exact (Array.getElem?_eq_getElem inside).trans (congrArg some recorded)
    · intro i descriptor found carried
      obtain ⟨inside, rfl⟩ := Array.getElem?_eq_some_iff.mp found
      by_contra outside
      have other := each ⟨i, inside⟩
      rw [if_neg outside] at other
      exact other carried

instance (frames : Array Descriptor) (b : Block) : Decidable (Live frames b) :=
  decidable_of_iff' _ (iff_forall frames b)

theorem eq_of_covers (first : Live frames b) (second : Live frames c) (inFirst : b.Covers i)
    (inSecond : c.Covers i) : b = c := by
  have same : b.descriptor = c.descriptor :=
    Option.some.inj ((first.recorded i inFirst).symm.trans (second.recorded i inSecond))
  have sameId : b.id = c.id := by
    simpa using congrArg Descriptor.block same
  have low : c.base ≤ b.base :=
    (second.alone _ _ (first.recorded _ (Block.covers_base first.nonempty))
      (by rw [Block.block_descriptor, sameId])).1
  have high : b.base ≤ c.base :=
    (first.alone _ _ (second.recorded _ (Block.covers_base second.nonempty))
      (by rw [Block.block_descriptor, sameId])).1
  exact Block.eq_of_descriptor same (Nat.le_antisymm high low)

theorem eq_of_id (first : Live frames b) (second : Live frames c) (same : b.id = c.id) : b = c := by
  have atBase := first.recorded _ (Block.covers_base first.nonempty)
  refine first.eq_of_covers second (Block.covers_base first.nonempty) ?_
  exact second.alone _ _ atBase (by rw [Block.block_descriptor, same])

theorem eq_of_base (first : Live frames b) (second : Live frames c) (same : b.base = c.base) :
    b = c := by
  refine first.eq_of_covers second (Block.covers_base first.nonempty) ?_
  rw [same]
  exact Block.covers_base second.nonempty

/-- Different live blocks have no frame in common. -/
theorem apart (first : Live frames b) (second : Live frames c) (different : b ≠ c) : b.Apart c :=
  fun _ inFirst inSecond => different (first.eq_of_covers second inFirst inSecond)

/-- A reserved frame is in no live block. -/
theorem not_covers_of_fixed (live : Live frames b) (isFixed : frames[i]? = some .fixed) :
    ¬ b.Covers i := by
  intro covers
  rw [live.recorded i covers] at isFixed
  cases isFixed

theorem ne_of_fresh {id : BlockId} (live : Live frames b) (fresh : Fresh frames id) :
    b.id ≠ id := by
  rintro rfl
  exact fresh _ _ (live.recorded _ (Block.covers_base live.nonempty)) rfl

end Live

/-- A frame is in use for an owner exactly if a live block of the owner covers
it. -/
theorem Tiled.isHeldBy_iff (tiled : Tiled reserved frames) (owner : Owner) (i : Nat) :
    (frames[i]?.any fun descriptor => descriptor.isHeldBy owner) = true ↔
      ∃ b, Live frames b ∧ b.owner = owner ∧ b.Covers i := by
  constructor
  · intro held
    rcases recorded : frames[i]? with _ | _ | _ | ⟨holder, id, size⟩
    · simp [recorded] at held
    · simp [recorded, Descriptor.isHeldBy] at held
    · simp [recorded, Descriptor.isHeldBy] at held
    · obtain ⟨base, live, covers⟩ := tiled.covered i holder id size recorded
      refine ⟨_, live, ?_, covers⟩
      simpa [recorded, Descriptor.isHeldBy] using held
  · rintro ⟨b, live, rfl, covers⟩
    simp [live.recorded i covers, Block.descriptor, Descriptor.isHeldBy]

/-- No frame of a live block is reserved. -/
theorem Tiled.reserved_le (tiled : Tiled reserved frames) (live : Live frames b) :
    reserved ≤ b.base := by
  by_contra below
  have fixed := (tiled.fixed_iff b.base).mpr (Nat.lt_of_not_le below)
  have recorded := live.recorded _ (Block.covers_base live.nonempty)
  rw [fixed] at recorded
  cases recorded

/-- A frame that no block covers is reserved, free or past the end. -/
theorem Tiled.getElem?_of_not_covers (tiled : Tiled reserved frames) {i : Nat}
    (outside : ∀ b, Live frames b → ¬ b.Covers i) :
    frames[i]? =
      if i < reserved then some .fixed else if i < frames.size then some .free else none := by
  by_cases low : i < reserved
  · rw [if_pos low, (tiled.fixed_iff i).mpr low]
  · rw [if_neg low]
    by_cases inRam : i < frames.size
    · rw [if_pos inRam]
      rcases recorded : frames[i] with _ | _ | ⟨owner, id, size⟩
      · rw [Array.getElem?_eq_getElem inRam, recorded]
      · have fixed : frames[i]? = some .fixed := by
          rw [Array.getElem?_eq_getElem inRam, recorded]
        exact absurd ((tiled.fixed_iff i).mp fixed) low
      · have inUse : frames[i]? = some (.inUse owner id size) := by
          rw [Array.getElem?_eq_getElem inRam, recorded]
        obtain ⟨base, live, covers⟩ := tiled.covered i owner id size inUse
        exact absurd covers (outside _ live)
    · rw [if_neg inRam, Array.getElem?_eq_none (Nat.le_of_not_lt inRam)]

/-- Descriptors with the same blocks at a frame say the same of it. -/
theorem Tiled.getElem?_eq_of_live_iff (tiled : Tiled reserved frames)
    (tiled' : Tiled reserved frames') (sameSize : frames'.size = frames.size) {i : Nat}
    (same : ∀ b, b.Covers i → (Live frames' b ↔ Live frames b)) : frames'[i]? = frames[i]? := by
  by_cases covered : ∃ b, Live frames b ∧ b.Covers i
  · obtain ⟨b, live, covers⟩ := covered
    rw [live.recorded i covers, ((same b covers).mpr live).recorded i covers]
  · have outside (b : Block) (live : Live frames b) : ¬ b.Covers i :=
      fun covers => covered ⟨b, live, covers⟩
    have outside' (b : Block) (live : Live frames' b) : ¬ b.Covers i :=
      fun covers => covered ⟨b, (same b covers).mp live, covers⟩
    rw [tiled.getElem?_of_not_covers outside, tiled'.getElem?_of_not_covers outside', sameSize]

/-! ## Claiming a free run -/

open Coremap (fill getElem?_fill size_fill)

theorem getElem?_fill_of_covers {descriptor : Descriptor} (covers : b.Covers i)
    (within : b.base + b.size ≤ frames.size) :
    (fill descriptor frames b.base b.size)[i]? = some descriptor := by
  rw [getElem?_fill, if_pos ⟨covers.1, covers.2, Nat.lt_of_lt_of_le covers.2 within⟩]

theorem getElem?_fill_of_not_covers {descriptor : Descriptor} (outside : ¬ b.Covers i) :
    (fill descriptor frames b.base b.size)[i]? = frames[i]? := by
  rw [getElem?_fill, if_neg]
  rintro ⟨low, high, _⟩
  exact outside ⟨low, high⟩

/-- A run of free frames in which a block with a fresh identity can be placed. -/
structure Vacant (frames : Array Descriptor) (b : Block) : Prop where
  nonempty : 0 < b.size
  free : ∀ i, b.Covers i → frames[i]? = some .free
  fresh : Fresh frames b.id

namespace Vacant

theorem within (vacant : Vacant frames b) : b.base + b.size ≤ frames.size := by
  have nonempty := vacant.nonempty
  have last : b.Covers (b.base + b.size - 1) := ⟨by omega, by omega⟩
  have recorded := vacant.free _ last
  by_contra outside
  rw [Array.getElem?_eq_none (by omega)] at recorded
  cases recorded

/-- A reserved frame is not vacant. -/
theorem not_covers_of_fixed (vacant : Vacant frames b) {i : Nat}
    (isFixed : frames[i]? = some .fixed) : ¬ b.Covers i := by
  intro covers
  rw [vacant.free i covers] at isFixed
  cases isFixed

theorem not_covers (vacant : Vacant frames b) (live : Live frames c) (inLive : c.Covers i) :
    ¬ b.Covers i := by
  intro inVacant
  have recorded := live.recorded i inLive
  rw [vacant.free i inVacant] at recorded
  cases recorded

/-- The block that is placed is live, and so is every block that was. -/
theorem live_fill_iff (vacant : Vacant frames b) :
    Live (fill b.descriptor frames b.base b.size) c ↔ c = b ∨ Live frames c := by
  have inside (i : Nat) (covers : b.Covers i) :
      (fill b.descriptor frames b.base b.size)[i]? = some b.descriptor :=
    getElem?_fill_of_covers covers vacant.within
  have outside (i : Nat) (away : ¬ b.Covers i) :
      (fill b.descriptor frames b.base b.size)[i]? = frames[i]? :=
    getElem?_fill_of_not_covers away
  have placed : Live (fill b.descriptor frames b.base b.size) b := by
    refine ⟨vacant.nonempty, inside, ?_⟩
    intro i descriptor recorded sameId
    by_contra away
    rw [outside i away] at recorded
    exact vacant.fresh i descriptor recorded sameId
  constructor
  · intro live
    by_cases sameId : c.id = b.id
    · exact .inl (live.eq_of_id placed sameId)
    · right
      have notInside (i : Nat) (inLive : c.Covers i) : ¬ b.Covers i := by
        intro covers
        have recorded := live.recorded i inLive
        rw [inside i covers] at recorded
        exact sameId (by simpa using congrArg (Option.bind · Descriptor.block) recorded.symm)
      refine ⟨live.nonempty, ?_, ?_⟩
      · intro i inLive
        rw [← outside i (notInside i inLive)]
        exact live.recorded i inLive
      · intro i descriptor recorded carried
        by_cases covers : b.Covers i
        · rw [vacant.free i covers] at recorded
          cases recorded
          cases carried
        · exact live.alone i descriptor ((outside i covers).trans recorded) carried
  · rintro (rfl | live)
    · exact placed
    · refine ⟨live.nonempty, ?_, ?_⟩
      · intro i inLive
        rw [outside i (vacant.not_covers live inLive)]
        exact live.recorded i inLive
      · intro i descriptor recorded carried
        by_cases covers : b.Covers i
        · rw [inside i covers] at recorded
          cases recorded
          exact absurd (Option.some.inj carried).symm (live.ne_of_fresh vacant.fresh)
        · exact live.alone i descriptor ((outside i covers).symm.trans recorded) carried

theorem tiled_fill (vacant : Vacant frames b) (tiled : Tiled reserved frames) :
    Tiled reserved (fill b.descriptor frames b.base b.size) := by
  constructor
  · intro i
    rw [← tiled.fixed_iff i]
    by_cases covers : b.Covers i
    · rw [getElem?_fill_of_covers covers vacant.within, vacant.free i covers]
      simp [Block.descriptor]
    · rw [getElem?_fill_of_not_covers covers]
  · intro i owner id size recorded
    by_cases covers : b.Covers i
    · rw [getElem?_fill_of_covers covers vacant.within] at recorded
      rcases b with ⟨base, size, owner, id⟩
      cases recorded
      exact ⟨base, vacant.live_fill_iff.mpr (.inl rfl), covers⟩
    · rw [getElem?_fill_of_not_covers covers] at recorded
      obtain ⟨base, live, inLive⟩ := tiled.covered i owner id size recorded
      exact ⟨base, vacant.live_fill_iff.mpr (.inr live), inLive⟩

end Vacant

/-! ## Freeing a block -/

namespace Live

/-- The block that is freed is gone, and every other block stays live. -/
theorem live_fill_free_iff (live : Live frames b) :
    Live (fill .free frames b.base b.size) c ↔ Live frames c ∧ c ≠ b := by
  have inside (i : Nat) (covers : b.Covers i) :
      (fill .free frames b.base b.size)[i]? = some .free :=
    getElem?_fill_of_covers covers live.within
  have outside (i : Nat) (away : ¬ b.Covers i) :
      (fill .free frames b.base b.size)[i]? = frames[i]? :=
    getElem?_fill_of_not_covers away
  constructor
  · intro after
    have notInside (i : Nat) (covers : c.Covers i) : ¬ b.Covers i := by
      intro inFreed
      have recorded := after.recorded i covers
      rw [inside i inFreed] at recorded
      cases recorded
    refine ⟨⟨after.nonempty, ?_, ?_⟩, ?_⟩
    · intro i covers
      rw [← outside i (notInside i covers)]
      exact after.recorded i covers
    · intro i descriptor recorded carried
      have atBase := after.recorded _ (Block.covers_base after.nonempty)
      rw [outside _ (notInside _ (Block.covers_base after.nonempty))] at atBase
      refine after.alone i descriptor ?_ carried
      rw [outside i ?_, recorded]
      intro inFreed
      rw [live.recorded i inFreed] at recorded
      cases recorded
      refine notInside _ (Block.covers_base after.nonempty) (live.alone _ _ atBase ?_)
      rw [Block.block_descriptor, ← carried, Block.block_descriptor]
    · rintro rfl
      exact notInside _ (Block.covers_base after.nonempty) (Block.covers_base after.nonempty)
  · rintro ⟨before, different⟩
    have apart := before.apart live different
    refine ⟨before.nonempty, ?_, ?_⟩
    · intro i covers
      rw [outside i (apart i covers)]
      exact before.recorded i covers
    · intro i descriptor recorded carried
      by_cases inFreed : b.Covers i
      · rw [inside i inFreed] at recorded
        cases recorded
        cases carried
      · exact before.alone i descriptor ((outside i inFreed).symm.trans recorded) carried

theorem tiled_fill_free (live : Live frames b) (tiled : Tiled reserved frames) :
    Tiled reserved (fill .free frames b.base b.size) := by
  constructor
  · intro i
    rw [← tiled.fixed_iff i]
    by_cases covers : b.Covers i
    · rw [getElem?_fill_of_covers covers live.within, live.recorded i covers]
      simp [Block.descriptor]
    · rw [getElem?_fill_of_not_covers covers]
  · intro i owner id size recorded
    by_cases covers : b.Covers i
    · rw [getElem?_fill_of_covers covers live.within] at recorded
      cases recorded
    · rw [getElem?_fill_of_not_covers covers] at recorded
      obtain ⟨base, before, inBefore⟩ := tiled.covered i owner id size recorded
      refine ⟨base, live.live_fill_free_iff.mpr ⟨before, ?_⟩, inBefore⟩
      rintro rfl
      exact covers inBefore

end Live

/-- Freeing what was placed in a free run gives the old descriptors back. -/
theorem Vacant.fill_free_fill (vacant : Vacant frames b) :
    fill .free (fill b.descriptor frames b.base b.size) b.base b.size = frames := by
  apply Array.ext_getElem?
  intro i
  by_cases covers : b.Covers i
  · rw [getElem?_fill_of_covers covers (by simpa using vacant.within), vacant.free i covers]
  · rw [getElem?_fill_of_not_covers covers, getElem?_fill_of_not_covers covers]

end PagedMemory
