import PagedMemory.Proofs.Coremap.Blocks
import PagedMemory.Proofs.PartialMaps

/-!
# Accounts of an owner

An account tells where an owner has put its blocks: each slot is empty or names
a run of frames. It is kept if the runs that are named are live blocks of the
owner and no run is named twice, and it is complete if no block of the owner is
missing. An account follows what happens to the descriptors: a block that is
claimed enters an empty slot, a block that is freed leaves its slot, and blocks
of others do not count. An owner that forgets where a block is goes on with an
account that is not complete.
-/

namespace PagedMemory

/-- A run of frames. -/
structure Extent where
  /-- The first frame. -/
  base : Nat
  /-- How many frames there are. -/
  size : Nat
deriving DecidableEq

namespace Extent

/-- The run of a single frame. -/
def ofFrame (frame : Frame) : Extent :=
  ⟨frame.number, 1⟩

/-- The frame `i` is one of the run's. -/
def Covers (e : Extent) (i : Nat) : Prop :=
  e.base ≤ i ∧ i < e.base + e.size

/-- A block that lies on the run. -/
def block (e : Extent) (owner : Owner) (id : BlockId) : Block :=
  ⟨e.base, e.size, owner, id⟩

theorem covers_ofFrame_iff {frame : Frame} {i : Nat} :
    (ofFrame frame).Covers i ↔ i = frame.number := by
  simp only [Covers, ofFrame]
  omega

end Extent

/-- The frames of a block. -/
def Block.extent (b : Block) : Extent :=
  ⟨b.base, b.size⟩

/-- Slots name live blocks of an owner, each once, and if the account is complete
they name all of them. -/
structure Accounted {ι : Type} (complete : Prop) (frames : Array Descriptor) (owner : Owner)
    (place : ι → Option Extent) : Prop where
  live : ∀ slot e, place slot = some e → ∃ id, Live frames (e.block owner id)
  told : complete → ∀ b, Live frames b → b.owner = owner → ∃ slot, place slot = some b.extent
  once : ∀ slot slot' e, place slot = some e → place slot' = some e → slot = slot'

namespace Accounted

open Coremap (fill)

variable {ι : Type} {complete complete' : Prop} {frames frames' : Array Descriptor} {owner : Owner}
  {b : Block} {e e' : Extent} {place : ι → Option Extent} {slot slot' : ι}

/-- A frame lies in one slot at most. -/
theorem slot_eq (accounted : Accounted complete frames owner place) (named : place slot = some e)
    (named' : place slot' = some e') {i : Nat} (covers : e.Covers i) (covers' : e'.Covers i) :
    slot = slot' := by
  obtain ⟨id, live⟩ := accounted.live slot e named
  obtain ⟨id', live'⟩ := accounted.live slot' e' named'
  have same : e.block owner id = e'.block owner id' := live.eq_of_covers live' covers covers'
  have sameExtent : e = e' := congrArg Block.extent same
  exact accounted.once slot slot' e named (sameExtent ▸ named')

/-- Only the owner's blocks count. -/
theorem congr (accounted : Accounted complete frames owner place)
    (same : ∀ b, b.owner = owner → (Live frames' b ↔ Live frames b)) :
    Accounted complete frames' owner place where
  live slot e named := by
    obtain ⟨id, live⟩ := accounted.live slot e named
    exact ⟨id, (same _ rfl).mpr live⟩
  told isComplete b live mine := accounted.told isComplete b ((same b mine).mp live) mine
  once := accounted.once

/-- Less may be said of an account. -/
theorem weaken (accounted : Accounted complete frames owner place) (less : complete' → complete) :
    Accounted complete' frames owner place where
  live := accounted.live
  told isComplete := accounted.told (less isComplete)
  once := accounted.once

/-- The blocks that an owner holds cover the frames that its slots name. -/
theorem exists_live_iff (accounted : Accounted complete frames owner place) (isComplete : complete)
    (i : Nat) :
    (∃ b, Live frames b ∧ b.owner = owner ∧ b.Covers i) ↔
      ∃ slot e, place slot = some e ∧ e.Covers i := by
  constructor
  · rintro ⟨b, live, mine, covers⟩
    obtain ⟨slot, named⟩ := accounted.told isComplete b live mine
    exact ⟨slot, b.extent, named, covers⟩
  · rintro ⟨slot, e, named, covers⟩
    obtain ⟨id, live⟩ := accounted.live slot e named
    exact ⟨_, live, rfl, covers⟩

variable [DecidableEq ι]

/-- A claimed block enters an empty slot. -/
theorem grant (accounted : Accounted complete frames owner place) (vacant : Vacant frames b)
    (mine : b.owner = owner) (empty : place slot = none) :
    Accounted complete (fill b.descriptor frames b.base b.size) owner
      (Function.update place slot (some b.extent)) := by
  have notOld {other : ι} (named : place other = some b.extent) : False := by
    obtain ⟨id, live⟩ := accounted.live other _ named
    exact vacant.not_covers live (Block.covers_base live.nonempty)
      (Block.covers_base vacant.nonempty)
  constructor
  · intro other e named
    rcases update_eq_some_iff.mp named with ⟨_, ⟨⟩⟩ | ⟨_, old⟩
    · refine ⟨b.id, ?_⟩
      rw [← mine]
      exact vacant.live_fill_iff.mpr (.inl rfl)
    · obtain ⟨id, live⟩ := accounted.live other e old
      exact ⟨id, vacant.live_fill_iff.mpr (.inr live)⟩
  · intro isComplete c live mineToo
    rcases vacant.live_fill_iff.mp live with rfl | live
    · exact ⟨slot, Function.update_self _ _ _⟩
    · obtain ⟨other, named⟩ := accounted.told isComplete c live mineToo
      exact ⟨other, update_eq_some_of_vacant empty named⟩
  · intro other other' e named named'
    rcases update_eq_some_iff.mp named with ⟨same, ⟨⟩⟩ | ⟨_, old⟩
    · rcases update_eq_some_iff.mp named' with ⟨same', _⟩ | ⟨_, old'⟩
      · exact same.trans same'.symm
      · exact (notOld old').elim
    · rcases update_eq_some_iff.mp named' with ⟨_, ⟨⟩⟩ | ⟨_, old'⟩
      · exact (notOld old).elim
      · exact accounted.once other other' e old old'

/-- A freed block leaves its slot. -/
theorem release (accounted : Accounted complete frames owner place) (live : Live frames b)
    (named : place slot = some b.extent) :
    Accounted complete (fill .free frames b.base b.size) owner
      (Function.update place slot none) := by
  have others {other : ι} {e : Extent}
      (namedAfter : Function.update place slot none other = some e) :
      other ≠ slot ∧ place other = some e := by
    rcases update_eq_some_iff.mp namedAfter with ⟨_, ⟨⟩⟩ | older
    exact older
  constructor
  · intro other e namedAfter
    obtain ⟨different, old⟩ := others namedAfter
    obtain ⟨id, liveOther⟩ := accounted.live other e old
    refine ⟨id, live.live_fill_free_iff.mpr ⟨liveOther, ?_⟩⟩
    intro same
    have sameExtent : e = b.extent := congrArg Block.extent same
    exact different (accounted.once other slot e old (sameExtent ▸ named))
  · intro isComplete c liveAfter mine
    obtain ⟨liveBefore, different⟩ := live.live_fill_free_iff.mp liveAfter
    obtain ⟨other, old⟩ := accounted.told isComplete c liveBefore mine
    refine ⟨other, update_eq_some_iff.mpr (.inr ⟨?_, old⟩)⟩
    rintro rfl
    rw [old, Option.some.injEq] at named
    exact different (liveBefore.eq_of_base live (congrArg Extent.base named))
  · intro other other' e namedAfter namedAfter'
    exact accounted.once other other' e (others namedAfter).2 (others namedAfter').2

/-- A run may move from one slot to another. What the other named is forgotten,
so it has to be empty if the account is to stay complete. -/
theorem move (accounted : Accounted complete frames owner place) (named : place slot = some e)
    (empty : complete → place slot' = none) :
    Accounted complete frames owner
      (Function.update (Function.update place slot none) slot' (some e)) := by
  have others {other : ι} {d : Extent}
      (namedAfter : Function.update (Function.update place slot none) slot' (some e) other =
        some d) :
      (other = slot' ∧ d = e) ∨ (other ≠ slot ∧ place other = some d) := by
    rcases update_eq_some_iff.mp namedAfter with ⟨isTarget, ⟨⟩⟩ | ⟨_, namedBetween⟩
    · exact .inl ⟨isTarget, rfl⟩
    · rcases update_eq_some_iff.mp namedBetween with ⟨_, ⟨⟩⟩ | older
      exact .inr older
  constructor
  · intro other d namedAfter
    rcases others namedAfter with ⟨_, rfl⟩ | ⟨_, old⟩
    · exact accounted.live slot d named
    · exact accounted.live other d old
  · intro isComplete c live mine
    obtain ⟨other, old⟩ := accounted.told isComplete c live mine
    by_cases isSource : other = slot
    · subst isSource
      rw [old] at named
      exact ⟨slot', by rw [Function.update_self, ← named]⟩
    · refine ⟨other, update_eq_some_of_vacant ?_ (update_eq_some_iff.mpr (.inr ⟨isSource, old⟩))⟩
      rw [Function.update_apply, empty isComplete, ite_self]
  · intro other other' d namedAfter namedAfter'
    rcases others namedAfter with ⟨same, rfl⟩ | ⟨notSource, old⟩
    · rcases others namedAfter' with ⟨same', _⟩ | ⟨notSource', old'⟩
      · rw [same, same']
      · exact absurd (accounted.once other' slot d old' named) notSource'
    · rcases others namedAfter' with ⟨_, rfl⟩ | ⟨_, old'⟩
      · exact absurd (accounted.once other slot d old named) notSource
      · exact accounted.once other other' d old old'

end Accounted

/-- An owner without blocks has an account in which every slot is empty. -/
theorem accounted_none {ι : Type} {complete : Prop} {frames : Array Descriptor} {owner : Owner}
    (nothing : ∀ b, Live frames b → b.owner ≠ owner) :
    Accounted complete frames owner fun _ : ι => none where
  live _ _ named := by cases named
  told _ b live mine := absurd mine (nothing b live)
  once _ _ _ named := by cases named

end PagedMemory
