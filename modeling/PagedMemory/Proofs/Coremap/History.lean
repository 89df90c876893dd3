import Mathlib.Logic.Function.Iterate
import PagedMemory.Proofs.Coremap.Representation

/-!
# What calls keep of earlier ones

The counter of identities never goes back while it has not started over, and a
block is never changed: one whose identity was drawn before a call and that is
live after it was live before it, with the same frames and the same owner. So a
block that is live after any calls is still as the call left it that got it. There
are `2 ^ 32 - 1` identities to draw before the first of them comes round again.
-/

namespace PagedMemory

/-- The counter goes round the identities from one on. -/
theorem BlockId.iterate_succ {id : BlockId} (positive : 0 < id.number)
    (bounded : id.number < 0x100000000) (n : Nat) :
    succ^[n] id = ⟨(id.number - 1 + n) % 0xFFFFFFFF + 1⟩ := by
  induction n with
  | zero =>
    have inRange : id.number - 1 + 0 < 0xFFFFFFFF := by omega
    rw [Function.iterate_zero_apply, Nat.mod_eq_of_lt inRange, Nat.add_zero,
      Nat.sub_add_cancel positive]
  | succ n ih =>
    rw [Function.iterate_succ_apply', ih]
    unfold succ boot
    dsimp only
    split <;> congr 1 <;> omega

namespace Coremap

variable {ε π : Type} {c t u : Coremap π} {b : Block} {context : Option Context}

/-- A coremap into which others turn by calls: the counter has not gone back, and
every block of an identity drawn before was live before. -/
structure Precedes (c t : Coremap π) : Prop where
  counter : c.nextBlock.number ≤ t.nextBlock.number
  live : ∀ b, Live t.frames b → b.id.number < c.nextBlock.number → Live c.frames b

namespace Precedes

protected theorem refl (c : Coremap π) : c.Precedes c :=
  ⟨Nat.le_refl _, fun _ live _ => live⟩

protected theorem trans (first : c.Precedes t) (second : t.Precedes u) : c.Precedes u where
  counter := Nat.le_trans first.counter second.counter
  live b live drawn :=
    first.live b (second.live b live (Nat.lt_of_lt_of_le drawn first.counter)) drawn

/-- Blocks that are evicted are gone, and the others stay as they were. -/
theorem of_evicted {reserved : Nat} (evicted : Evicted reserved c t) : c.Precedes t where
  counter := Nat.le_of_eq (by rw [evicted.same])
  live b live _ := evicted.shrunk.live b live

/-- A block under an identity that was not drawn before is placed among the others. -/
theorem placed (before : c.Precedes t) (vacant : Vacant t.frames b)
    (undrawn : c.nextBlock.number ≤ b.id.number) (cursor : Nat) :
    c.Precedes
      { t with frames := fill b.descriptor t.frames b.base b.size, cursor := cursor } where
  counter := before.counter
  live d live drawn := by
    rcases vacant.live_fill_iff.mp live with rfl | live
    · omega
    · exact before.live d live drawn

theorem of_freed (live : Live c.frames b) :
    c.Precedes { c with frames := fill .free c.frames b.base b.size, cursor := b.base } where
  counter := Nat.le_refl _
  live _ liveAfter _ := (live.live_fill_free_iff.mp liveAfter).1

end Precedes

/-! ## Single calls -/

/-- An allocation that returns has drawn the next identity for the block that it
places, and however it ends it changes no other block. -/
theorem ends_allocate_precedes [EvictionPolicy π] (sound : c.Sound) (room : c.Room 1)
    {wanted : Nat} {owner : Owner} {left : Nat} :
    (allocate context wanted owner).Ends left c
      ⟨fun base t _ => c.Precedes t ∧ c.nextBlock.number < t.nextBlock.number ∧
          Live t.frames ⟨base.number, wanted, owner, c.nextBlock⟩,
        fun _ t _ => c.Precedes t,
        fun _ t => c.Precedes t⟩ := by
  have next : c.nextBlock.succ.number = c.nextBlock.number + 1 := Room.succ 0 room
  have drawn : c.Precedes { c with nextBlock := c.nextBlock.succ } :=
    ⟨by simp only [next]; omega, fun _ live _ => live⟩
  unfold allocate
  simp only [Operation.ends_bind, Operation.ends_require]
  split
  · refine ends_drawBlock sound (fun _ _ => .refl c) ?_
    intro canSleep left' _
    refine (ends_claim_section (c := { c with nextBlock := c.nextBlock.succ }) sound.unlocked
      sound.tiled sound.few sound.fresh_nextBlock).mono ?_ (fun _ _ _ => False.elim) ?_
    · rintro (_ | base) t left claimed
      · simp only [Operation.ends_bind, Operation.ends_log, Operation.ends_fail]
        exact drawn.trans (.of_evicted claimed)
      · obtain ⟨m, evicted, vacant, rfl⟩ := claimed
        simp only [Operation.ends_bind, Operation.ends_log, Operation.ends_pure]
        have counter : m.nextBlock.number = c.nextBlock.number + 1 := by
          rw [evicted.same, ← next]
        exact ⟨(drawn.trans (.of_evicted evicted)).placed vacant (Nat.le_refl _) _,
          by simp only [counter]; omega, vacant.live_fill_iff.mpr (.inl rfl)⟩
    · exact fun _ _ evicted => drawn.trans (.of_evicted evicted)
  · exact .refl c

/-- The section of a release, and with it the release, frees a live block by its first
frame, or it panics and changes nothing. -/
theorem ends_releaseBlock_whole {reserved : Nat} (unlocked : c.locks = .free)
    (tiled : Tiled reserved c.frames) {base : Frame} {single : Bool} {left : Nat} :
    (releaseBlock context base single : Operation ε (Coremap π) Unit).Ends left c
      ⟨fun _ t _ => ∃ b, Live c.frames b ∧ base.number = b.base ∧ (single = true → b.size = 1) ∧
          t = { c with frames := fill .free c.frames b.base b.size, cursor := b.base },
        fun _ _ _ => False,
        fun _ t => t = c⟩ := by
  refine (ends_reclaim_section unlocked tiled).bind ?_ (fun _ _ _ => id) (fun _ _ => id)
  rintro size t left ⟨b, live, first, matching, _, freed⟩
  exact Operation.ends_log.mpr ⟨b, live, first, matching, freed⟩

theorem precedes_releaseBlock (sound : c.Sound) (base : Frame) (single : Bool) :
    c.Precedes ((releaseBlock context base single : Operation ε (Coremap π) Unit).run c).state := by
  refine Operation.state_of_ends fun left =>
    (ends_releaseBlock_whole sound.unlocked sound.tiled).mono ?_ (fun _ _ _ => False.elim) ?_
  · rintro ⟨⟩ t _ ⟨b, live, _, _, rfl⟩
    exact .of_freed live
  · rintro cause t rfl
    exact .refl t

/-! ## Many calls -/

variable [EvictionPolicy π]

theorem precedes_after (sound : c.Sound) (context : Option Context) (call : Call)
    (room : c.Room (if call.allocates then 1 else 0)) : c.Precedes (call.after context c) := by
  have allocated (wanted : Nat) (owner : Owner) (room : c.Room 1) :
      c.Precedes ((allocate context wanted owner).run c).state :=
    Operation.state_of_ends fun _ => (ends_allocate_precedes sound room).mono
      (fun _ _ _ => And.left) (fun _ _ _ => id) fun _ _ => id
  cases call with
  | allocate wanted owner => exact allocated wanted owner room
  | allocateSingle owner => exact allocated 1 owner room
  | free base => exact precedes_releaseBlock sound base false
  | freeSingle frame => exact precedes_releaseBlock sound frame true

/-- Calls change no block and do not set the counter back. -/
theorem precedes_afterCalls (sound : c.Sound) (calls : List (Option Context × Call))
    (room : c.Room (allocations calls)) : c.Precedes (afterCalls c calls) := by
  induction calls generalizing c with
  | nil => exact .refl c
  | cons first rest ih =>
    obtain ⟨roomNow, advanced, roomAfter⟩ := advanced_cons sound first.1 first.2 rest room
    exact (precedes_after sound first.1 first.2 roomNow).trans (ih advanced.sound roomAfter)

theorem afterCalls_append (earlier later : List (Option Context × Call)) :
    afterCalls c (earlier ++ later) = afterCalls (afterCalls c earlier) later := by
  induction earlier generalizing c with
  | nil => rfl
  | cons first rest ih => exact ih

/-- The identity that is drawn next has never been on a frame. -/
theorem fresh_afterCalls {earlier later : List (Option Context × Call)}
    (ready : c.Ready (allocations (earlier ++ later))) :
    Fresh (afterCalls c earlier).frames (afterCalls c (earlier ++ later)).nextBlock := by
  have before := ready_afterCalls ready
  rw [afterCalls_append]
  have counter := (precedes_afterCalls before.sound later before.room).counter
  refine before.sound.fresh (Nat.lt_of_lt_of_le before.sound.positive counter) ?_
  intro b live same
  have drawn := (before.sound.drawn b live).2
  rw [same] at drawn
  omega

end Coremap

end PagedMemory
