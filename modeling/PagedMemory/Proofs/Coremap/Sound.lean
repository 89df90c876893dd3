import PagedMemory.Proofs.Coremap.Locks
import PagedMemory.Proofs.Coremap.Sections

/-!
# Sound coremaps

A coremap at rest is sound: its descriptors are tiled by live blocks, every
identity in use was drawn before, the cursor is frame zero or a free frame, and
nobody holds a lock. Every call keeps a coremap sound, however the call ends and
whatever the policy answers. Under the policy that gives up nothing the effect
of a call is exact: one block more, one block less, or no change of the
descriptors at all.
-/

namespace PagedMemory.Coremap

variable {ε π : Type} {c t : Coremap π} {b : Block} {context : Option Context}

/-- What holds of a coremap between calls. -/
structure Sound (c : Coremap π) : Prop where
  tiled : Tiled c.reservation.firstAllocatable c.frames
  size_eq : c.frames.size = c.reservation.frameCount
  few : c.frames.size ≤ 0x100000
  positive : 0 < c.nextBlock.number
  drawn : ∀ b, Live c.frames b → 0 < b.id.number ∧ b.id.number < c.nextBlock.number
  cursor : c.cursor = 0 ∨ c.frames[c.cursor]? = some .free
  unlocked : c.locks = .free

/-- The counter of identities can be advanced `left` times before it starts
over. -/
def Room (c : Coremap π) (left : Nat) : Prop :=
  c.nextBlock.number + left < 0x100000000

theorem Room.succ (left : Nat) (room : c.Room (left + 1)) :
    c.nextBlock.succ.number = c.nextBlock.number + 1 := by
  unfold Room at room
  rw [BlockId.succ, if_pos (by omega)]

/-! ## What sections keep -/

namespace Sound

theorem fresh (sound : c.Sound) {id : BlockId} (positive : 0 < id.number)
    (undrawn : ∀ b, Live c.frames b → b.id ≠ id) : Fresh c.frames id := by
  intro i descriptor recorded carried
  cases descriptor with
  | free => cases carried
  | fixed =>
    cases carried
    exact absurd positive (by decide)
  | inUse owner block size =>
    obtain ⟨base, live, _⟩ := sound.tiled.covered i owner block size recorded
    exact undrawn _ live (Option.some.inj carried)

theorem fresh_nextBlock (sound : c.Sound) : Fresh c.frames c.nextBlock := by
  refine sound.fresh sound.positive ?_
  intro b live same
  exact absurd (sound.drawn b live).2 (same ▸ Nat.lt_irrefl _)

theorem advance (sound : c.Sound) (left : Nat) (room : c.Room (left + 1)) :
    Sound { c with nextBlock := c.nextBlock.succ } where
  tiled := sound.tiled
  size_eq := sound.size_eq
  few := sound.few
  positive := by rw [Room.succ left room]; omega
  drawn b live := by
    have := sound.drawn b live
    rw [Room.succ left room]
    omega
  cursor := sound.cursor
  unlocked := sound.unlocked

theorem evict (sound : c.Sound) (evicted : Evicted c.reservation.firstAllocatable c t) :
    t.Sound := by
  have shrunk := evicted.shrunk
  rw [evicted.same]
  exact {
    tiled := shrunk.tiled
    size_eq := shrunk.size_eq.trans sound.size_eq
    few := shrunk.size_eq ▸ sound.few
    positive := sound.positive
    drawn := fun b live => sound.drawn b (shrunk.live b live)
    cursor := sound.cursor.imp id shrunk.free
    unlocked := sound.unlocked }

theorem claim (sound : c.Sound) (vacant : Vacant c.frames b)
    (drawn : 0 < b.id.number ∧ b.id.number < c.nextBlock.number) :
    Sound { c with
      frames := fill b.descriptor c.frames b.base b.size
      cursor := nextFree (fill b.descriptor c.frames b.base b.size) (b.base + b.size) } where
  tiled := vacant.tiled_fill sound.tiled
  size_eq := (size_fill _ _ _ _).trans sound.size_eq
  few := (size_fill _ _ _ _).symm ▸ sound.few
  positive := sound.positive
  drawn d live := by
    rcases vacant.live_fill_iff.mp live with rfl | live
    · exact drawn
    · exact sound.drawn d live
  cursor := nextFree_eq_zero_or_free _
  unlocked := sound.unlocked

theorem free (sound : c.Sound) (live : Live c.frames b) :
    Sound { c with frames := fill .free c.frames b.base b.size, cursor := b.base } where
  tiled := live.tiled_fill_free sound.tiled
  size_eq := (size_fill _ _ _ _).trans sound.size_eq
  few := (size_fill _ _ _ _).symm ▸ sound.few
  positive := sound.positive
  drawn d liveAfter := sound.drawn d (live.live_fill_free_iff.mp liveAfter).1
  cursor := .inr (getElem?_fill_of_covers (Block.covers_base live.nonempty) live.within)
  unlocked := sound.unlocked

end Sound

/-! ## The coremap after boot -/

theorem getElem?_initial (reservation : Reservation) (policy : π) (i : Nat) :
    (initial reservation policy).frames[i]? =
      if i < reservation.frameCount then
        some (if i < reservation.firstAllocatable then .fixed else .free) else none := by
  simp only [initial, Array.getElem?_ofFn]
  split <;> rfl

theorem getElem?_initial_ne_inUse (reservation : Reservation) (policy : π) (i : Nat)
    (owner : Owner) (block : BlockId) (size : Nat) :
    (initial reservation policy).frames[i]? ≠ some (.inUse owner block size) := by
  rw [getElem?_initial]
  split
  · split <;> simp
  · simp

theorem not_live_initial (reservation : Reservation) (policy : π) (b : Block) :
    ¬ Live (initial reservation policy).frames b := fun live =>
  getElem?_initial_ne_inUse _ _ _ _ _ _ (live.recorded _ (Block.covers_base live.nonempty))

/-- The coremap is sound right after boot. -/
theorem sound_initial {reservation : Reservation} (policy : π)
    (room : reservation.leavesRoom = true) (few : reservation.frameCount ≤ 0x100000) :
    (initial reservation policy).Sound := by
  have roomLt := Reservation.leavesRoom_iff.mp room
  exact {
    tiled := {
      fixed_iff := by
        intro i
        rw [getElem?_initial]
        change _ ↔ i < reservation.firstAllocatable
        by_cases low : i < reservation.firstAllocatable
        · simp [low, Nat.lt_trans low roomLt]
        · by_cases inRam : i < reservation.frameCount <;> simp [low, inRam]
      covered := fun i owner block size found =>
        absurd found (getElem?_initial_ne_inUse _ _ _ _ _ _) }
    size_eq := by simp [initial]
    few := by simpa [initial] using few
    positive := show 0 < BlockId.boot.succ.number by decide
    drawn := fun b live => absurd live (not_live_initial _ _ b)
    cursor := by
      right
      rw [getElem?_initial]
      simp [initial, roomLt]
    unlocked := rfl }

/-- A coremap that was built at boot is the initial one for its layout. -/
theorem bootstrap_eq_value {layout : RamLayout} {policy : π} {ram ram' : Ram} {shown : List Event}
    (built : (bootstrap layout policy).run ram = ⟨.value c, ram', shown⟩) :
    ∃ reservation, layout.reservation? = some reservation ∧ reservation.leavesRoom = true ∧
      c = initial reservation policy := by
  unfold bootstrap at built
  obtain ⟨_, _, _, _, _, built, _⟩ := Operation.run_bind_eq_value_iff.mp built
  rcases found : layout.reservation? with _ | reservation
  · rw [found] at built
    cases built
  · rw [found] at built
    by_cases room : reservation.leavesRoom = true
    · simp only [room, if_true] at built
      obtain ⟨_, _, _, _, _, built, _⟩ := Operation.run_bind_eq_value_iff.mp built
      obtain ⟨_, _, _, _, _, built, _⟩ := Operation.run_bind_eq_value_iff.mp built
      cases built
      exact ⟨reservation, rfl, room, rfl⟩
    · simp only [room] at built
      obtain ⟨_, _, _, _, _, built, _⟩ := Operation.run_bind_eq_value_iff.mp built
      cases built

theorem frameCount_lt (layout : RamLayout) : layout.frameCount < 0x100000 := by
  have := layout.lastAddr.lt
  unfold RamLayout.frameCount
  omega

/-! ## Calls under any policy -/

theorem ends_drawBlock {left : Nat} {post : Post ε (Coremap π) BlockId} (sound : c.Sound)
    (refused : ¬ CanSleep context → ∀ cause, post.panic cause c)
    (drawn : CanSleep context → ∀ left', left = left' + 1 →
      post.value c.nextBlock { c with nextBlock := c.nextBlock.succ } left') :
    (holding context .identity drawBlock).Ends left c post := by
  refine ends_holding (by rw [sound.unlocked]; rfl) refused ?_
  intro canSleep left' enough
  refine (Operation.ends_of_run_value (run_drawBlock _)).mpr ?_
  exact ⟨rfl, drawn canSleep left' (by simpa [draws] using enough)⟩

/-- How a call leaves a sound coremap: still sound, with at most `most` more
identities drawn. -/
structure Advanced (most : Nat) (c t : Coremap π) : Prop where
  sound : t.Sound
  reservation : t.reservation = c.reservation
  nextBlock : t.nextBlock.number ≤ c.nextBlock.number + most

/-- What an eviction under locks leaves behind once they are given back. -/
theorem Evicted.unlock {locks : CoremapLocks} {reserved : Nat}
    (evicted : Evicted reserved { c with locks := locks } t) (unlocked : c.locks = .free) :
    t.locks = locks ∧ Evicted reserved c { t with locks := .free } := by
  refine ⟨by rw [evicted.same], evicted.shrunk, ?_⟩
  rw [evicted.same, ← unlocked]

theorem Advanced.evict {most : Nat} (advanced : Advanced most c t) {u : Coremap π}
    (evicted : Evicted t.reservation.firstAllocatable t u) : Advanced most c u where
  sound := advanced.sound.evict evicted
  reservation := by
    rw [evicted.same]
    exact advanced.reservation
  nextBlock := by
    rw [evicted.same]
    exact advanced.nextBlock

/-- The section of an allocation that claims its frames. -/
theorem ends_claim_section [EvictionPolicy π] {reserved wanted : Nat} {owner : Owner}
    {block : BlockId} (unlocked : c.locks = .free) (tiled : Tiled reserved c.frames)
    (few : c.frames.size ≤ 0x100000) (fresh : Fresh c.frames block) {left : Nat} :
    (holdingCursorAndFrames context (claim wanted owner block) :
        Operation ε (Coremap π) (Option Frame)).Ends left c
      ⟨fun base t _ => match base with
        | none => Evicted reserved c t
        | some base => ∃ m, Evicted reserved c m ∧
            Vacant m.frames ⟨base.number, wanted, owner, block⟩ ∧
            t = { m with
              frames := fill (.inUse owner block wanted) m.frames base.number wanted
              cursor := nextFree (fill (.inUse owner block wanted) m.frames base.number wanted)
                (base.number + wanted) },
        fun _ _ _ => False,
        fun _ t => Evicted reserved c t⟩ := by
  refine ends_holdingCursorAndFrames unlocked (fun _ _ => .refl tiled) ?_
  intro _ taken
  refine (ends_claim (c := { c with locks := taken }) tiled few fresh).mono ?_ ?_ ?_
  · rintro (_ | base) t left claimed
    · exact claimed.unlock unlocked
    · obtain ⟨m, evicted, vacant, rfl⟩ := claimed
      obtain ⟨kept, evicted⟩ := evicted.unlock unlocked
      exact ⟨kept, _, evicted, vacant, rfl⟩
  · exact fun _ _ _ => False.elim
  · exact fun _ _ evicted => evicted.unlock unlocked

/-- An allocation leaves a sound coremap sound, however it ends. -/
theorem ends_allocate_sound [EvictionPolicy π] (sound : c.Sound) (room : c.Room 1) {wanted : Nat}
    {owner : Owner} {left : Nat} :
    (allocate context wanted owner).Ends left c
      ⟨fun _ t _ => Advanced 1 c t, fun _ t _ => Advanced 1 c t, fun _ t => Advanced 1 c t⟩ := by
  have unchanged : Advanced 1 c c := ⟨sound, rfl, Nat.le_succ _⟩
  have next : c.nextBlock.succ.number = c.nextBlock.number + 1 := Room.succ 0 room
  have drawn : Advanced 1 c { c with nextBlock := c.nextBlock.succ } :=
    ⟨sound.advance 0 room, rfl, Nat.le_of_eq next⟩
  unfold allocate
  simp only [Operation.ends_bind, Operation.ends_require]
  split
  · refine ends_drawBlock sound (fun _ _ => unchanged) ?_
    intro canSleep left' _
    refine (ends_claim_section (c := { c with nextBlock := c.nextBlock.succ }) sound.unlocked
      sound.tiled sound.few sound.fresh_nextBlock).mono ?_ (fun _ _ _ => False.elim) ?_
    · rintro (_ | base) t left claimed
      · simp only [Operation.ends_bind, Operation.ends_log, Operation.ends_fail]
        exact drawn.evict claimed
      · obtain ⟨m, evicted, vacant, rfl⟩ := claimed
        simp only [Operation.ends_bind, Operation.ends_log, Operation.ends_pure]
        have evictedAll := drawn.evict evicted
        have count : m.nextBlock = c.nextBlock.succ := by
          rw [evicted.same]
        refine ⟨evictedAll.sound.claim vacant ⟨sound.positive, ?_⟩, evictedAll.reservation,
          evictedAll.nextBlock⟩
        rw [count, next]
        exact Nat.lt_succ_self _
    · exact fun _ _ evicted => drawn.evict evicted
  · exact unchanged

/-- The section of a release frees a live block by its first frame, or it panics
and changes nothing. -/
theorem ends_reclaim_section {reserved : Nat} (unlocked : c.locks = .free)
    (tiled : Tiled reserved c.frames) {base : Frame} {single : Bool} {left : Nat} :
    (holdingCursorAndFrames context (reclaim base single) : Operation ε (Coremap π) Nat).Ends
      left c
      ⟨fun size t _ => ∃ b, Live c.frames b ∧ base.number = b.base ∧
          (single = true → b.size = 1) ∧ size = b.size ∧
          t = { c with frames := fill .free c.frames b.base b.size, cursor := b.base },
        fun _ _ _ => False,
        fun _ t => t = c⟩ := by
  refine ends_holdingCursorAndFrames unlocked (fun _ _ => rfl) ?_
  intro _ taken
  rcases run_reclaim (c := { c with locks := taken }) tiled base single with
    ⟨b, live, first, matching, run⟩ | ⟨cause, run⟩
  · refine (Operation.ends_of_run_value run).mpr ⟨rfl, b, live, first, matching, rfl, ?_⟩
    rw [← unlocked]
  · unfold Operation.Ends
    rw [run]
    refine fun _ => ⟨rfl, ?_⟩
    rw [← unlocked]

/-- A release leaves a sound coremap sound, however it ends. -/
theorem ends_releaseBlock_sound (sound : c.Sound) {base : Frame} {single : Bool} {left : Nat} :
    (releaseBlock context base single : Operation ε (Coremap π) Unit).Ends left c
      ⟨fun _ t _ => Advanced 0 c t, fun _ _ _ => False, fun _ t => Advanced 0 c t⟩ := by
  unfold releaseBlock
  refine (ends_reclaim_section sound.unlocked sound.tiled).bind ?_ (fun _ _ _ => id) ?_
  · rintro size t left ⟨b, live, _, _, _, rfl⟩
    rw [Operation.ends_log]
    exact ⟨sound.free live, rfl, Nat.le_refl _⟩
  · rintro cause t rfl
    exact ⟨sound, rfl, Nat.le_refl _⟩

/-- A release that is refused changes nothing and says why it is refused. -/
theorem ends_releaseBlock_of_refused {left : Nat} (unlocked : c.locks = .free)
    (canSleep : CanSleep context) {base : Frame} {single : Bool} {cause : Panic}
    (refused : refusal? c.frames base single = some cause) :
    (releaseBlock context base single : Operation ε (Coremap π) Unit).Ends left c
      ⟨fun _ _ _ => False, fun _ _ _ => False, fun found t => found = cause ∧ t = c⟩ := by
  refine Operation.ends_bind.mpr (ends_holdingCursorAndFrames unlocked
    (fun cannot => absurd canSleep cannot) ?_)
  intro _ taken
  unfold Operation.Ends
  rw [run_reclaim_of_refused (c := { c with locks := taken }) refused]
  refine fun _ => ⟨rfl, rfl, ?_⟩
  rw [← unlocked]

/-! ## Releasing a live block -/

/-- The section of a release that takes a live block by its first frame. -/
theorem ends_reclaim_section_of_live {left : Nat} (unlocked : c.locks = .free) {b : Block}
    (live : Live c.frames b) {base : Frame} (first : base.number = b.base) {single : Bool}
    (matching : single = true → b.size = 1) :
    (holdingCursorAndFrames context (reclaim base single) :
        Operation ε (Coremap π) Nat).Ends left c
      ⟨fun size t left' => left' = left ∧ size = b.size ∧
          t = { c with frames := fill .free c.frames b.base b.size, cursor := b.base },
        fun _ _ _ => False,
        fun _ t => ¬ CanSleep context ∧ t = c⟩ := by
  refine ends_holdingCursorAndFrames unlocked (fun cannot _ => ⟨cannot, rfl⟩) ?_
  intro _ taken
  have run := run_reclaim_of_live (ε := ε) (c := { c with locks := taken }) live first matching
  refine (Operation.ends_of_run_value run).mpr ⟨rfl, rfl, rfl, ?_⟩
  rw [← unlocked]

/-- A release of a live block by its first frame frees the block, or it is refused
and changes nothing. -/
theorem ends_releaseBlock_or_refused {left : Nat} (unlocked : c.locks = .free) {b : Block}
    (live : Live c.frames b) {base : Frame} (first : base.number = b.base) {single : Bool}
    (matching : single = true → b.size = 1) :
    (releaseBlock context base single : Operation ε (Coremap π) Unit).Ends left c
      ⟨fun _ t left' => left' = left ∧
          t = { c with frames := fill .free c.frames b.base b.size, cursor := b.base },
        fun _ _ _ => False,
        fun _ t => ¬ CanSleep context ∧ t = c⟩ := by
  unfold releaseBlock
  refine (ends_reclaim_section_of_live unlocked live first matching).bind ?_
    (fun _ _ _ => id) (fun _ _ => id)
  rintro size t _ ⟨rfl, _, rfl⟩
  rw [Operation.ends_log]
  exact ⟨rfl, rfl⟩

theorem ends_releaseBlock_of_live {left : Nat} (unlocked : c.locks = .free) {b : Block}
    (live : Live c.frames b) {base : Frame} (first : base.number = b.base) {single : Bool}
    (matching : single = true → b.size = 1) :
    (releaseBlock context base single : Operation ε (Coremap π) Unit).Ends left c
      ⟨fun _ t left' => left' = left ∧
          t = { c with frames := fill .free c.frames b.base b.size, cursor := b.base },
        fun _ _ _ => False,
        fun _ _ => ¬ CanSleep context⟩ :=
  (ends_releaseBlock_or_refused unlocked live first matching).mono (fun _ _ _ => id)
    (fun _ _ _ => id) fun _ _ => And.left

/-! ## Calls under the policy that gives up nothing -/

/-- A sound coremap whose counter can be advanced `left` times. -/
structure Ready (c : Coremap π) (left : Nat) : Prop where
  sound : c.Sound
  room : c.Room left

section NoEviction

variable {c : Coremap NoEviction} {left : Nat}

/-- The section of an allocation that claims its frames, under the policy that
gives up nothing: it marks a run of free frames, or there is none and it changes
nothing. -/
theorem ends_claim_section_of_noEviction (unlocked : c.locks = .free)
    (few : c.frames.size ≤ 0x100000) {wanted : Nat} {owner : Owner} {block : BlockId} :
    (holdingCursorAndFrames context (claim wanted owner block) :
        Operation ε (Coremap NoEviction) (Option Frame)).Ends left c
      ⟨fun base t left' => left' = left ∧ match base with
        | none => (0 < wanted → Starved c.frames wanted) ∧ t = c
        | some base => 0 < wanted ∧
            (∀ i, base.number ≤ i → i < base.number + wanted → c.frames[i]? = some .free) ∧
            t = { c with
              frames := fill (.inUse owner block wanted) c.frames base.number wanted
              cursor := nextFree (fill (.inUse owner block wanted) c.frames base.number wanted)
                (base.number + wanted) },
        fun _ _ _ => False,
        fun _ t => ¬ CanSleep context ∧ t = c⟩ := by
  refine ends_holdingCursorAndFrames unlocked (fun cannot _ => ⟨cannot, rfl⟩) ?_
  intro _ taken
  rcases run_claim (ε := ε) { c with locks := taken } wanted owner block few with
    ⟨starved, run⟩ | ⟨base, nonempty, free, run⟩
  · refine (Operation.ends_of_run_value run).mpr ⟨rfl, rfl, starved, ?_⟩
    rw [← unlocked]
  · refine (Operation.ends_of_run_value run).mpr ⟨rfl, rfl, nonempty, free, ?_⟩
    rw [← unlocked]

/-- An allocation draws one identity. It places a block under this identity in a
run of free frames, or it reports that there is none and leaves the descriptors
alone. One that is refused has no effect. -/
theorem ends_allocate (ready : c.Ready left) {wanted : Nat} {owner : Owner} :
    (allocate context wanted owner).Ends left c
      ⟨fun base t left =>
          let b : Block := ⟨base.number, wanted, owner, c.nextBlock⟩
          t.Ready left ∧ t.reservation = c.reservation ∧ Vacant c.frames b ∧
            t.frames = fill b.descriptor c.frames b.base b.size,
        fun e t left =>
          e = ⟨wanted⟩ ∧ Starved c.frames wanted ∧ t.Ready left ∧ t.reservation = c.reservation ∧
            t.frames = c.frames,
        fun _ t => (wanted = 0 ∨ ¬ CanSleep context) ∧ t = c⟩ := by
  have sound := ready.sound
  unfold allocate
  simp only [Operation.ends_bind, Operation.ends_require]
  split
  · rename_i nonempty
    have positive : 0 < wanted := by
      simpa [Nat.pos_iff_ne_zero] using nonempty
    refine ends_drawBlock sound (fun cannot _ => ⟨.inr cannot, rfl⟩) ?_
    rintro canSleep left' rfl
    have room := ready.room
    have next : c.nextBlock.succ.number = c.nextBlock.number + 1 := Room.succ left' room
    have advanced : Sound { c with nextBlock := c.nextBlock.succ } := sound.advance left' room
    have roomAfter : Room { c with nextBlock := c.nextBlock.succ } left' := by
      unfold Room at room ⊢
      simp only [next]
      omega
    refine (ends_claim_section_of_noEviction (c := { c with nextBlock := c.nextBlock.succ })
      sound.unlocked sound.few).mono ?_ (fun _ _ _ => False.elim) ?_
    · rintro (_ | base) t _ ⟨rfl, claimed⟩
      · obtain ⟨starved, rfl⟩ := claimed
        simp only [Operation.ends_bind, Operation.ends_log, Operation.ends_fail, true_and, and_true]
        exact ⟨starved positive, advanced, roomAfter⟩
      · obtain ⟨nonempty, free, rfl⟩ := claimed
        simp only [Operation.ends_bind, Operation.ends_log, Operation.ends_pure, true_and]
        have vacant : Vacant c.frames ⟨base.number, wanted, owner, c.nextBlock⟩ :=
          ⟨nonempty, fun i covers => free i covers.1 covers.2, sound.fresh_nextBlock⟩
        refine ⟨⟨?_, roomAfter⟩, vacant, rfl⟩
        exact advanced.claim vacant ⟨sound.positive, by simp only [next]; omega⟩
    · rintro cause t ⟨cannot, _⟩
      exact absurd canSleep cannot
  · next zero =>
    refine ⟨.inl ?_, trivial⟩
    simpa using zero

/-- A ready coremap is as ready after the release of a live block, which draws no
identity. -/
theorem ends_releaseBlock {most : Nat} (ready : c.Ready most) {b : Block} (live : Live c.frames b)
    {base : Frame} (first : base.number = b.base) {single : Bool}
    (matching : single = true → b.size = 1) :
    (releaseBlock context base single : Operation ε (Coremap NoEviction) Unit).Ends left c
      ⟨fun _ t left' => left' = left ∧ t.Ready most ∧ t.reservation = c.reservation ∧
          t.frames = fill .free c.frames b.base b.size,
        fun _ _ _ => False,
        fun _ t => ¬ CanSleep context ∧ t = c⟩ := by
  refine (ends_releaseBlock_or_refused ready.sound.unlocked live first matching).mono ?_
    (fun _ _ _ => id) (fun _ _ => id)
  rintro ⟨⟩ t _ ⟨rfl, rfl⟩
  exact ⟨rfl, ⟨ready.sound.free live, ready.room⟩, rfl, rfl⟩

end NoEviction

end PagedMemory.Coremap
