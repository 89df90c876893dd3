import Mathlib.Data.List.Nodup
import PagedMemory.Proofs.Coremap.Sound
import PagedMemory.Proofs.PartialMaps

/-!
# Interleaved allocations and releases

Any number of threads share one coremap whose policy gives up nothing. A thread
allocates in two critical sections, one that draws an identity and one that
claims frames under it, and releases in a third; between sections any other
thread may run. Whatever the order, the blocks granted and not yet released are
apart and carry different identities, the descriptors are those built at boot
overlaid with these blocks, and the release of a granted block never panics.
-/

namespace PagedMemory

/-! ## Descriptors overlaid with blocks -/

/-- Some descriptors with the frames of each block marked as its own. -/
def overlay (frames : Array Descriptor) : List Block → Array Descriptor
  | [] => frames
  | b :: rest => Coremap.fill b.descriptor (overlay frames rest) b.base b.size

variable {frames frames' : Array Descriptor} {blocks : List Block} {reserved : Nat}

@[simp]
theorem size_overlay (frames : Array Descriptor) (blocks : List Block) :
    (overlay frames blocks).size = frames.size := by
  induction blocks with
  | nil => rfl
  | cons b rest ih => rw [overlay, Coremap.size_fill, ih]

theorem getElem?_overlay_of_not_covers {i : Nat} (outside : ∀ b ∈ blocks, ¬ b.Covers i) :
    (overlay frames blocks)[i]? = frames[i]? := by
  induction blocks with
  | nil => rfl
  | cons b rest ih =>
    rw [overlay, getElem?_fill_of_not_covers (outside b List.mem_cons_self)]
    exact ih fun c mem => outside c (List.mem_cons_of_mem _ mem)

theorem getElem?_overlay_of_covers (apart : blocks.Pairwise Block.Apart) {b : Block}
    (mem : b ∈ blocks) {i : Nat} (covers : b.Covers i) (within : b.base + b.size ≤ frames.size) :
    (overlay frames blocks)[i]? = some b.descriptor := by
  induction blocks with
  | nil => cases mem
  | cons c rest ih =>
    rw [List.pairwise_cons] at apart
    rcases List.mem_cons.mp mem with rfl | later
    · exact getElem?_fill_of_covers covers (by simpa using within)
    · rw [overlay, getElem?_fill_of_not_covers fun inFirst => apart.1 b later i inFirst covers]
      exact ih apart.2 later

/-- Tiled descriptors are vacant ones overlaid with their blocks. -/
theorem Tiled.eq_overlay (tiled : Tiled reserved frames) (vacant : Tiled reserved frames')
    (noBlock : ∀ b, ¬ Live frames' b) (size : frames.size = frames'.size)
    (live_iff : ∀ b, Live frames b ↔ b ∈ blocks) (apart : blocks.Pairwise Block.Apart) :
    frames = overlay frames' blocks := by
  apply Array.ext_getElem?
  intro i
  by_cases covered : ∃ b ∈ blocks, b.Covers i
  · obtain ⟨b, mem, covers⟩ := covered
    have live := (live_iff b).mpr mem
    rw [getElem?_overlay_of_covers apart mem covers (size ▸ live.within), live.recorded i covers]
  · have outside : ∀ b ∈ blocks, ¬ b.Covers i := fun b mem covers => covered ⟨b, mem, covers⟩
    rw [getElem?_overlay_of_not_covers outside,
      tiled.getElem?_of_not_covers fun b live => outside b ((live_iff b).mp live),
      vacant.getElem?_of_not_covers fun b live => absurd live (noBlock b), size]

namespace Coremap

/-! ## Threads -/

/-- What a thread asks the allocator for. -/
inductive Request where
  /-- Adjacent frames, to be released as one block. -/
  | contiguous (wanted : Nat) (owner : Owner)
  /-- One frame, to be released alone. -/
  | single (owner : Owner)
deriving DecidableEq

namespace Request

/-- How many frames are asked for. -/
def size : Request → Nat
  | .contiguous wanted _ => wanted
  | .single _ => 1

/-- For whom they are asked for. -/
def owner : Request → Owner
  | .contiguous _ owner | .single owner => owner

/-- Whether the frame is to be released alone. -/
def isSingle : Request → Bool
  | .contiguous _ _ => false
  | .single _ => true

theorem size_eq_one {request : Request} (single : request.isSingle = true) : request.size = 1 := by
  cases request with
  | contiguous wanted owner => cases single
  | single owner => rfl

end Request

/-- A request of a thread that was granted and not yet released. -/
structure Grant (τ : Type) where
  thread : τ
  request : Request
  base : Frame
  id : BlockId
deriving DecidableEq

/-- The block that was granted. -/
def Grant.block {τ : Type} (grant : Grant τ) : Block :=
  ⟨grant.base.number, grant.request.size, grant.request.owner, grant.id⟩

/-- Threads that share a coremap. -/
structure Pool (τ : Type) where
  coremap : Coremap NoEviction
  /-- For each thread that has drawn an identity and not yet claimed frames, its
  request and this identity. -/
  waiting : τ → Option (Request × BlockId)
  granted : List (Grant τ)

variable {τ : Type} [DecidableEq τ]

/-- The grant that a claim leads to, if any. -/
def Grant.ofClaim (thread : τ) (request : Request) (id : BlockId) :
    Result OutOfMemory (Option Frame) → List (Grant τ)
  | .value (some base) => [⟨thread, request, base, id⟩]
  | _ => []

/-- One critical section of one thread, and how many identities it draws. -/
inductive Step (p : Pool τ) : Nat → Pool τ → Prop where
  /-- A thread begins an allocation. -/
  | draw (thread : τ) (request : Request) (context : Option Context) (id : BlockId)
      (c : Coremap NoEviction) {shown : List Event} (idle : p.waiting thread = none)
      (nonempty : request.size ≠ 0) (canSleep : CanSleep context)
      (run : (holding context .identity drawBlock :
        Operation OutOfMemory (Coremap NoEviction) BlockId).run p.coremap =
          ⟨.value id, c, shown⟩) :
      Step p 1 ⟨c, Function.update p.waiting thread (some (request, id)), p.granted⟩
  /-- A thread ends an allocation. -/
  | claim (thread : τ) (request : Request) (id : BlockId) (context : Option Context)
      (result : Result OutOfMemory (Option Frame)) (c : Coremap NoEviction) {shown : List Event}
      (drawn : p.waiting thread = some (request, id)) (canSleep : CanSleep context)
      (run : (holdingCursorAndFrames context (claim request.size request.owner id)).run
        p.coremap = ⟨result, c, shown⟩) :
      Step p 0 ⟨c, Function.update p.waiting thread none,
        Grant.ofClaim thread request id result ++ p.granted⟩
  /-- A thread releases what it was granted. -/
  | release (earlier later : List (Grant τ)) (grant : Grant τ) (context : Option Context)
      (result : Result Empty Nat) (c : Coremap NoEviction) {shown : List Event}
      (held : p.granted = later ++ grant :: earlier) (idle : p.waiting grant.thread = none)
      (canSleep : CanSleep context)
      (run : (holdingCursorAndFrames context (reclaim grant.base grant.request.isSingle)).run
        p.coremap = ⟨result, c, shown⟩) :
      Step p 0 ⟨c, p.waiting, later ++ earlier⟩

/-- What threads that begin with a coremap can reach, and with how many
identities drawn. -/
inductive Reachable (start : Coremap NoEviction) : Nat → Pool τ → Prop where
  | start : Reachable start 0 ⟨start, fun _ => none, []⟩
  | step {n k : Nat} {p q : Pool τ} (reached : Reachable start n p) (next : Step p k q) :
      Reachable start (n + k) q

/-! ## The invariant -/

/-- What holds of the threads' pool between sections: the live blocks are those
granted, and identities that were drawn and not yet used are nobody else's. -/
structure Consistent (start : Coremap NoEviction) (n : Nat) (p : Pool τ) : Prop where
  sound : p.coremap.Sound
  reservation : p.coremap.reservation = start.reservation
  count : p.coremap.nextBlock.number = start.nextBlock.number + n
  live_iff : ∀ b, Live p.coremap.frames b ↔ b ∈ p.granted.map Grant.block
  nodup : (p.granted.map Grant.block).Nodup
  drawn : ∀ thread request id, p.waiting thread = some (request, id) →
    0 < id.number ∧ id.number < p.coremap.nextBlock.number
  unused : ∀ thread request id, p.waiting thread = some (request, id) →
    ∀ b, Live p.coremap.frames b → b.id ≠ id
  distinct : ∀ thread thread' request request' id, p.waiting thread = some (request, id) →
    p.waiting thread' = some (request', id) → thread = thread'

namespace Consistent

variable {start : Coremap NoEviction} {n : Nat} {p : Pool τ}

theorem draw (consistent : Consistent start n p) (room : p.coremap.Room 1) (thread : τ)
    (request : Request) :
    Consistent start (n + 1)
      ⟨{ p.coremap with nextBlock := p.coremap.nextBlock.succ },
        Function.update p.waiting thread (some (request, p.coremap.nextBlock)), p.granted⟩ := by
  have next : p.coremap.nextBlock.succ.number = p.coremap.nextBlock.number + 1 :=
    Room.succ 0 room
  have isNew {other : τ} {asked : Request} :
      p.waiting other ≠ some (asked, p.coremap.nextBlock) := fun before =>
    Nat.lt_irrefl _ (consistent.drawn _ _ _ before).2
  exact {
    sound := consistent.sound.advance 0 room
    reservation := consistent.reservation
    count := by
      have := consistent.count
      simp only [next]
      omega
    live_iff := consistent.live_iff
    nodup := consistent.nodup
    drawn := by
      intro other asked id found
      have positive := consistent.sound.positive
      simp only [next]
      rcases update_eq_some_iff.mp found with ⟨_, ⟨⟩⟩ | ⟨_, before⟩
      · omega
      · have := consistent.drawn other asked id before
        omega
    unused := by
      intro other asked id found b live
      rcases update_eq_some_iff.mp found with ⟨_, ⟨⟩⟩ | ⟨_, before⟩
      · intro same
        have := (consistent.sound.drawn b live).2
        rw [same] at this
        exact Nat.lt_irrefl _ this
      · exact consistent.unused other asked id before b live
    distinct := by
      intro other other' asked asked' id found found'
      rcases update_eq_some_iff.mp found with ⟨same, ⟨⟩⟩ | ⟨_, before⟩
      · rcases update_eq_some_iff.mp found' with ⟨same', _⟩ | ⟨_, before'⟩
        · exact same.trans same'.symm
        · exact absurd before' isNew
      · rcases update_eq_some_iff.mp found' with ⟨_, ⟨⟩⟩ | ⟨_, before'⟩
        · exact absurd before isNew
        · exact consistent.distinct other other' asked asked' id before before' }

/-- A thread that waits no more, whatever became of its request. -/
theorem stopWaiting (consistent : Consistent start n p) (thread : τ) :
    Consistent start n ⟨p.coremap, Function.update p.waiting thread none, p.granted⟩ := by
  have waits (other : τ) (asked : Request × BlockId)
      (found : Function.update p.waiting thread none other = some asked) :
      p.waiting other = some asked := by
    rcases update_eq_some_iff.mp found with ⟨_, ⟨⟩⟩ | ⟨_, before⟩
    exact before
  exact {
    sound := consistent.sound
    reservation := consistent.reservation
    count := consistent.count
    live_iff := consistent.live_iff
    nodup := consistent.nodup
    drawn := fun other asked id found => consistent.drawn other asked id (waits _ _ found)
    unused := fun other asked id found => consistent.unused other asked id (waits _ _ found)
    distinct := fun other other' asked asked' id found found' =>
      consistent.distinct other other' asked asked' id (waits _ _ found) (waits _ _ found') }

omit [DecidableEq τ] in
theorem vacant (consistent : Consistent start n p) {thread : τ} {request : Request} {id : BlockId}
    (waits : p.waiting thread = some (request, id)) {base : Frame} (nonempty : 0 < request.size)
    (free : ∀ i, base.number ≤ i → i < base.number + request.size →
      p.coremap.frames[i]? = some .free) :
    Vacant p.coremap.frames (Grant.block ⟨thread, request, base, id⟩) where
  nonempty := nonempty
  free := fun i covers => free i covers.1 covers.2
  fresh := consistent.sound.fresh (consistent.drawn _ _ _ waits).1 (consistent.unused _ _ _ waits)

theorem claim (consistent : Consistent start n p) {thread : τ} {request : Request} {id : BlockId}
    (waits : p.waiting thread = some (request, id)) {base : Frame} (nonempty : 0 < request.size)
    (free : ∀ i, base.number ≤ i → i < base.number + request.size →
      p.coremap.frames[i]? = some .free) :
    let b : Block := Grant.block ⟨thread, request, base, id⟩
    Consistent start n
      ⟨{ p.coremap with
          frames := fill b.descriptor p.coremap.frames b.base b.size
          cursor := nextFree (fill b.descriptor p.coremap.frames b.base b.size)
            (b.base + b.size) },
        Function.update p.waiting thread none, ⟨thread, request, base, id⟩ :: p.granted⟩ := by
  intro b
  have vacant : Vacant p.coremap.frames b := consistent.vacant waits nonempty free
  have rest := consistent.stopWaiting thread
  have others (other : τ) (asked : Request) (id' : BlockId)
      (found : Function.update p.waiting thread none other = some (asked, id')) : id ≠ id' := by
    rintro rfl
    rcases update_eq_some_iff.mp found with ⟨_, ⟨⟩⟩ | ⟨different, before⟩
    exact different (consistent.distinct _ _ _ _ _ before waits)
  exact {
    sound := consistent.sound.claim vacant (consistent.drawn _ _ _ waits)
    reservation := consistent.reservation
    count := consistent.count
    live_iff := by
      intro d
      rw [vacant.live_fill_iff, List.map_cons, List.mem_cons, consistent.live_iff]
    nodup := by
      rw [List.map_cons, List.nodup_cons]
      refine ⟨?_, consistent.nodup⟩
      intro mem
      exact consistent.unused _ _ _ waits b ((consistent.live_iff b).mpr mem) rfl
    drawn := rest.drawn
    unused := by
      intro other asked id' found d live
      rcases vacant.live_fill_iff.mp live with rfl | live
      · exact others other asked id' found
      · exact rest.unused other asked id' found d live
    distinct := rest.distinct }

omit [DecidableEq τ] in
theorem live_of_held (consistent : Consistent start n p) {earlier later : List (Grant τ)}
    {grant : Grant τ} (held : p.granted = later ++ grant :: earlier) :
    Live p.coremap.frames grant.block := by
  rw [consistent.live_iff, held]
  simp

omit [DecidableEq τ] in
theorem release (consistent : Consistent start n p) {earlier later : List (Grant τ)}
    {grant : Grant τ} (held : p.granted = later ++ grant :: earlier) :
    Consistent start n
      ⟨{ p.coremap with
          frames := fill .free p.coremap.frames grant.block.base grant.block.size
          cursor := grant.block.base },
        p.waiting, later ++ earlier⟩ := by
  have live := consistent.live_of_held held
  have split : List.Perm (p.granted.map Grant.block)
      (grant.block :: (later ++ earlier).map Grant.block) := by
    rw [held]
    simp [List.perm_middle]
  have nodup := split.nodup_iff.mp consistent.nodup
  rw [List.nodup_cons] at nodup
  exact {
    sound := consistent.sound.free live
    reservation := consistent.reservation
    count := consistent.count
    live_iff := by
      intro d
      rw [live.live_fill_free_iff, consistent.live_iff, split.mem_iff, List.mem_cons]
      constructor
      · rintro ⟨rfl | mem, different⟩
        · exact absurd rfl different
        · exact mem
      · intro mem
        refine ⟨.inr mem, ?_⟩
        rintro rfl
        exact nodup.1 mem
    nodup := nodup.2
    drawn := consistent.drawn
    unused := fun thread request id found d liveAfter =>
      consistent.unused thread request id found d (live.live_fill_free_iff.mp liveAfter).1
    distinct := consistent.distinct }

/-! ## Steps and runs -/

/-- Every section keeps the pool consistent. -/
theorem step (consistent : Consistent start n p) {k : Nat} {q : Pool τ} (next : Step p k q)
    (room : start.nextBlock.number + (n + k) < 0x100000000) : Consistent start (n + k) q := by
  have sound := consistent.sound
  have count := consistent.count
  cases next with
  | draw thread request context id c idle nonempty canSleep run =>
    have ended : ∀ left, (holding context .identity drawBlock :
        Operation OutOfMemory (Coremap NoEviction) BlockId).Ends left p.coremap
          ⟨fun id t _ => id = p.coremap.nextBlock ∧
              t = { p.coremap with nextBlock := p.coremap.nextBlock.succ },
            fun _ _ _ => False, fun _ _ => ¬ CanSleep context⟩ := fun left =>
      ends_drawBlock sound (fun cannot _ => cannot) fun _ _ _ => ⟨rfl, rfl⟩
    obtain ⟨rfl, rfl⟩ := (ended _).of_value run (Nat.le_refl _)
    exact consistent.draw (by unfold Room; omega) thread request
  | claim thread request id context result c waits canSleep run =>
    rcases result with (_ | base) | e | cause
    · obtain ⟨_, _, rfl⟩ := (ends_claim_section_of_noEviction sound.unlocked sound.few).of_value
        run (Nat.le_refl _)
      exact consistent.stopWaiting thread
    · obtain ⟨_, nonempty, free, rfl⟩ :=
        (ends_claim_section_of_noEviction sound.unlocked sound.few).of_value run (Nat.le_refl _)
      exact consistent.claim waits nonempty free
    · exact ((ends_claim_section_of_noEviction sound.unlocked sound.few).of_error run
        (Nat.le_refl _)).elim
    · exact absurd canSleep ((ends_claim_section_of_noEviction sound.unlocked sound.few).of_panic
        run (Nat.le_refl _)).1
  | release earlier later grant context result c held idle canSleep run =>
    have live := consistent.live_of_held held
    rcases result with size | e | cause
    · obtain ⟨_, _, rfl⟩ := (ends_reclaim_section_of_live sound.unlocked live rfl
        Request.size_eq_one).of_value run (Nat.le_refl _)
      exact consistent.release held
    · cases e
    · exact absurd canSleep ((ends_reclaim_section_of_live sound.unlocked live rfl
        Request.size_eq_one).of_panic run (Nat.le_refl _)).1

end Consistent

theorem consistent_of_reachable {start : Coremap NoEviction} (sound : start.Sound)
    (noBlock : ∀ b, ¬ Live start.frames b) {n : Nat} {p : Pool τ} (reached : Reachable start n p)
    (room : start.nextBlock.number + n < 0x100000000) : Consistent start n p := by
  induction reached with
  | start =>
    exact {
      sound := sound
      reservation := rfl
      count := rfl
      live_iff := fun b => by simpa using noBlock b
      nodup := List.nodup_nil
      drawn := nofun
      unused := nofun
      distinct := nofun }
  | step reached next ih => exact (ih (by omega)).step next room

/-- Whatever the order of the sections, the blocks granted and not yet released
are apart, lie on frames that were free at boot and carry different identities;
the descriptors are those built at boot overlaid with these blocks; and each of
them can be released without a panic. -/
theorem blocks_of_reachable {layout : RamLayout} {ram ram' : Ram} {start : Coremap NoEviction}
    {shown : List Event}
    (built : (bootstrap layout NoEviction.mk).run ram = ⟨.value start, ram', shown⟩) {n : Nat}
    {p : Pool τ} (reached : Reachable start n p) (few : n < 0xFFFFFFFF) :
    (p.granted.map Grant.block).Pairwise (fun b c => b.Apart c ∧ b.id ≠ c.id) ∧
      (∀ grant ∈ p.granted, ∀ i, grant.block.Covers i → start.frames[i]? = some .free) ∧
      p.coremap.frames = overlay start.frames (p.granted.map Grant.block) ∧
      (∀ grant ∈ p.granted, ∀ context, CanSleep context → ∃ t shown,
        (releaseBlock context grant.base grant.request.isSingle :
          Operation Empty (Coremap NoEviction) Unit).run p.coremap = ⟨.value (), t, shown⟩) ∧
      (p.granted = [] → p.coremap.frames = start.frames) := by
  obtain ⟨reservation, reserves, leavesRoom, rfl⟩ := bootstrap_eq_value built
  have frameCountLe : reservation.frameCount ≤ 0x100000 := by
    obtain ⟨_, _, rfl⟩ := Option.map_eq_some_iff.mp reserves
    exact Nat.le_of_lt (frameCount_lt layout)
  have booted := sound_initial NoEviction.mk leavesRoom frameCountLe
  have noBlock := not_live_initial reservation NoEviction.mk
  have atBoot : (initial reservation NoEviction.mk).nextBlock.number = 1 := rfl
  have consistent := consistent_of_reachable booted noBlock reached (by omega)
  have sound := consistent.sound
  have live {b : Block} (mem : b ∈ p.granted.map Grant.block) : Live p.coremap.frames b :=
    (consistent.live_iff b).mpr mem
  have pairwise : (p.granted.map Grant.block).Pairwise fun b c => b.Apart c ∧ b.id ≠ c.id := by
    refine consistent.nodup.pairwise_of_forall_ne fun b memB c memC different => ?_
    exact ⟨(live memB).apart (live memC) different,
      fun same => different ((live memB).eq_of_id (live memC) same)⟩
  have overlaid : p.coremap.frames =
      overlay (initial reservation NoEviction.mk).frames (p.granted.map Grant.block) := by
    refine Tiled.eq_overlay sound.tiled ?_ noBlock ?_ consistent.live_iff
      (pairwise.imp fun both => both.1)
    · rw [consistent.reservation]
      exact booted.tiled
    · rw [sound.size_eq, booted.size_eq, consistent.reservation]
  refine ⟨pairwise, ?_, overlaid, ?_, ?_⟩
  · intro grant mem i covers
    have granted := live (List.mem_map_of_mem mem)
    have low := sound.tiled.reserved_le granted
    have high := granted.within
    rw [consistent.reservation] at low
    rw [sound.size_eq, consistent.reservation] at high
    change reservation.firstAllocatable ≤ _ at low
    change _ ≤ reservation.frameCount at high
    have := covers.1
    have := covers.2
    rw [getElem?_initial, if_pos (by omega), if_neg (by omega)]
  · intro grant mem context canSleep
    have returns : ∀ left, (releaseBlock context grant.base grant.request.isSingle :
        Operation Empty (Coremap NoEviction) Unit).Ends left p.coremap
          ⟨fun _ _ _ => True, fun _ _ _ => False, fun _ _ => False⟩ := fun left =>
      (ends_releaseBlock_of_live sound.unlocked (live (List.mem_map_of_mem mem)) rfl
        Request.size_eq_one).mono (fun _ _ _ _ => trivial) (fun _ _ _ => False.elim)
        (fun _ _ cannot => cannot canSleep)
    obtain ⟨⟨⟩, t, shown, run, _⟩ := Operation.exists_value_of_ends returns
    exact ⟨t, shown, run⟩
  · intro none
    rw [overlaid, none]
    rfl

/-- Two threads draw identities in one order and claim frames in the other; then
the first releases its block. -/
theorem blocks_of_reachable_crossed :
    let layout : RamLayout := ⟨.ofNat 0x1800, .ofNat 0x8000⟩
    let ram : Ram := ⟨.directMap, .empty⟩
    let start : Coremap NoEviction := initial ⟨8, .ofNat 0x2000⟩ NoEviction.mk
    let kept : Grant Bool := ⟨true, .single (.space ⟨9⟩), .ofNumber 3, ⟨2⟩⟩
    ∃ p : Pool Bool, (∃ shown, (bootstrap layout NoEviction.mk).run ram =
          ⟨.value start, ram, shown⟩) ∧
        Reachable start 2 p ∧ 2 < 0xFFFFFFFF ∧ p.granted = [kept] ∧
        p.coremap.frames = overlay start.frames [kept.block] := by
  intro layout ram start kept
  have built : (bootstrap layout NoEviction.mk).run ram = ⟨.value start, ram, _⟩ :=
    Operation.run_eq_of_result_of_state (by decide +kernel) (by decide +kernel)
  let dropped : Grant Bool := ⟨false, .contiguous 2 .kernel, .ofNumber 4, ⟨1⟩⟩
  let drawn : Coremap NoEviction := { start with nextBlock := ⟨3⟩ }
  let claimed : Coremap NoEviction :=
    { drawn with frames := fill kept.block.descriptor drawn.frames 3 1, cursor := 4 }
  let full : Coremap NoEviction :=
    { claimed with frames := fill dropped.block.descriptor claimed.frames 4 2, cursor := 6 }
  let freed : Coremap NoEviction :=
    { full with frames := fill .free full.frames 4 2, cursor := 4 }
  have one : Reachable start 1 (_ : Pool Bool) := Reachable.step .start
    (.draw false dropped.request none ⟨1⟩ { start with nextBlock := ⟨2⟩ } rfl (by decide)
      (by decide) (Operation.run_eq_of_result_of_state (by decide +kernel) (by decide +kernel)))
  have two := Reachable.step one
    (.draw true kept.request none ⟨2⟩ drawn rfl (by decide) (by decide)
      (Operation.run_eq_of_result_of_state (by decide +kernel) (by decide +kernel)))
  have three := Reachable.step two
    (.claim true kept.request ⟨2⟩ none (.value (some (.ofNumber 3))) claimed rfl (by decide)
      (Operation.run_eq_of_result_of_state (by decide +kernel) (by decide +kernel)))
  have four := Reachable.step three
    (.claim false dropped.request ⟨1⟩ none (.value (some (.ofNumber 4))) full rfl (by decide)
      (Operation.run_eq_of_result_of_state (by decide +kernel) (by decide +kernel)))
  have five := Reachable.step four
    (.release [kept] [] dropped none (.value 2) freed rfl rfl (by decide)
      (Operation.run_eq_of_result_of_state (by decide +kernel) (by decide +kernel)))
  have few : 2 < 0xFFFFFFFF := by
    decide
  obtain ⟨_, _, overlaid, _⟩ := blocks_of_reachable built five few
  exact ⟨_, ⟨_, built⟩, five, few, rfl, overlaid⟩

end Coremap

end PagedMemory
