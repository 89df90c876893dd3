import PagedMemory.Coremap.Allocate
import PagedMemory.Proofs.Coremap.Blocks
import PagedMemory.Proofs.Operation.Ends

/-!
# The critical sections of the coremap

What the search, the eviction of blocks, the claim and the release do to tiled
descriptors. A search answers a run of frames none of which is reserved, and
only free ones under the policy that gives up nothing. Eviction frees whole
blocks, so it leaves tiled descriptors tiled wherever it stops. A release takes
a whole live block or nothing.
-/

namespace PagedMemory.Coremap

variable {ε π : Type} {frames frames' : Array Descriptor} {b : Block} {reserved : Nat}

theorem run_drawBlock (c : Coremap π) :
    (drawBlock : Operation ε (Coremap π) BlockId).run c =
      ⟨.value c.nextBlock, { c with nextBlock := c.nextBlock.succ }, []⟩ :=
  rfl

/-! ## Searching -/

/-- What holds of a policy while it is asked still holds after a scan. -/
theorem scan_keeps [EvictionPolicy π] {kept : π → Prop}
    (keeps : ∀ (policy : π) i descriptor, kept policy → kept (isUsable policy i descriptor).2)
    {wanted remaining index run : Nat} {policy : π} (before : kept policy) :
    kept (scan frames wanted remaining index run policy).2 := by
  induction remaining generalizing index run policy with
  | zero => exact before
  | succ remaining ih =>
    unfold scan
    split
    · exact before
    · next descriptor _ =>
      have after := keeps policy index descriptor before
      split
      · next policy asked =>
        rw [asked] at after
        split
        · exact after
        · exact ih after
      · next policy asked =>
        rw [asked] at after
        exact ih after

/-- A run found by a scan consists of frames of the kind that is usable in the states of
the policy that questions keep; the `run` frames before `index` count as seen. -/
theorem scan_eq_some [EvictionPolicy π] {Kind : Nat → Descriptor → Prop} {kept : π → Prop}
    (keeps : ∀ (policy : π) i descriptor, kept policy → kept (isUsable policy i descriptor).2)
    (usable : ∀ (policy : π) i descriptor policy', kept policy →
      isUsable policy i descriptor = (true, policy') → Kind i descriptor)
    {wanted remaining index run base : Nat} {policy policy' : π} (before : kept policy)
    (runLe : run ≤ index)
    (seen : ∀ i, index - run ≤ i → i < index →
      ∃ descriptor, frames[i]? = some descriptor ∧ Kind i descriptor)
    (found : scan frames wanted remaining index run policy = (some base, policy')) :
    0 < wanted ∧ ∀ i, base ≤ i → i < base + wanted →
      ∃ descriptor, frames[i]? = some descriptor ∧ Kind i descriptor := by
  induction remaining generalizing index run policy with
  | zero => simp [scan] at found
  | succ remaining ih =>
    unfold scan at found
    split at found
    · cases found
    · next descriptor recorded =>
      have after := keeps policy index descriptor before
      split at found
      · next policy asked =>
        have seenMore : ∀ i, index + 1 - (run + 1) ≤ i → i < index + 1 →
            ∃ descriptor, frames[i]? = some descriptor ∧ Kind i descriptor := by
          intro i low high
          by_cases earlier : i < index
          · exact seen i (by omega) earlier
          · obtain rfl : i = index := by omega
            exact ⟨descriptor, recorded, usable _ _ _ _ before asked⟩
        rw [asked] at after
        split at found
        · next enough =>
          cases found
          exact ⟨by omega, fun i low high => seenMore i (by omega) (by omega)⟩
        · exact ih after (by omega) seenMore found
      · next policy asked =>
        rw [asked] at after
        exact ih after (by omega) (fun i low high => by omega) found

theorem findRunFrom_eq_some [EvictionPolicy π] {Kind : Nat → Descriptor → Prop} (kept : π → Prop)
    (keeps : ∀ (policy : π) i descriptor, kept policy → kept (isUsable policy i descriptor).2)
    (usable : ∀ (policy : π) i descriptor policy', kept policy →
      isUsable policy i descriptor = (true, policy') → Kind i descriptor)
    {wanted cursor base : Nat} {policy policy' : π} (before : kept policy)
    (found : findRunFrom frames cursor wanted policy = (some base, policy')) :
    kept policy' ∧ 0 < wanted ∧ ∀ i, base ≤ i → i < base + wanted →
      ∃ descriptor, frames[i]? = some descriptor ∧ Kind i descriptor := by
  have after (start : Nat) (policy : π) (before : kept policy) :
      kept (findRun frames start wanted policy).2 := scan_keeps keeps before
  have run {start base : Nat} {policy policy' : π} (before : kept policy)
      (found : findRun frames start wanted policy = (some base, policy')) :=
    scan_eq_some keeps usable before (Nat.zero_le _) (fun i low high => by omega) found
  unfold findRunFrom at found
  split at found
  · next first =>
    cases found
    have kept := after cursor policy before
    rw [first] at kept
    exact ⟨kept, run before first⟩
  · next policy first =>
    have between := after cursor _ before
    rw [first] at between
    have kept := after 0 policy between
    rw [found] at kept
    exact ⟨kept, run between found⟩

/-- What is found whatever state the policy is in. -/
theorem usable_of_findRunFrom [EvictionPolicy π] {Kind : Descriptor → Prop}
    (usable : ∀ (policy : π) i descriptor policy',
      isUsable policy i descriptor = (true, policy') → Kind descriptor)
    {wanted cursor base : Nat} {policy policy' : π}
    (found : findRunFrom frames cursor wanted policy = (some base, policy')) :
    0 < wanted ∧ ∀ i, base ≤ i → i < base + wanted →
      ∃ descriptor, frames[i]? = some descriptor ∧ Kind descriptor :=
  (findRunFrom_eq_some (fun _ => True) (fun _ _ _ _ => trivial)
    (fun policy i descriptor policy' _ => usable policy i descriptor policy') trivial found).2

/-- A scan that finds nothing has met, in every run of `wanted` frames that begins
among the `run` frames before `index` or later, a frame that is not of the kind
that is always usable. -/
theorem exists_of_scan_eq_none [EvictionPolicy π] {Kind : Descriptor → Prop}
    (usable : ∀ (policy : π) i descriptor,
      Kind descriptor → (isUsable policy i descriptor).1 = true)
    {wanted remaining index run base : Nat} {policy policy' : π} (runLt : run < wanted)
    (reaches : frames.size ≤ index + remaining) (low : index ≤ base + run)
    (missed : scan frames wanted remaining index run policy = (none, policy')) :
    ∃ i, base ≤ i ∧ i < base + wanted ∧
      ∀ descriptor, frames[i]? = some descriptor → ¬ Kind descriptor := by
  have pastEnd {i : Nat} (outside : frames.size ≤ i) (descriptor : Descriptor)
      (recorded : frames[i]? = some descriptor) : ¬ Kind descriptor := by
    rw [Array.getElem?_eq_none outside] at recorded
    cases recorded
  induction remaining generalizing index run policy with
  | zero => exact ⟨max base index, by omega, by omega, pastEnd (by omega)⟩
  | succ remaining ih =>
    unfold scan at missed
    split at missed
    · next absent =>
      have outside := Array.getElem?_eq_none_iff.mp absent
      exact ⟨max base index, by omega, by omega, pastEnd (by omega)⟩
    · next descriptor recorded =>
      split at missed
      · split at missed
        · cases missed
        · exact ih (by omega) (by omega) (by omega) missed
      · next policy asked =>
        by_cases later : index < base
        · exact ih (by omega) (by omega) (by omega) missed
        · refine ⟨index, by omega, by omega, ?_⟩
          intro other recordedToo isKind
          obtain rfl := Option.some.inj (recorded.symm.trans recordedToo)
          have refused := congrArg Prod.fst asked
          rw [usable _ index _ isKind] at refused
          cases refused

theorem exists_of_findRunFrom_eq_none [EvictionPolicy π] {Kind : Descriptor → Prop}
    (usable : ∀ (policy : π) i descriptor,
      Kind descriptor → (isUsable policy i descriptor).1 = true)
    {wanted cursor : Nat} {policy policy' : π} (positive : 0 < wanted)
    (missed : findRunFrom frames cursor wanted policy = (none, policy')) (base : Nat) :
    ∃ i, base ≤ i ∧ i < base + wanted ∧
      ∀ descriptor, frames[i]? = some descriptor → ¬ Kind descriptor := by
  unfold findRunFrom at missed
  split at missed
  · cases missed
  · exact exists_of_scan_eq_none usable positive (by omega) (by omega) missed

theorem not_fixed_of_isUsable [EvictionPolicy π] (policy : π) (i : Nat) (descriptor : Descriptor)
    (policy' : π) (asked : isUsable policy i descriptor = (true, policy')) :
    descriptor ≠ .fixed := by
  rintro rfl
  simp [isUsable] at asked

theorem free_of_isUsable (policy : NoEviction) (i : Nat) (descriptor : Descriptor)
    (policy' : NoEviction) (asked : isUsable policy i descriptor = (true, policy')) :
    descriptor = .free := by
  cases descriptor with
  | free => rfl
  | fixed => simp [isUsable] at asked
  | inUse owner id size => simp [isUsable, EvictionPolicy.isEvictable] at asked

theorem isUsable_free [EvictionPolicy π] (policy : π) (i : Nat) (descriptor : Descriptor)
    (isFree : descriptor = .free) : (isUsable policy i descriptor).1 = true := by
  rw [isFree]
  rfl

theorem scanFree_eq_zero_or_free (remaining index : Nat) :
    scanFree frames remaining index = 0 ∨
      frames[scanFree frames remaining index]? = some .free := by
  induction remaining generalizing index with
  | zero => exact .inl rfl
  | succ remaining ih =>
    unfold scanFree
    split
    · next isFree =>
      right
      rcases recorded : frames[index]? with _ | _ | _ | _ <;>
        simp [recorded, Descriptor.isFree] at isFree ⊢
    · exact ih (index + 1)

/-- The cursor that a search leaves behind is frame zero or a free frame. -/
theorem nextFree_eq_zero_or_free (start : Nat) :
    nextFree frames start = 0 ∨ frames[nextFree frames start]? = some .free :=
  scanFree_eq_zero_or_free _ _

/-! ## The frames that carry an identity -/

theorem carries_iff (live : Live frames b) (i : Nat) :
    carries frames b.id i = true ↔ b.Covers i := by
  constructor
  · intro carried
    rcases recorded : frames[i]? with _ | descriptor
    · simp [carries, recorded] at carried
    · refine live.alone i descriptor recorded ?_
      simpa [carries, recorded] using carried
  · intro covers
    simp [carries, live.recorded i covers]

/-- Going back from a frame of a block, or from just behind it, ends at the
first frame of the block. -/
theorem blockStart_eq (live : Live frames b) {index : Nat} (low : b.base ≤ index)
    (high : index ≤ b.base + b.size) : blockStart frames b.id index = b.base := by
  induction index with
  | zero =>
    rw [blockStart]
    omega
  | succ index ih =>
    have inside : carries frames b.id index = true ↔ b.Covers index := carries_iff live index
    unfold blockStart
    by_cases covers : b.Covers index
    · rw [if_pos (inside.mpr covers)]
      exact ih covers.1 (by omega)
    · rw [if_neg (fun carried => covers (inside.mp carried))]
      by_contra different
      exact covers ⟨by omega, by omega⟩

/-- Whether all of the `n` frames from `start` on carry a block identity. -/
def carriesRun (frames : Array Descriptor) (block : BlockId) (start : Nat) : Nat → Bool
  | 0 => true
  | n + 1 => carries frames block start && carriesRun frames block (start + 1) n

theorem carriesRun_iff (id : BlockId) (start n : Nat) :
    carriesRun frames id start n = true ↔
      ∀ i, start ≤ i → i < start + n → carries frames id i = true := by
  induction n generalizing start with
  | zero =>
    simp only [carriesRun, true_iff]
    intro i low high
    omega
  | succ n ih =>
    rw [carriesRun, Bool.and_eq_true, ih]
    constructor
    · rintro ⟨first, rest⟩ i low high
      by_cases isFirst : i = start
      · rwa [isFirst]
      · exact rest i (by omega) (by omega)
    · intro all
      exact ⟨all start (Nat.le_refl _) (by omega), fun i low high => all i (by omega) (by omega)⟩

theorem carriesRun_of_live (live : Live frames b) :
    carriesRun frames b.id b.base b.size = true :=
  (carriesRun_iff _ _ _).mpr fun i low high => (carries_iff live i).mpr ⟨low, high⟩

/-! ### Freeing a run -/

/-- Whether a frame carries an identity is not changed by what happens to an earlier one. -/
theorem carriesRun_setIfInBounds {id : BlockId} {descriptor : Descriptor} {i start n : Nat}
    (earlier : i < start) :
    carriesRun (frames.setIfInBounds i descriptor) id start n = carriesRun frames id start n := by
  induction n generalizing start with
  | zero => rfl
  | succ n ih =>
    rw [carriesRun, carriesRun, ih (by omega), carries, carries,
      Array.getElem?_setIfInBounds_ne (by omega)]

/-- Frames that carry the identity they should are freed. -/
theorem run_vacateFrom_of_carriesRun {c : Coremap π} {base : Frame} {id : BlockId}
    {size index : Nat} (carried : carriesRun c.frames id index size = true) :
    (vacateFrom base id size index : Operation ε (Coremap π) Unit).run c =
      ⟨.value (), { c with frames := fill .free c.frames index size }, []⟩ := by
  induction size generalizing c index with
  | zero => rfl
  | succ size ih =>
    obtain ⟨first, rest⟩ := Bool.and_eq_true_iff.mp carried
    rw [vacateFrom, Operation.run_read_bind, Operation.run_require_bind, if_pos first,
      Operation.run_change_bind, ih ((carriesRun_setIfInBounds (Nat.lt_succ_self _)).trans rest)]
    rfl

/-- A live block is freed as a whole. -/
theorem run_vacate_of_live {c : Coremap π} (live : Live c.frames b) {base : Frame}
    (first : base.number = b.base) :
    (vacate base b.id b.size : Operation ε (Coremap π) Unit).run c =
      ⟨.value (), { c with frames := fill .free c.frames b.base b.size }, []⟩ := by
  have within : decide (base.number + b.size ≤ c.frames.size) = true :=
    decide_eq_true (first ▸ live.within)
  rw [vacate, Operation.run_read_bind, Operation.run_require_bind, if_pos within, first]
  exact run_vacateFrom_of_carriesRun (carriesRun_of_live live)

/-- A frame of a block is preceded by another one unless it is the first. -/
theorem continues_eq_false_iff (live : Live frames b) {i : Nat} (covers : b.Covers i) :
    continues frames b.id i = false ↔ i = b.base := by
  cases i with
  | zero =>
    have := covers.1
    simp only [continues, true_iff]
    omega
  | succ i =>
    rw [continues, ← Bool.not_eq_true, carries_iff live]
    have := covers.1
    have := covers.2
    constructor
    · intro notBefore
      by_contra different
      exact notBefore ⟨by omega, by omega⟩
    · rintro first ⟨low, high⟩
      omega

/-! ## Evicting blocks -/

/-- Some whole blocks were freed and nothing else was changed. -/
structure Shrunk (reserved : Nat) (frames frames' : Array Descriptor) : Prop where
  tiled : Tiled reserved frames'
  size_eq : frames'.size = frames.size
  free_or_same : ∀ i : Nat, frames'[i]? = some .free ∨ frames'[i]? = frames[i]?
  live : ∀ b, Live frames' b → Live frames b

namespace Shrunk

protected theorem refl (tiled : Tiled reserved frames) : Shrunk reserved frames frames :=
  ⟨tiled, rfl, fun _ => .inr rfl, fun _ => id⟩

protected theorem trans {frames'' : Array Descriptor} (first : Shrunk reserved frames frames')
    (second : Shrunk reserved frames' frames'') : Shrunk reserved frames frames'' where
  tiled := second.tiled
  size_eq := second.size_eq.trans first.size_eq
  free_or_same i := by
    rcases second.free_or_same i with free | same
    · exact .inl free
    · rw [same]
      exact first.free_or_same i
  live b liveAfter := first.live b (second.live b liveAfter)

theorem free (shrunk : Shrunk reserved frames frames') {i : Nat}
    (isFree : frames[i]? = some .free) : frames'[i]? = some .free := by
  rcases shrunk.free_or_same i with isFree' | same
  · exact isFree'
  · rw [same, isFree]

theorem fresh (shrunk : Shrunk reserved frames frames') {id : BlockId} (fresh : Fresh frames id) :
    Fresh frames' id := by
  intro i descriptor recorded carried
  rcases shrunk.free_or_same i with isFree | same
  · rw [isFree] at recorded
    cases recorded
    cases carried
  · exact fresh i descriptor (same ▸ recorded) carried

/-- Frames that are not reserved stay so. -/
theorem exists_ne_fixed (shrunk : Shrunk reserved frames frames') {i : Nat}
    (usable : ∃ descriptor, frames[i]? = some descriptor ∧ descriptor ≠ .fixed) :
    ∃ descriptor, frames'[i]? = some descriptor ∧ descriptor ≠ .fixed := by
  rcases shrunk.free_or_same i with isFree | same
  · exact ⟨.free, isFree, by simp⟩
  · rwa [same]

end Shrunk

theorem shrunk_fill_free (live : Live frames b) (tiled : Tiled reserved frames) :
    Shrunk reserved frames (fill .free frames b.base b.size) where
  tiled := live.tiled_fill_free tiled
  size_eq := size_fill _ _ _ _
  free_or_same i := by
    by_cases covers : b.Covers i
    · exact .inl (getElem?_fill_of_covers covers live.within)
    · exact .inr (getElem?_fill_of_not_covers covers)
  live c liveAfter := (live.live_fill_free_iff.mp liveAfter).1

section Eviction

variable [EvictionPolicy π] {c : Coremap π}

/-- A coremap that differs only by what an eviction may change. -/
structure Evicted (reserved : Nat) (c t : Coremap π) : Prop where
  shrunk : Shrunk reserved c.frames t.frames
  same : t = { c with frames := t.frames, policy := t.policy }

namespace Evicted

omit [EvictionPolicy π] in
protected theorem refl (tiled : Tiled reserved c.frames) : Evicted reserved c c :=
  ⟨.refl tiled, rfl⟩

omit [EvictionPolicy π] in
protected theorem trans {t u : Coremap π} (first : Evicted reserved c t)
    (second : Evicted reserved t u) : Evicted reserved c u := by
  refine ⟨first.shrunk.trans second.shrunk, ?_⟩
  rw [second.same, first.same]

end Evicted

/-- The policy may change its state, and then lets the block go or panics. -/
theorem ends_surrender {base : Frame} {size : Nat} {victim : Descriptor} {left : Nat}
    {post : Post ε (Coremap π) Unit} :
    (surrender base size victim).Ends left c post ↔
      match EvictionPolicy.evict c.policy base size victim with
      | (.ok _, policy) => post.value () { c with policy := policy } left
      | (.error cause, policy) => post.panic cause { c with policy := policy } := by
  have none : draws [.evicted base size victim] = 0 := by
    simp [draws]
  unfold Operation.Ends Operation.run surrender
  rcases EvictionPolicy.evict c.policy base size victim with ⟨_ | _, policy⟩ <;>
    simp [Outcome.Meets, none]

/-- Evicting the block of a frame frees the whole block, or stops before that
because the policy panics. -/
theorem ends_evictBlock (tiled : Tiled reserved c.frames) (few : c.frames.size ≤ 0x100000)
    (live : Live c.frames b) {index : Nat} (covers : b.Covers index) {left : Nat} :
    (evictBlock index b.owner b.id b.size : Operation ε (Coremap π) Nat).Ends left c
      ⟨fun stop t _ => stop = b.base + b.size ∧ Evicted reserved c t ∧
          ∀ i, b.Covers i → t.frames[i]? = some .free,
        fun _ _ _ => False,
        fun _ t => Evicted reserved c t⟩ := by
  have start : blockStart c.frames b.id index = b.base :=
    blockStart_eq live covers.1 (Nat.le_of_lt covers.2)
  have number : (Page.ofNumber b.base : Frame).number = b.base := by
    have := live.within
    have := live.nonempty
    exact Page.number_ofNumber_of_lt (by omega)
  simp only [evictBlock, Operation.ends_bind, Operation.ends_read, ends_surrender, start]
  split
  · next policy _ =>
    refine (Operation.ends_of_run_value (run_vacate_of_live (c := { c with policy := policy })
      live number)).mpr (Operation.ends_log.mpr (Operation.ends_pure.mpr ⟨rfl, ?_⟩))
    refine ⟨⟨shrunk_fill_free live tiled, rfl⟩, ?_⟩
    intro i inside
    exact getElem?_fill_of_covers inside live.within
  · exact ⟨.refl tiled, rfl⟩

/-- There are steps enough to pass every frame before `stop`. -/
theorem le_clearingSteps (count index : Nat) {stop : Nat} :
    stop ≤ index + clearingSteps count stop := by
  have enough : stop + 1 ≤ clearingSteps count stop :=
    Nat.le_mul_of_pos_left (stop + 1) (Nat.succ_pos count)
  omega

/-- Evicting a run leaves all of it free, and stops early only because the
policy panics. -/
theorem ends_evictRun {stop fuel index : Nat} (tiled : Tiled reserved c.frames)
    (few : c.frames.size ≤ 0x100000) (enough : stop ≤ index + fuel)
    (usable : ∀ i, index ≤ i → i < stop →
      ∃ descriptor, c.frames[i]? = some descriptor ∧ descriptor ≠ .fixed) {left : Nat} :
    (evictRun stop fuel index : Operation ε (Coremap π) Unit).Ends left c
      ⟨fun _ t _ => Evicted reserved c t ∧ ∀ i, index ≤ i → i < stop → t.frames[i]? = some .free,
        fun _ _ _ => False,
        fun _ t => Evicted reserved c t⟩ := by
  induction fuel generalizing c index left with
  | zero =>
    simp only [evictRun, Operation.ends_pure]
    exact ⟨.refl tiled, fun i low high => by omega⟩
  | succ fuel ih =>
    unfold evictRun
    by_cases more : index < stop
    · rw [if_pos more]
      simp only [Operation.ends_bind, Operation.ends_read]
      obtain ⟨descriptor, recorded, notFixed⟩ := usable index (Nat.le_refl _) more
      rw [recorded]
      cases descriptor with
      | fixed => exact absurd rfl notFixed
      | free =>
        refine (ih tiled few (by omega) fun i low high => usable i (by omega) high).mono ?_
          (fun _ _ _ => id) (fun _ _ => id)
        rintro ⟨⟩ t left' ⟨evicted, free⟩
        refine ⟨evicted, fun i low high => ?_⟩
        by_cases first : i = index
        · exact first ▸ evicted.shrunk.free recorded
        · exact free i (by omega) high
      | inUse owner block size =>
        obtain ⟨base, live, covers⟩ := tiled.covered index owner block size recorded
        refine Operation.Ends.bind (ends_evictBlock tiled few live covers) ?_
          (fun _ _ _ impossible => impossible.elim) (fun _ _ => id)
        rintro next t left' ⟨stopped, evicted, freed⟩
        obtain rfl : next = base + size := stopped
        have past : index < base + size := covers.2
        have few' : t.frames.size ≤ 0x100000 := evicted.shrunk.size_eq ▸ few
        refine (ih evicted.shrunk.tiled few' (by omega) fun i low high =>
          evicted.shrunk.exists_ne_fixed (usable i (by omega) high)).mono ?_
          (fun _ _ _ => id) (fun _ _ => evicted.trans)
        rintro ⟨⟩ u left'' ⟨evicted', free⟩
        refine ⟨evicted.trans evicted', fun i low high => ?_⟩
        by_cases inBlock : i < base + size
        · exact evicted'.shrunk.free (freed i ⟨Nat.le_trans covers.1 low, inBlock⟩)
        · exact free i (by omega) high
    · rw [if_neg more, Operation.ends_pure]
      exact ⟨.refl tiled, fun i low high => by omega⟩

/-! ## Claiming -/

theorem run_search {wanted : Nat} {base : Option Nat} {policy : π}
    (found : findRunFrom c.frames c.cursor wanted c.policy = (base, policy)) :
    (search wanted : Operation ε (Coremap π) (Option Nat)).run c =
      ⟨.value base, { c with policy := policy }, []⟩ := by
  simp [Operation.run, search, found]

/-- A claim for which the search finds no run only lets the policy answer. -/
theorem run_claim_of_missed {wanted : Nat} {policy : π}
    (missed : findRunFrom c.frames c.cursor wanted c.policy = (none, policy)) (owner : Owner)
    (block : BlockId) :
    (claim wanted owner block : Operation ε (Coremap π) (Option Frame)).run c =
      ⟨.value none, { c with policy := policy }, []⟩ := by
  rw [claim, Operation.run_bind_of_value (run_search missed)]
  rfl

/-- A claim takes nothing, or it evicts what it must and marks a run of free
frames as the new block. -/
theorem ends_claim {wanted : Nat} {owner : Owner} {block : BlockId}
    (tiled : Tiled reserved c.frames) (few : c.frames.size ≤ 0x100000)
    (fresh : Fresh c.frames block) {left : Nat} :
    (claim wanted owner block : Operation ε (Coremap π) (Option Frame)).Ends left c
      ⟨fun base t _ => match base with
        | none => Evicted reserved c t
        | some base => ∃ m, Evicted reserved c m ∧
            Vacant m.frames ⟨base.number, wanted, owner, block⟩ ∧
            t = { m with
              frames := fill (.inUse owner block wanted) m.frames base.number wanted
              cursor := nextFree (fill (.inUse owner block wanted) m.frames base.number wanted)
                (base.number + wanted) },
        fun _ _ _ => False,
        fun _ t => Evicted reserved c t⟩ := by
  unfold claim
  rcases found : findRunFrom c.frames c.cursor wanted c.policy with ⟨base, policy⟩
  rw [Operation.ends_bind, Operation.ends_of_run_value (run_search found)]
  have asked : Evicted reserved c { c with policy := policy } := ⟨.refl tiled, rfl⟩
  cases base with
  | none => exact Operation.ends_pure.mpr asked
  | some start =>
    obtain ⟨nonempty, usable⟩ := usable_of_findRunFrom not_fixed_of_isUsable found
    have number : (Page.ofNumber start : Frame).number = start := by
      obtain ⟨descriptor, recorded, _⟩ := usable start (Nat.le_refl _) (by omega)
      have := (Array.getElem?_eq_some_iff.mp recorded).1
      exact Page.number_ofNumber_of_lt (by omega)
    refine Operation.ends_bind.mpr (Operation.ends_read.mpr (Operation.Ends.bind
      (ends_evictRun (c := { c with policy := policy }) tiled few (le_clearingSteps _ _) usable) ?_
      (fun _ _ _ => id) (fun _ _ => asked.trans)))
    rintro ⟨⟩ m left' ⟨evicted, free⟩
    simp only [occupy, Operation.ends_bind, Operation.ends_change, Operation.ends_pure, number]
    refine ⟨m, asked.trans evicted, ⟨nonempty, ?_, evicted.shrunk.fresh fresh⟩, rfl⟩
    exact fun i covers => free i covers.1 covers.2

end Eviction

theorem run_evictRun_of_free [EvictionPolicy π] {c : Coremap π} {stop fuel index : Nat}
    (free : ∀ i, index ≤ i → i < stop → c.frames[i]? = some .free) :
    (evictRun stop fuel index : Operation ε (Coremap π) Unit).run c = ⟨.value (), c, []⟩ := by
  induction fuel generalizing index with
  | zero => rfl
  | succ fuel ih =>
    unfold evictRun
    by_cases more : index < stop
    · rw [if_pos more, Operation.run_bind_of_value (Operation.run_read _ _),
        free index (Nat.le_refl _) more]
      have rest : ∀ i, index + 1 ≤ i → i < stop → c.frames[i]? = some .free :=
        fun i low high => free i (by omega) high
      simp only [ih rest, List.nil_append]
    · rw [if_neg more]
      rfl

/-- There is no run of `wanted` free frames. -/
def Starved (frames : Array Descriptor) (wanted : Nat) : Prop :=
  ∀ base, ∃ i, base ≤ i ∧ i < base + wanted ∧ frames[i]? ≠ some .free

theorem Starved.mono {frames : Array Descriptor} {wanted more : Nat}
    (starved : Starved frames wanted) (le : wanted ≤ more) : Starved frames more := by
  intro base
  obtain ⟨i, low, high, notFree⟩ := starved base
  exact ⟨i, low, Nat.lt_of_lt_of_le high (Nat.add_le_add_left le base), notFree⟩

theorem not_starved_of_free {frames : Array Descriptor} {wanted : Nat} (base : Nat)
    (free : ∀ i < wanted, frames[base + i]? = some .free) : ¬ Starved frames wanted := by
  intro starved
  obtain ⟨i, low, high, notFree⟩ := starved base
  have isFree := free (i - base) (by omega)
  rw [Nat.add_sub_cancel' low] at isFree
  exact notFree isFree

theorem Starved.not_free {frames : Array Descriptor} (starved : Starved frames 1) (i : Nat) :
    frames[i]? ≠ some .free := by
  obtain ⟨j, low, high, notFree⟩ := starved i
  obtain rfl : j = i := by omega
  exact notFree

section NoEviction

variable {c : Coremap NoEviction} {wanted : Nat}

/-- A run that the search finds is free, and is marked as the new block. -/
theorem run_claim_of_some (owner : Owner) (block : BlockId) (few : c.frames.size ≤ 0x100000)
    {start : Nat} {policy : NoEviction}
    (found : findRunFrom c.frames c.cursor wanted c.policy = (some start, policy)) :
    0 < wanted ∧ (Page.ofNumber start : Frame).number = start ∧
      (∀ i, start ≤ i → i < start + wanted → c.frames[i]? = some .free) ∧
      (claim wanted owner block : Operation ε (Coremap NoEviction) (Option Frame)).run c =
        ⟨.value (some (.ofNumber start)),
          { c with
            frames := fill (.inUse owner block wanted) c.frames start wanted
            cursor := nextFree (fill (.inUse owner block wanted) c.frames start wanted)
              (start + wanted) }, []⟩ := by
  obtain ⟨nonempty, usable⟩ := usable_of_findRunFrom free_of_isUsable found
  have free : ∀ i, start ≤ i → i < start + wanted → c.frames[i]? = some .free := by
    intro i low high
    obtain ⟨descriptor, recorded, rfl⟩ := usable i low high
    exact recorded
  have number : (Page.ofNumber start : Frame).number = start := by
    have := (Array.getElem?_eq_some_iff.mp (free start (Nat.le_refl _) (by omega))).1
    exact Page.number_ofNumber_of_lt (by omega)
  refine ⟨nonempty, number, free, ?_⟩
  rw [claim, Operation.run_bind_of_value (run_search found)]
  simp only [Operation.run_read_bind]
  rw [Operation.run_bind_of_value (run_evictRun_of_free free)]
  rfl

/-- Under the policy that gives up nothing a claim changes nothing since there is
no run of free frames, or marks one as the new block. -/
theorem run_claim (c : Coremap NoEviction) (wanted : Nat) (owner : Owner) (block : BlockId)
    (few : c.frames.size ≤ 0x100000) :
    ((0 < wanted → Starved c.frames wanted) ∧
        (claim wanted owner block : Operation ε (Coremap NoEviction) (Option Frame)).run c =
          ⟨.value none, c, []⟩) ∨
      ∃ base : Frame, 0 < wanted ∧
        (∀ i, base.number ≤ i → i < base.number + wanted → c.frames[i]? = some .free) ∧
        (claim wanted owner block : Operation ε (Coremap NoEviction) (Option Frame)).run c =
          ⟨.value (some base),
            { c with
              frames := fill (.inUse owner block wanted) c.frames base.number wanted
              cursor := nextFree (fill (.inUse owner block wanted) c.frames base.number wanted)
                (base.number + wanted) }, []⟩ := by
  rcases found : findRunFrom c.frames c.cursor wanted c.policy with ⟨_ | start, policy⟩
  · refine .inl ⟨fun positive base => ?_, run_claim_of_missed found owner block⟩
    obtain ⟨i, low, high, notFree⟩ :=
      exists_of_findRunFrom_eq_none isUsable_free positive found base
    exact ⟨i, low, high, fun isFree => notFree _ isFree rfl⟩
  · obtain ⟨nonempty, number, free, run⟩ := run_claim_of_some owner block few found
    refine .inr ⟨.ofNumber start, nonempty, by rwa [number], ?_⟩
    rw [number]
    exact run

end NoEviction

/-! ## Releasing -/

/-- A release of a live block by its first frame frees the block. -/
theorem run_reclaim_of_live {c : Coremap π} (live : Live c.frames b) {base : Frame}
    (first : base.number = b.base) {single : Bool} (matching : single = true → b.size = 1) :
    (reclaim base single : Operation ε (Coremap π) Nat).run c =
      ⟨.value b.size, { c with
        frames := fill .free c.frames b.base b.size
        cursor := b.base }, []⟩ := by
  have recorded : c.frames[base.number]? = some (.inUse b.owner b.id b.size) :=
    live.recorded _ (first ▸ Block.covers_base live.nonempty)
  have matched : (!single || b.size == 1) = true := by
    cases single with
    | false => rfl
    | true => simp [matching rfl]
  have notInside : continues c.frames b.id base.number = false :=
    (continues_eq_false_iff live (first ▸ Block.covers_base live.nonempty)).mpr first
  simp only [reclaim, Operation.run_read_bind, Operation.run_require_bind, recorded, matched,
    notInside, Bool.not_false, if_true]
  rw [Operation.run_bind_of_value (run_vacate_of_live live first), Operation.run_change_bind, first]
  rfl

/-- Why a frame is not released; `none` if nothing speaks against it. -/
def refusal? (frames : Array Descriptor) (base : Frame) (single : Bool) : Option Panic :=
  match frames[base.number]? with
  | none => some (.freePastEnd base)
  | some .free | some .fixed => some (.freeUnallocated base)
  | some (.inUse _ block size) =>
    if single && size != 1 then some (.singleFreeOfBlock base size)
    else if continues frames block base.number then some (.freeInsideBlock base block)
    else none

/-- Nothing speaks against a release by the first frame of a live block, if it is a
block of one frame or need not be one. -/
theorem refusal?_eq_none_iff (tiled : Tiled reserved frames) (base : Frame) (single : Bool) :
    refusal? frames base single = none ↔
      ∃ b, Live frames b ∧ base.number = b.base ∧ (single = true → b.size = 1) := by
  constructor
  · intro allowed
    unfold refusal? at allowed
    split at allowed
    · cases allowed
    · cases allowed
    · cases allowed
    · next owner block size recorded =>
      obtain ⟨start, live, covers⟩ := tiled.covered _ _ _ _ recorded
      split at allowed
      · cases allowed
      · next matching =>
        split at allowed
        · cases allowed
        · next notInside =>
          refine ⟨_, live, (continues_eq_false_iff live covers).mp (by simpa using notInside), ?_⟩
          simpa using matching
  · rintro ⟨b, live, first, matching⟩
    have covers : b.Covers base.number := first ▸ Block.covers_base live.nonempty
    have notInside : continues frames b.id base.number = false :=
      (continues_eq_false_iff live covers).mpr first
    have matched : (single && b.size != 1) = false := by
      cases single with
      | false => rfl
      | true => simp [matching rfl]
    simp [refusal?, live.recorded _ covers, Block.descriptor, notInside, matched]

theorem run_reclaim_of_refused {c : Coremap π} {base : Frame} {single : Bool} {cause : Panic}
    (refused : refusal? c.frames base single = some cause) :
    (reclaim base single : Operation ε (Coremap π) Nat).run c = ⟨.panic cause, c, []⟩ := by
  unfold refusal? at refused
  rw [reclaim, Operation.run_read_bind]
  split at refused
  · next recorded =>
    rw [recorded]
    cases refused
    rfl
  · next recorded =>
    rw [recorded]
    cases refused
    rfl
  · next recorded =>
    rw [recorded]
    cases refused
    rfl
  · next owner block size recorded =>
    rw [recorded]
    split at refused
    · next several =>
      cases refused
      have unmatched : (!single || size == 1) = false := by
        simpa using several
      simp [unmatched]
    · next matching =>
      split at refused
      · next inside =>
        cases refused
        have matched : (!single || size == 1) = true := by
          simpa [imp_iff_not_or] using matching
        simp [matched, inside]
      · cases refused

/-- A release takes a whole live block by its first frame, or it panics and
changes nothing. -/
theorem run_reclaim {c : Coremap π} (tiled : Tiled reserved c.frames) (base : Frame)
    (single : Bool) :
    (∃ b, Live c.frames b ∧ base.number = b.base ∧ (single = true → b.size = 1) ∧
        (reclaim base single : Operation ε (Coremap π) Nat).run c =
          ⟨.value b.size, { c with
            frames := fill .free c.frames b.base b.size
            cursor := b.base }, []⟩) ∨
      ∃ cause, (reclaim base single : Operation ε (Coremap π) Nat).run c =
        ⟨.panic cause, c, []⟩ := by
  rcases refused : refusal? c.frames base single with _ | cause
  · obtain ⟨b, live, first, matching⟩ := (refusal?_eq_none_iff tiled base single).mp refused
    exact .inl ⟨b, live, first, matching, run_reclaim_of_live live first matching⟩
  · exact .inr ⟨cause, run_reclaim_of_refused refused⟩

end PagedMemory.Coremap
