import PagedMemory.Proofs.Coremap.History

/-!
# Which blocks an allocation evicts

The run that an allocation claims may begin or end inside a block, and there may
be gaps between the blocks that it meets. The loop that clears the run finds each
block by one of its frames, frees all of it, and goes on behind it, so what it
looks at is changed by what it has done. In effect it takes a list of blocks that
is fixed before it starts: those that meet the run, each once, in ascending order.
-/

namespace PagedMemory

/-- What was handed to the eviction policy while some events were shown. -/
def evictions (events : List Event) : List (Frame × Nat × Descriptor) :=
  events.filterMap fun
    | .evicted base size victim => some (base, size, victim)
    | _ => none

@[simp]
theorem evictions_append (first more : List Event) :
    evictions (first ++ more) = evictions first ++ evictions more :=
  List.filterMap_append

namespace Block

/-- Some frame from `index` up to `stop` is one of the block's. -/
def Meets (b : Block) (index stop : Nat) : Prop :=
  ∃ i, index ≤ i ∧ i < stop ∧ b.Covers i

/-- What a policy is told of the block when it is taken. -/
def handed (b : Block) : Frame × Nat × Descriptor :=
  (.ofNumber b.base, b.size, b.descriptor)

end Block

namespace Coremap

variable {ε π : Type} {frames : Array Descriptor} {b : Block} {victims : List Block}
  {reserved index stop : Nat}

/-! ## The blocks that meet a run -/

/-- The live blocks that meet the frames from `index` up to `stop`, in ascending
order. -/
structure Victims (frames : Array Descriptor) (index stop : Nat) (victims : List Block) : Prop where
  ascending : victims.Pairwise fun b d => b.base < d.base
  mem_iff : ∀ b, b ∈ victims ↔ Live frames b ∧ b.Meets index stop

namespace Victims

theorem live (meeting : Victims frames index stop victims) (mem : b ∈ victims) : Live frames b :=
  ((meeting.mem_iff b).mp mem).1

theorem nodup (meeting : Victims frames index stop victims) : victims.Nodup := by
  refine meeting.ascending.imp ?_
  rintro b d below rfl
  exact Nat.lt_irrefl _ below

protected theorem nil (done : stop ≤ index) : Victims frames index stop [] where
  ascending := .nil
  mem_iff b := by
    simp only [List.not_mem_nil, false_iff]
    rintro ⟨_, i, low, high, _⟩
    omega

/-- A frame that no block covers is passed over. -/
theorem skip (unused : ∀ b, Live frames b → ¬ b.Covers index)
    (rest : Victims frames (index + 1) stop victims) : Victims frames index stop victims where
  ascending := rest.ascending
  mem_iff b := by
    rw [rest.mem_iff]
    constructor
    · rintro ⟨live, i, low, high, covers⟩
      exact ⟨live, i, by omega, high, covers⟩
    · rintro ⟨live, i, low, high, covers⟩
      have notFirst : i ≠ index := fun first => unused b live (first ▸ covers)
      exact ⟨live, i, by omega, high, covers⟩

/-- The block of the first frame comes first, and behind it come the blocks that are
left once it is freed. -/
theorem cons (live : Live frames b) (covers : b.Covers index) (more : index < stop)
    (rest : Victims (fill .free frames b.base b.size) (b.base + b.size) stop victims) :
    Victims frames index stop (b :: victims) where
  ascending := by
    refine .cons ?_ rest.ascending
    intro d mem
    obtain ⟨liveAfter, i, low, _, inside⟩ := (rest.mem_iff d).mp mem
    obtain ⟨liveBefore, different⟩ := live.live_fill_free_iff.mp liveAfter
    by_contra notAbove
    have around : d.Covers b.base := ⟨by omega, by have := inside.2; omega⟩
    exact liveBefore.apart live different b.base around (Block.covers_base live.nonempty)
  mem_iff d := by
    rw [List.mem_cons, rest.mem_iff, live.live_fill_free_iff]
    constructor
    · rintro (rfl | ⟨⟨liveBefore, _⟩, i, low, high, inside⟩)
      · exact ⟨live, index, Nat.le_refl _, more, covers⟩
      · have := covers.2
        exact ⟨liveBefore, i, by omega, high, inside⟩
    · rintro ⟨liveBefore, i, low, high, inside⟩
      by_cases same : d = b
      · exact .inl same
      · have away : ¬ b.Covers i := liveBefore.apart live same i inside
        have behind : b.base + b.size ≤ i := by
          by_contra before
          exact away ⟨Nat.le_trans covers.1 low, by omega⟩
        exact .inr ⟨⟨liveBefore, same⟩, i, behind, high, inside⟩

end Victims

/-! ## Freeing several blocks -/

/-- The descriptors once some blocks are freed. -/
def vacated (frames : Array Descriptor) : List Block → Array Descriptor
  | [] => frames
  | b :: rest => vacated (fill .free frames b.base b.size) rest

@[simp]
theorem size_vacated (frames : Array Descriptor) (victims : List Block) :
    (vacated frames victims).size = frames.size := by
  induction victims generalizing frames with
  | nil => rfl
  | cons b rest ih => rw [vacated, ih, size_fill]

theorem getElem?_vacated_of_not_covers {i : Nat} (outside : ∀ b ∈ victims, ¬ b.Covers i) :
    (vacated frames victims)[i]? = frames[i]? := by
  induction victims generalizing frames with
  | nil => rfl
  | cons b rest ih =>
    rw [vacated, ih fun d mem => outside d (List.mem_cons_of_mem _ mem)]
    exact getElem?_fill_of_not_covers (outside b List.mem_cons_self)

/-- What is free stays free. -/
theorem getElem?_vacated_of_free {i : Nat} (free : frames[i]? = some .free) :
    (vacated frames victims)[i]? = some .free := by
  induction victims generalizing frames with
  | nil => exact free
  | cons b rest ih =>
    refine ih ?_
    rw [getElem?_fill, free, ite_self]

theorem getElem?_vacated_of_covers {i : Nat} (mem : b ∈ victims) (covers : b.Covers i)
    (inRam : i < frames.size) : (vacated frames victims)[i]? = some .free := by
  induction victims generalizing frames with
  | nil => cases mem
  | cons d rest ih =>
    rw [vacated]
    rcases List.mem_cons.mp mem with rfl | mem
    · refine getElem?_vacated_of_free ?_
      rw [getElem?_fill, if_pos ⟨covers.1, covers.2, inRam⟩]
    · exact ih mem ((size_fill _ _ _ _).symm ▸ inRam)

/-! ## Taking one block -/

section Eviction

variable [EvictionPolicy π] {c : Coremap π}

/-- From whichever of its frames a block is taken, the same happens. -/
theorem run_evictBlock_of_covers (live : Live c.frames b) (covers : b.Covers index) :
    (evictBlock index b.owner b.id b.size : Operation ε (Coremap π) Nat).run c =
      (evictBlock b.base b.owner b.id b.size).run c := by
  have start : blockStart c.frames b.id index = b.base :=
    blockStart_eq live covers.1 (Nat.le_of_lt covers.2)
  have startOfFirst : blockStart c.frames b.id b.base = b.base :=
    blockStart_eq live (Nat.le_refl _) (Nat.le_add_right _ _)
  simp only [evictBlock, Operation.run_read_bind, start, startOfFirst]

/-- A block that the policy lets go is handed over once and freed. -/
theorem run_evictBlock_of_ok (live : Live c.frames b) (few : c.frames.size ≤ 0x100000) {policy : π}
    (lets : EvictionPolicy.evict c.policy (.ofNumber b.base) b.size b.descriptor =
      (.ok (), policy)) :
    ∃ shown, (evictBlock b.base b.owner b.id b.size : Operation ε (Coremap π) Nat).run c =
        ⟨.value (b.base + b.size),
          { c with frames := fill .free c.frames b.base b.size, policy := policy }, shown⟩ ∧
      evictions shown = [b.handed] := by
  have start : blockStart c.frames b.id b.base = b.base :=
    blockStart_eq live (Nat.le_refl _) (Nat.le_add_right _ _)
  have number : (Page.ofNumber b.base : Frame).number = b.base := by
    have := live.within
    have := live.nonempty
    exact Page.number_ofNumber_of_lt (by omega)
  have surrendered : (surrender (.ofNumber b.base) b.size (.inUse b.owner b.id b.size) :
      Operation ε (Coremap π) Unit).run c =
        ⟨.value (), { c with policy := policy }, [.evicted (.ofNumber b.base) b.size b.descriptor]⟩
      := by
    unfold Block.descriptor at lets
    simp [Operation.run, surrender, lets, Block.descriptor]
  have freed := run_vacate_of_live (ε := ε) (c := { c with policy := policy }) live number
  rw [evictBlock, Operation.run_read_bind, start, Operation.run_bind_of_value surrendered,
    Operation.run_bind_of_value freed]
  exact ⟨_, rfl, rfl⟩

/-- A block that the policy does not let go is handed over once, and nothing else
happens. -/
theorem run_evictBlock_of_error (live : Live c.frames b) {cause : Panic} {policy : π}
    (refuses : EvictionPolicy.evict c.policy (.ofNumber b.base) b.size b.descriptor =
      (.error cause, policy)) :
    ∃ shown, (evictBlock b.base b.owner b.id b.size : Operation ε (Coremap π) Nat).run c =
        ⟨.panic cause, { c with policy := policy }, shown⟩ ∧
      evictions shown = [b.handed] := by
  have start : blockStart c.frames b.id b.base = b.base :=
    blockStart_eq live (Nat.le_refl _) (Nat.le_add_right _ _)
  have surrendered : (surrender (.ofNumber b.base) b.size (.inUse b.owner b.id b.size) :
      Operation ε (Coremap π) Unit).run c =
        ⟨.panic cause, { c with policy := policy },
          [.evicted (.ofNumber b.base) b.size b.descriptor]⟩ := by
    unfold Block.descriptor at refuses
    simp [Operation.run, surrender, refuses, Block.descriptor]
  rw [evictBlock, Operation.run_read_bind, start]
  exact ⟨_, Operation.run_bind_of_panic surrendered, rfl⟩

/-! ## Taking all of them -/

/-- Take some blocks, one after the other, each from its first frame. -/
def evictAll : List Block → Operation ε (Coremap π) Unit
  | [] => pure ()
  | b :: rest => do
    let _ ← evictBlock b.base b.owner b.id b.size
    evictAll rest

/-- What a policy has become once it was told of some blocks, one after the other. -/
def told (policy : π) : List Block → π
  | [] => policy
  | b :: rest => told (EvictionPolicy.evict policy (.ofNumber b.base) b.size b.descriptor).2 rest

theorem run_evictRun_of_block (live : Live c.frames b) (covers : b.Covers index)
    (more : index < stop) (fuel : Nat) :
    (evictRun stop (fuel + 1) index : Operation ε (Coremap π) Unit).run c =
      (evictBlock b.base b.owner b.id b.size >>= evictRun stop fuel).run c := by
  have recorded : c.frames[index]? = some (.inUse b.owner b.id b.size) :=
    live.recorded index covers
  rw [evictRun, if_pos more, Operation.run_read_bind, recorded]
  change (evictBlock index b.owner b.id b.size >>= evictRun stop fuel).run c = _
  rcases begun : (evictBlock b.base b.owner b.id b.size : Operation ε (Coremap π) Nat).run c with
    ⟨next | e | cause, t, shown⟩
  · rw [Operation.run_bind_of_value begun,
      Operation.run_bind_of_value ((run_evictBlock_of_covers live covers).trans begun)]
  · rw [Operation.run_bind_of_error begun,
      Operation.run_bind_of_error ((run_evictBlock_of_covers live covers).trans begun)]
  · rw [Operation.run_bind_of_panic begun,
      Operation.run_bind_of_panic ((run_evictBlock_of_covers live covers).trans begun)]

theorem run_evictRun_of_unused (tiled : Tiled reserved c.frames)
    (unused : ∀ b, Live c.frames b → ¬ b.Covers index) (more : index < stop) (fuel : Nat) :
    (evictRun stop (fuel + 1) index : Operation ε (Coremap π) Unit).run c =
      (evictRun stop fuel (index + 1)).run c := by
  rw [evictRun, if_pos more, Operation.run_read_bind]
  split
  · next owner block size recorded =>
    obtain ⟨base, live, covers⟩ := tiled.covered index owner block size recorded
    exact absurd covers (unused _ live)
  · rfl

/-- The loop that clears a run takes the blocks that meet it, and needs to look at no
more frames than the run has. -/
theorem exists_victims {left : Nat} (tiled : Tiled reserved frames)
    (few : frames.size ≤ 0x100000) (enough : stop ≤ index + left) :
    ∃ victims, Victims frames index stop victims ∧
      ∀ (c : Coremap π) (fuel : Nat), c.frames = frames → stop ≤ index + fuel →
        (evictRun stop fuel index : Operation ε (Coremap π) Unit).run c =
          (evictAll victims).run c := by
  induction left generalizing frames index with
  | zero =>
    refine ⟨[], .nil enough, fun c fuel _ _ => run_evictRun_of_free ?_⟩
    intro i low high
    omega
  | succ left ih =>
    by_cases more : index < stop
    · by_cases used : ∃ b, Live frames b ∧ b.Covers index
      · obtain ⟨b, live, covers⟩ := used
        have past := covers.2
        obtain ⟨victims, rest, run⟩ := ih (live.tiled_fill_free tiled)
          ((size_fill _ _ _ _).symm ▸ few) (by omega : stop ≤ b.base + b.size + left)
        refine ⟨b :: victims, .cons live covers more rest, ?_⟩
        rintro c (_ | fuel) rfl enoughFuel
        · omega
        · rw [run_evictRun_of_block live covers more, evictAll]
          rcases asked : EvictionPolicy.evict c.policy (.ofNumber b.base) b.size b.descriptor with
            ⟨cause | _, policy⟩
          · obtain ⟨shown, refused, _⟩ := run_evictBlock_of_error (ε := ε) live asked
            rw [Operation.run_bind_of_panic refused, Operation.run_bind_of_panic refused]
          · obtain ⟨shown, taken, _⟩ := run_evictBlock_of_ok (ε := ε) live few asked
            rw [Operation.run_bind_of_value taken, Operation.run_bind_of_value taken,
              run _ fuel rfl (by omega)]
      · have unused (b : Block) (live : Live frames b) : ¬ b.Covers index :=
          fun covers => used ⟨b, live, covers⟩
        obtain ⟨victims, rest, run⟩ := ih tiled few (by omega : stop ≤ index + 1 + left)
        refine ⟨victims, .skip unused rest, ?_⟩
        rintro c (_ | fuel) rfl enoughFuel
        · omega
        · rw [run_evictRun_of_unused tiled unused more, run c fuel rfl (by omega)]
    · refine ⟨[], .nil (by omega), fun c fuel _ _ => run_evictRun_of_free ?_⟩
      intro i low high
      omega

/-- What comes of taking some blocks of a coremap: either each of them was handed over
once, in order, and the outcome is the value `a` in the state `t`; or the policy
panicked at one of them, those before it are freed, and none behind it was handed over. -/
def Takes {α : Type} (c : Coremap π) (victims : List Block) (a : α) (t : Coremap π)
    (outcome : Outcome ε (Coremap π) α) : Prop :=
  (∃ shown, outcome = ⟨.value a, t, shown⟩ ∧ evictions shown = victims.map Block.handed) ∨
    ∃ taken b rest cause policy shown, victims = taken ++ b :: rest ∧
      EvictionPolicy.evict (told c.policy taken) (.ofNumber b.base) b.size b.descriptor =
        (.error cause, policy) ∧
      outcome =
        ⟨.panic cause, { c with frames := vacated c.frames taken, policy := policy }, shown⟩ ∧
      evictions shown = (taken ++ [b]).map Block.handed

/-- Live blocks are handed over one after the other, and freed. -/
theorem takes_evictAll (live : ∀ b ∈ victims, Live c.frames b) (distinct : victims.Nodup)
    (few : c.frames.size ≤ 0x100000) :
    Takes c victims ()
      { c with frames := vacated c.frames victims, policy := told c.policy victims }
      ((evictAll victims : Operation ε (Coremap π) Unit).run c) := by
  induction victims generalizing c with
  | nil => exact .inl ⟨[], rfl, rfl⟩
  | cons b rest ih =>
    obtain ⟨notLater, distinctRest⟩ := List.nodup_cons.mp distinct
    have liveFirst : Live c.frames b := live b List.mem_cons_self
    rw [evictAll]
    rcases asked : EvictionPolicy.evict c.policy (.ofNumber b.base) b.size b.descriptor with
      ⟨cause | _, policy⟩
    · obtain ⟨shown, refused, handed⟩ := run_evictBlock_of_error (ε := ε) liveFirst asked
      exact .inr ⟨[], b, rest, cause, policy, shown, rfl, asked,
        Operation.run_bind_of_panic refused, handed⟩
    · obtain ⟨shown, freed, handed⟩ := run_evictBlock_of_ok (ε := ε) liveFirst few asked
      rw [Operation.run_bind_of_value freed]
      have liveRest (d : Block) (mem : d ∈ rest) :
          Live (fill .free c.frames b.base b.size) d := by
        refine liveFirst.live_fill_free_iff.mpr ⟨live d (List.mem_cons_of_mem _ mem), ?_⟩
        rintro rfl
        exact notLater mem
      rcases ih (c := { c with frames := fill .free c.frames b.base b.size, policy := policy })
          liveRest distinctRest ((size_fill _ _ _ _).symm ▸ few) with
        ⟨more, run, handedRest⟩ |
          ⟨taken, d, later, cause, policy', more, split, asked', run, handedRest⟩
      · refine .inl ⟨shown ++ more, ?_, by simp [handed, handedRest]⟩
        rw [run, vacated, told, asked]
      · refine .inr ⟨b :: taken, d, later, cause, policy', shown ++ more, by rw [split]; rfl, ?_,
          ?_, by simp [handed, handedRest]⟩
        · rw [told, asked]
          exact asked'
        · rw [run, vacated]

/-! ## Claiming a run -/

/-- What a coremap becomes when `wanted` frames from `start` on are claimed and the blocks
that are in the way are taken. -/
def claimed (c : Coremap π) (policy : π) (victims : List Block) (start wanted : Nat)
    (owner : Owner) (block : BlockId) : Coremap π :=
  let frames := fill (.inUse owner block wanted) (vacated c.frames victims) start wanted
  { c with
    frames := frames
    policy := told policy victims
    cursor := nextFree frames (start + wanted) }

/-- A claim of a run that the search finds takes the blocks that meet the run. The loop
that clears it would not go on if it were allowed to look at more frames. -/
theorem exists_takes_claim (tiled : Tiled reserved c.frames) (few : c.frames.size ≤ 0x100000)
    {wanted start : Nat} {policy : π}
    (found : findRunFrom c.frames c.cursor wanted c.policy = (some start, policy)) (owner : Owner)
    (block : BlockId) :
    ∃ victims, Victims c.frames start (start + wanted) victims ∧
      (∀ (m : Coremap π) (more : Nat), m.frames = c.frames →
        (evictRun (start + wanted) (wanted + more) start : Operation ε (Coremap π) Unit).run m =
          (evictRun (start + wanted) wanted start).run m) ∧
      Takes { c with policy := policy } victims (some (.ofNumber start))
        (c.claimed policy victims start wanted owner block)
        ((claim wanted owner block : Operation ε (Coremap π) (Option Frame)).run c) := by
  obtain ⟨victims, meeting, loop⟩ := exists_victims (ε := ε) (π := π) tiled few
    (Nat.le_refl (start + wanted))
  refine ⟨victims, meeting, ?_, ?_⟩
  · intro m more same
    rw [loop m _ same (by omega), loop m _ same (Nat.le_refl _)]
  · rw [claim, Operation.run_bind_of_value (run_search found)]
    simp only [Operation.run_read_bind]
    have cleared := loop { c with policy := policy } _ rfl (le_clearingSteps c.frames.size start)
    rcases takes_evictAll (ε := ε) (c := { c with policy := policy }) (fun b => meeting.live)
      meeting.nodup few with
      ⟨shown, run, handed⟩ | ⟨taken, b, rest, cause, policy', shown, split, asked, run, handed⟩
    · refine .inl ⟨shown, ?_, handed⟩
      rw [Operation.run_bind_of_value (cleared.trans run)]
      simp only [occupy, Operation.run_change_bind, Operation.run_pure, List.nil_append,
        List.append_nil, claimed]
    · refine .inr ⟨taken, b, rest, cause, policy', shown, split, asked, ?_, handed⟩
      rw [Operation.run_bind_of_panic (cleared.trans run)]
      rfl

/-! ## Whole allocations -/

variable {context : Option Context}

omit [EvictionPolicy π] in
theorem run_draw (unlocked : c.locks = .free) (canSleep : CanSleep context) :
    (holding context .identity drawBlock : Operation ε (Coremap π) BlockId).run c =
      ⟨.value c.nextBlock, { c with nextBlock := c.nextBlock.succ },
        [.acquired .identity, .released .identity]⟩ :=
  run_holding (by rw [unlocked]; rfl) canSleep (run_drawBlock _) rfl

/-- The coremap as the claim of an allocation finds it: an identity was drawn, and the
cursor and the descriptors are locked. -/
def entered (c : Coremap π) (context : Option Context) : Coremap π :=
  { c with
    locks := ⟨.free, ⟨Context.currentThread context⟩, ⟨Context.currentThread context⟩⟩
    nextBlock := c.nextBlock.succ }

/-- An allocation draws an identity and then makes its claim under the two locks. -/
theorem run_allocate (unlocked : c.locks = .free) (canSleep : CanSleep context) {wanted : Nat}
    (positive : 0 < wanted) {owner : Owner} {t : Coremap π} {shown : List Event}
    {result : Result OutOfMemory (Option Frame)}
    (inside : (claim wanted owner c.nextBlock : Operation OutOfMemory (Coremap π) _).run
      (c.entered context) = ⟨result, t, shown⟩)
    (kept : t.locks = (c.entered context).locks) :
    ∃ more, (allocate context wanted owner).run c =
        ⟨match result with
          | .value (some base) => .value base
          | .value none => .error ⟨wanted⟩
          | .error e => .error e
          | .panic cause => .panic cause, { t with locks := .free }, more⟩ ∧
      evictions more = evictions shown := by
  have able : (wanted != 0) = true := by
    simpa using Nat.ne_of_gt positive
  have section_ := run_holdingCursorAndFrames (c := { c with nextBlock := c.nextBlock.succ })
    unlocked canSleep inside kept
  rw [allocate, Operation.run_require_bind, if_pos able,
    Operation.run_bind_of_value (run_draw unlocked canSleep)]
  rcases result with (_ | base) | e | cause
  · rw [Operation.run_bind_of_value section_]
    simp only [Operation.run_bind_of_value (Operation.run_log _ _ _), Operation.run_fail]
    exact ⟨_, rfl, by simp [evictions]⟩
  · rw [Operation.run_bind_of_value section_]
    simp only [Operation.run_bind_of_value (Operation.run_log _ _ _), Operation.run_pure]
    exact ⟨_, rfl, by simp [evictions]⟩
  · rw [Operation.run_bind_of_error section_]
    exact ⟨_, rfl, by simp [evictions]⟩
  · rw [Operation.run_bind_of_panic section_]
    exact ⟨_, rfl, by simp [evictions]⟩

/-- An allocation for which there is no run reports this. It has drawn an identity, and
has changed nothing else but what the policy makes of the questions. -/
theorem run_allocate_of_missed (unlocked : c.locks = .free) (canSleep : CanSleep context)
    {wanted : Nat} (positive : 0 < wanted) {policy : π}
    (missed : findRunFrom c.frames c.cursor wanted c.policy = (none, policy)) (owner : Owner) :
    ∃ shown, (allocate context wanted owner).run c =
        ⟨.error ⟨wanted⟩, { c with nextBlock := c.nextBlock.succ, policy := policy }, shown⟩ ∧
      evictions shown = [] := by
  have inside := run_claim_of_missed (ε := OutOfMemory) (c := c.entered context) missed owner
    c.nextBlock
  obtain ⟨shown, run, handed⟩ := run_allocate unlocked canSleep positive inside rfl
  refine ⟨shown, run.trans ?_, handed⟩
  rw [← unlocked]
  rfl

/-- An allocation for which there is a run takes the blocks that meet it. -/
theorem exists_takes_allocate (unlocked : c.locks = .free) (canSleep : CanSleep context)
    (tiled : Tiled reserved c.frames) (few : c.frames.size ≤ 0x100000) {wanted start : Nat}
    (positive : 0 < wanted) {policy : π}
    (found : findRunFrom c.frames c.cursor wanted c.policy = (some start, policy))
    (owner : Owner) :
    ∃ victims, Victims c.frames start (start + wanted) victims ∧
      (∀ (m : Coremap π) (more : Nat), m.frames = c.frames →
        (evictRun (start + wanted) (wanted + more) start :
            Operation OutOfMemory (Coremap π) Unit).run m =
          (evictRun (start + wanted) wanted start).run m) ∧
      Takes { c with nextBlock := c.nextBlock.succ, policy := policy } victims (.ofNumber start)
        (claimed { c with nextBlock := c.nextBlock.succ } policy victims start wanted owner
          c.nextBlock)
        ((allocate context wanted owner).run c) := by
  obtain ⟨victims, meeting, loop, takes⟩ := exists_takes_claim (ε := OutOfMemory)
    (c := c.entered context) tiled few found owner c.nextBlock
  refine ⟨victims, meeting, loop, ?_⟩
  rcases takes with
    ⟨shown, inside, handed⟩ | ⟨taken, b, rest, cause, policy', shown, split, asked, inside, handed⟩
  · obtain ⟨more, run, same⟩ := run_allocate unlocked canSleep positive inside rfl
    refine .inl ⟨more, run.trans ?_, same.trans handed⟩
    simp only [claimed, entered, ← unlocked]
  · obtain ⟨more, run, same⟩ := run_allocate unlocked canSleep positive inside rfl
    refine .inr ⟨taken, b, rest, cause, policy', more, split, asked, run.trans ?_,
      same.trans handed⟩
    simp only [entered, ← unlocked]

/-- What an allocation of `wanted` frames from `start` on has done to the descriptors, if
the blocks `victims` were in its way. -/
structure Replaced (frames frames' : Array Descriptor) (victims : List Block) (start wanted : Nat)
    (owner : Owner) (block : BlockId) : Prop where
  size_eq : frames'.size = frames.size
  placed : ∀ i, start ≤ i → i < start + wanted → frames'[i]? = some (.inUse owner block wanted)
  freed : ∀ b ∈ victims, ∀ i, b.Covers i → ¬ (start ≤ i ∧ i < start + wanted) →
    frames'[i]? = some .free
  kept : ∀ i : Nat, (∀ b ∈ victims, ¬ b.Covers i) → ¬ (start ≤ i ∧ i < start + wanted) →
    frames'[i]? = frames[i]?

theorem replaced_fill_vacated {wanted start : Nat} {owner : Owner} {block : BlockId}
    (meeting : Victims frames index stop victims) (within : start + wanted ≤ frames.size) :
    Replaced frames (fill (.inUse owner block wanted) (vacated frames victims) start wanted)
      victims start wanted owner block where
  size_eq := by rw [size_fill, size_vacated]
  placed i low high := by
    rw [getElem?_fill, if_pos ⟨low, high, by rw [size_vacated]; omega⟩]
  freed b mem i covers outside := by
    rw [getElem?_fill, if_neg fun inside => outside ⟨inside.1, inside.2.1⟩]
    have := (meeting.live mem).within
    exact getElem?_vacated_of_covers mem covers (Nat.lt_of_lt_of_le covers.2 this)
  kept i untouched outside := by
    rw [getElem?_fill, if_neg fun inside => outside ⟨inside.1, inside.2.1⟩]
    exact getElem?_vacated_of_not_covers untouched

/-- A run that the search finds lies in RAM. -/
theorem within_of_findRunFrom {wanted start : Nat} {policy : π}
    (found : findRunFrom c.frames c.cursor wanted c.policy = (some start, policy)) :
    start + wanted ≤ c.frames.size := by
  obtain ⟨positive, usable⟩ := usable_of_findRunFrom not_fixed_of_isUsable found
  obtain ⟨_, recorded, _⟩ := usable (start + wanted - 1) (by omega) (by omega)
  have := (Array.getElem?_eq_some_iff.mp recorded).1
  omega

/-- An allocation of no frames panics, and so does one by a thread that must not sleep. -/
theorem able_of_run (unlocked : c.locks = .free) {wanted : Nat} {owner : Owner}
    {result : Result OutOfMemory Frame} {t : Coremap π} {shown : List Event}
    (run : (allocate context wanted owner).run c = ⟨result, t, shown⟩)
    (goesOn : ∀ cause, result ≠ .panic cause) : 0 < wanted ∧ CanSleep context := by
  by_contra unable
  have ends : (allocate context wanted owner).Ends (draws shown) c
      ⟨fun _ _ _ => False, fun _ _ _ => False, fun _ _ => True⟩ := by
    refine Operation.ends_bind.mpr (Operation.ends_require.mpr ?_)
    split
    · next positive =>
      refine Operation.ends_bind.mpr (ends_holding (by rw [unlocked]; rfl) (fun _ _ => trivial) ?_)
      exact fun canSleep => absurd ⟨Nat.pos_of_ne_zero (by simpa using positive), canSleep⟩ unable
    · trivial
  cases result with
  | value base => exact ends.of_value run (Nat.le_refl _)
  | error e => exact ends.of_error run (Nat.le_refl _)
  | panic cause => exact goesOn cause rfl

/-- After any calls, as long as no identity has come round again, an allocation that
returns has handed over to the policy, each once and in ascending order, exactly the
blocks that met its run, with their first frame, their size and their descriptor. The run
carries an identity that no frame has carried before, the other frames of these blocks are
free, and nothing else has changed. The loop that clears the run ends by itself, what it
frees lies in RAM, and if the allocation panics, it is the policy that did. -/
theorem evictions_of_allocate {layout : RamLayout} {policy : π} {ram ram' : Ram}
    {start : Coremap π} {shown : List Event}
    (built : (bootstrap layout policy).run ram = ⟨.value start, ram', shown⟩)
    (calls : List (Option Context × Call)) (few : allocations calls < 0xFFFFFFFF)
    (context : Option Context) {wanted : Nat} (positive : 0 < wanted) (owner : Owner) :
    let c := afterCalls start calls
    (∀ base t shown, (allocate context wanted owner).run c = ⟨.value base, t, shown⟩ →
      base.number + wanted ≤ c.frames.size ∧
        ∃ victims, Victims c.frames base.number (base.number + wanted) victims ∧
          evictions shown = victims.map Block.handed ∧
          t.policy = told (findRunFrom c.frames c.cursor wanted c.policy).2 victims ∧
          Replaced c.frames t.frames victims base.number wanted owner c.nextBlock ∧
          (∀ earlier later, calls = earlier ++ later →
            Fresh (afterCalls start earlier).frames c.nextBlock) ∧
          (∀ b ∈ victims, b.base + b.size ≤ c.frames.size) ∧
          ∀ (m : Coremap π) (more : Nat), m.frames = c.frames →
            (evictRun (base.number + wanted) (wanted + more) base.number :
                Operation OutOfMemory (Coremap π) Unit).run m =
              (evictRun (base.number + wanted) wanted base.number).run m) ∧
      (CanSleep context → ∀ cause t shown,
        (allocate context wanted owner).run c = ⟨.panic cause, t, shown⟩ →
          ∃ (b : Block) (asked : π), Live c.frames b ∧
            (EvictionPolicy.evict asked (.ofNumber b.base) b.size b.descriptor).1 =
              .error cause) := by
  intro c
  have ready := ready_of_built built few
  obtain ⟨sound, _⟩ := sound_afterCalls ready.sound calls ready.room
  rcases found : findRunFrom c.frames c.cursor wanted c.policy with ⟨_ | first, policy'⟩
  · have missed (canSleep : CanSleep context) :=
      run_allocate_of_missed sound.unlocked canSleep positive found owner
    refine ⟨fun base t shown run => ?_, fun canSleep cause t shown run => ?_⟩
    · obtain ⟨_, failed, _⟩ := missed (able_of_run sound.unlocked run (by simp)).2
      rw [run] at failed
      cases failed
    · obtain ⟨_, failed, _⟩ := missed canSleep
      rw [run] at failed
      cases failed
  · have within := within_of_findRunFrom found
    have number : (Page.ofNumber first : Frame).number = first := by
      have : c.frames.size ≤ 0x100000 := sound.few
      exact Page.number_ofNumber_of_lt (by omega)
    have takes (canSleep : CanSleep context) :=
      exists_takes_allocate sound.unlocked canSleep sound.tiled sound.few positive found owner
    refine ⟨fun base t shown run => ?_, fun canSleep cause t shown run => ?_⟩
    · obtain ⟨victims, meeting, loop, ⟨_, done, handed⟩ | ⟨_, _, _, _, _, _, _, _, refused, _⟩⟩ :=
        takes (able_of_run sound.unlocked run (by simp)).2
      · rw [run] at done
        cases done
        rw [number]
        refine ⟨within, victims, meeting, handed, rfl, replaced_fill_vacated meeting within, ?_,
          fun b mem => (meeting.live mem).within, loop⟩
        rintro earlier later rfl
        exact fresh_afterCalls ready
      · rw [run] at refused
        cases refused
    · obtain ⟨victims, meeting, _, takes⟩ := takes canSleep
      rcases takes with ⟨_, done, _⟩ | ⟨taken, b, rest, _, _, _, split, asked, refused, _⟩
      · rw [run] at done
        cases done
      · rw [run] at refused
        cases refused
        refine ⟨b, told policy' taken, meeting.live (by simp [split]), ?_⟩
        rw [asked]

/-- A run of two frames meets the end of one block and the beginning of the next; the
policy would only give up these two frames, and loses both blocks. -/
theorem evictions_of_allocate_across :
    let layout : RamLayout := ⟨.ofNat 0x1800, .ofNat 0x8000⟩
    let policy : EvictionRules := ⟨true, none, some [4, 5], none⟩
    let ram : Ram := ⟨.directMap, .empty⟩
    let start : Coremap EvictionRules := initial ⟨8, .ofNat 0x2000⟩ policy
    let calls : List (Option Context × Call) :=
      [(none, .allocate 2 .kernel), (none, .allocate 3 (.space ⟨1⟩))]
    let c := afterCalls start calls
    (∃ shown, (bootstrap layout policy).run ram = ⟨.value start, ram, shown⟩) ∧
      allocations calls < 0xFFFFFFFF ∧ 0 < 2 ∧
      ∃ t shown victims,
        (allocate none 2 (.space ⟨2⟩)).run c = ⟨.value (.ofNumber 4), t, shown⟩ ∧
        Victims c.frames 4 6 victims ∧ evictions shown = victims.map Block.handed ∧
        evictions shown = [(.ofNumber 3, 2, .inUse .kernel ⟨1⟩ 2),
          (.ofNumber 5, 3, .inUse (.space ⟨1⟩) ⟨2⟩ 3)] := by
  intro layout policy ram start calls c
  obtain ⟨_, built⟩ := exists_bootstrap policy .empty
  have few : allocations calls < 0xFFFFFFFF := by
    decide
  have answer : ((allocate none 2 (.space ⟨2⟩)).run c).result = .value (.ofNumber 4) := by
    decide +kernel
  have run := Operation.run_eq_of_result_of_state answer rfl
  have handed : evictions ((allocate none 2 (.space ⟨2⟩)).run c).events =
      [(.ofNumber 3, 2, .inUse .kernel ⟨1⟩ 2), (.ofNumber 5, 3, .inUse (.space ⟨1⟩) ⟨2⟩ 3)] := by
    decide +kernel
  obtain ⟨returned, _⟩ :=
    evictions_of_allocate built calls few none (by decide : 0 < 2) (.space ⟨2⟩)
  obtain ⟨_, victims, meeting, same, _⟩ := returned _ _ _ run
  exact ⟨⟨_, built⟩, few, by decide, _, _, victims, run, meeting, same, handed⟩

/-- Allocations for which there is no run do nothing but draw identities. -/
theorem afterCalls_replicate_of_missed (unlocked : c.locks = .free) (canSleep : CanSleep context)
    {wanted : Nat} (positive : 0 < wanted)
    (missed : findRunFrom c.frames c.cursor wanted c.policy = (none, c.policy)) (owner : Owner)
    (n : Nat) :
    afterCalls c (List.replicate n (context, .allocate wanted owner)) =
      { c with nextBlock := BlockId.succ^[n] c.nextBlock } := by
  induction n generalizing c with
  | zero => rfl
  | succ n ih =>
    obtain ⟨_, run, _⟩ := run_allocate_of_missed unlocked canSleep positive missed owner
    have drawn : Call.after context c (.allocate wanted owner) =
        { c with nextBlock := c.nextBlock.succ } := congrArg Outcome.state run
    rw [List.replicate_succ, afterCalls, drawn]
    exact ih unlocked missed

/-- Once the identities have come round, a block of two frames carries the identity of
its neighbour. The policy would only give up the first of the two; it is told of the
neighbour's frame instead, this frame is freed, and the second of the two is not. -/
theorem evictions_of_allocate_wrapped :
    let layout : RamLayout := ⟨.ofNat 0x1800, .ofNat 0x8000⟩
    let policy : EvictionRules := ⟨true, none, some [4], none⟩
    let ram : Ram := ⟨.directMap, .empty⟩
    let start : Coremap EvictionRules := initial ⟨8, .ofNat 0x2000⟩ policy
    let calls : List (Option Context × Call) :=
      (none, .allocate 1 .kernel) :: List.replicate 0xFFFFFFFE (none, .allocate 100 .kernel) ++
        [(none, .allocate 2 .kernel), (none, .allocate 2 .kernel)]
    let c := afterCalls start calls
    (∃ shown, (bootstrap layout policy).run ram = ⟨.value start, ram, shown⟩) ∧
      c.frames[3]? = some (.inUse .kernel ⟨1⟩ 1) ∧ c.frames[4]? = some (.inUse .kernel ⟨1⟩ 2) ∧
      c.frames[5]? = some (.inUse .kernel ⟨1⟩ 2) ∧
      ∃ t shown, (allocate none 1 (.space ⟨1⟩)).run c = ⟨.value (.ofNumber 4), t, shown⟩ ∧
        evictions shown = [(.ofNumber 3, 2, .inUse .kernel ⟨1⟩ 2)] ∧
        t.frames[3]? = some .free ∧ t.frames[5]? = some (.inUse .kernel ⟨1⟩ 2) := by
  intro layout policy ram start calls c
  let first : Coremap EvictionRules := afterCalls start [(none, .allocate 1 .kernel)]
  let later : List (Option Context × Call) :=
    [(none, .allocate 2 .kernel), (none, .allocate 2 .kernel)]
  -- How often the allocation fails is left open until the counter is read off.
  have worn (n : Nat) :
      afterCalls start ((none, .allocate 1 .kernel) ::
          List.replicate n (none, .allocate 100 .kernel) ++ later) =
        afterCalls { first with nextBlock := BlockId.succ^[n] ⟨2⟩ } later := by
    have missed : findRunFrom first.frames first.cursor 100 first.policy =
        (none, first.policy) := by
      decide +kernel
    rw [afterCalls_append]
    exact congrArg (afterCalls · later) (afterCalls_replicate_of_missed (c := first)
      (by decide +kernel) (by decide) (by decide) missed .kernel n)
  have round : BlockId.succ^[0xFFFFFFFE] ⟨2⟩ = ⟨1⟩ :=
    BlockId.iterate_succ (by decide) (by decide) _
  have reached : c = afterCalls { first with nextBlock := ⟨1⟩ } later := by
    rw [← round]
    exact worn _
  have answer : ((allocate none 1 (.space ⟨1⟩)).run c).result = .value (.ofNumber 4) := by
    rw [reached]
    decide +kernel
  refine ⟨exists_bootstrap policy .empty, ?_, ?_, ?_, _, _,
    Operation.run_eq_of_result_of_state answer rfl, ?_, ?_, ?_⟩ <;>
  · rw [reached]
    decide +kernel

end Eviction

end Coremap

end PagedMemory
