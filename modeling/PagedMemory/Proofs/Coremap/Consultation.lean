import PagedMemory.Proofs.Coremap.Evictions

/-!
# What a policy gives up

A policy changes its state when it is asked about a frame and when it is told of a block
that is taken, so what it gives up is judged over all states to which this can bring it.
Whatever the policy does, an allocation adds one block under an identity that no frame
carried, and of the others it takes at most those that have a frame in the run which the
policy gives up.
-/

namespace PagedMemory.Coremap

open Operation

variable {π : Type} [EvictionPolicy π] {frames : Array Descriptor} {victims : List Block}
  {reserved : Nat}

/-! ## Consulting a policy -/

/-- The states to which questions and the loss of blocks bring a policy. -/
inductive Consulted (policy : π) : π → Prop
  | unasked : Consulted policy policy
  | ask {state : π} (consulted : Consulted policy state) (frame : Frame)
      (descriptor : Descriptor) :
      Consulted policy (EvictionPolicy.isEvictable state frame descriptor).2
  | tell {state : π} (consulted : Consulted policy state) (base : Frame) (size : Nat)
      (victim : Descriptor) : Consulted policy (EvictionPolicy.evict state base size victim).2

/-- In some state to which it may be brought, the policy accepts that a frame is taken. -/
def GivesUp (policy : π) (frame : Frame) (descriptor : Descriptor) : Prop :=
  ∃ state, Consulted policy state ∧
    (EvictionPolicy.isEvictable state frame descriptor).1 = true

namespace Consulted

variable {policy state state' : π}

protected theorem trans (first : Consulted policy state) (second : Consulted state state') :
    Consulted policy state' := by
  induction second with
  | unasked => exact first
  | ask _ frame descriptor ih => exact ih.ask frame descriptor
  | tell _ base size victim ih => exact ih.tell base size victim

theorem isUsable (consulted : Consulted policy state) (i : Nat) (descriptor : Descriptor) :
    Consulted policy (Coremap.isUsable state i descriptor).2 := by
  cases descriptor with
  | free => exact consulted
  | fixed => exact consulted
  | inUse owner block size => exact consulted.ask _ _

theorem told (consulted : Consulted policy state) (victims : List Block) :
    Consulted policy (Coremap.told state victims) := by
  induction victims generalizing state with
  | nil => exact consulted
  | cons b rest ih => exact ih (consulted.tell _ _ _)

/-- What is given up later is given up. -/
theorem givesUp (consulted : Consulted policy state) {frame : Frame} {descriptor : Descriptor}
    (later : GivesUp state frame descriptor) : GivesUp policy frame descriptor := by
  obtain ⟨state', consulted', accepted⟩ := later
  exact ⟨state', consulted.trans consulted', accepted⟩

end Consulted

/-- Rules give up what they allow. -/
theorem givesUp_rules_iff (rules : EvictionRules) (frame : Frame) (descriptor : Descriptor) :
    GivesUp rules frame descriptor ↔ rules.allows frame descriptor = true := by
  constructor
  · rintro ⟨state, consulted, accepted⟩
    have same : state = rules := by
      induction consulted with
      | unasked => rfl
      | ask _ _ _ ih => exact ih accepted
      | tell _ _ _ _ ih => exact ih accepted
    rw [← same]
    exact accepted
  · exact fun allowed => ⟨rules, .unasked, allowed⟩

/-- The frame is free, or the policy gives it up. -/
def Yielded (policy : π) (i : Nat) (descriptor : Descriptor) : Prop :=
  descriptor = .free ∨ GivesUp policy (.ofNumber i) descriptor

theorem yielded_of_isUsable {policy state state' : π} {i : Nat} {descriptor : Descriptor}
    (consulted : Consulted policy state)
    (usable : isUsable state i descriptor = (true, state')) : Yielded policy i descriptor := by
  cases descriptor with
  | free => exact .inl rfl
  | fixed => cases usable
  | inUse owner block size => exact .inr ⟨state, consulted, congrArg Prod.fst usable⟩

/-- A run that the search finds consists of frames that are free or given up. -/
theorem yielded_of_findRunFrom {policy policy' : π} {cursor wanted start : Nat}
    (found : findRunFrom frames cursor wanted policy = (some start, policy')) :
    Consulted policy policy' ∧ 0 < wanted ∧ ∀ i, start ≤ i → i < start + wanted →
      ∃ descriptor, frames[i]? = some descriptor ∧ Yielded policy i descriptor :=
  findRunFrom_eq_some (Consulted policy) (fun _ i descriptor consulted =>
    consulted.isUsable i descriptor) (fun _ _ _ _ => yielded_of_isUsable) .unasked found

/-! ## Blocks after an eviction -/

/-- Once some blocks are freed, the others are left. -/
theorem live_vacated_iff (live : ∀ b ∈ victims, Live frames b) (distinct : victims.Nodup)
    {d : Block} : Live (vacated frames victims) d ↔ Live frames d ∧ d ∉ victims := by
  induction victims generalizing frames with
  | nil => simp [vacated]
  | cons b rest ih =>
    obtain ⟨notLater, distinctRest⟩ := List.nodup_cons.mp distinct
    have liveFirst : Live frames b := live b List.mem_cons_self
    have liveRest (e : Block) (mem : e ∈ rest) : Live (fill .free frames b.base b.size) e := by
      refine liveFirst.live_fill_free_iff.mpr ⟨live e (List.mem_cons_of_mem _ mem), ?_⟩
      rintro rfl
      exact notLater mem
    rw [vacated, ih liveRest distinctRest, liveFirst.live_fill_free_iff, List.mem_cons, not_or,
      and_assoc]

/-- Once the blocks that meet a run are freed, there is nothing in the run any more. -/
theorem Victims.vacant {b : Block} (tiled : Tiled reserved frames)
    (meeting : Victims frames b.base (b.base + b.size) victims) (nonempty : 0 < b.size)
    (usable : ∀ i, b.Covers i → ∃ descriptor, frames[i]? = some descriptor ∧ descriptor ≠ .fixed)
    (fresh : Fresh frames b.id) : Vacant (vacated frames victims) b where
  nonempty := nonempty
  free i covers := by
    obtain ⟨descriptor, recorded, notFixed⟩ := usable i covers
    cases descriptor with
    | free => exact getElem?_vacated_of_free recorded
    | fixed => exact absurd rfl notFixed
    | inUse owner block size =>
      obtain ⟨base, live, inside⟩ := tiled.covered i owner block size recorded
      have mem := (meeting.mem_iff _).mpr ⟨live, i, covers.1, covers.2, inside⟩
      exact getElem?_vacated_of_covers mem inside (Array.getElem?_eq_some_iff.mp recorded).1
  fresh i descriptor recorded carried := by
    by_cases taken : ∃ d ∈ victims, d.Covers i
    · obtain ⟨d, mem, covers⟩ := taken
      have inRam := Nat.lt_of_lt_of_le covers.2 (meeting.live mem).within
      rw [getElem?_vacated_of_covers mem covers inRam] at recorded
      cases recorded
      cases carried
    · rw [getElem?_vacated_of_not_covers fun d mem covers => taken ⟨d, mem, covers⟩] at recorded
      exact fresh i descriptor recorded carried

/-! ## Allocations -/

variable {c t : Coremap π} {b : Block} {context : Option Context}

/-- The block `b` was allocated, and the blocks `victims` were taken for it. -/
structure Granted (c t : Coremap π) (b : Block) (victims : List Block) : Prop where
  sound : t.Sound
  reservation : t.reservation = c.reservation
  nextBlock : t.nextBlock = c.nextBlock.succ
  consulted : Consulted c.policy t.policy
  fresh : Fresh c.frames b.id
  live_iff : ∀ d, Live t.frames d ↔ d = b ∨ Live c.frames d ∧ d ∉ victims
  givenUp : ∀ d ∈ victims, ∃ i, b.Covers i ∧ d.Covers i ∧
    GivesUp c.policy (.ofNumber i) d.descriptor

namespace Granted

variable {d : Block}

theorem live (granted : Granted c t b victims) : Live t.frames b :=
  (granted.live_iff b).mpr (.inl rfl)

/-- A block none of whose frames is given up is not taken. -/
theorem kept (granted : Granted c t b victims) (live : Live c.frames d)
    (spared : ∀ i, b.Covers i → d.Covers i → ¬ GivesUp c.policy (.ofNumber i) d.descriptor) :
    Live t.frames d := by
  refine (granted.live_iff d).mpr (.inr ⟨live, fun mem => ?_⟩)
  obtain ⟨i, inside, covers, givenUp⟩ := granted.givenUp d mem
  exact spared i inside covers givenUp

/-- A block that was there and still is has no frame in common with the one that was
allocated. -/
theorem apart (granted : Granted c t b victims) (before : Live c.frames d)
    (after : Live t.frames d) : d.Apart b := by
  refine after.apart granted.live ?_
  rintro rfl
  exact before.ne_of_fresh granted.fresh rfl

theorem size_eq (granted : Granted c t b victims) (sound : c.Sound) :
    t.frames.size = c.frames.size := by
  rw [granted.sound.size_eq, sound.size_eq, granted.reservation]

theorem room (granted : Granted c t b victims) {left : Nat} (room : c.Room (left + 1)) :
    t.Room left := by
  unfold Room at room ⊢
  rw [granted.nextBlock, Room.succ left room]
  omega

end Granted

/-- Whatever the policy does, an allocation that returns has allocated a block. -/
theorem granted_of_run (sound : c.Sound) (room : c.Room 1) {wanted : Nat} {owner : Owner}
    {base : Frame} {shown : List Event}
    (run : (allocate context wanted owner).run c = ⟨.value base, t, shown⟩) :
    ∃ victims, Granted c t ⟨base.number, wanted, owner, c.nextBlock⟩ victims := by
  obtain ⟨positive, canSleep⟩ := able_of_run sound.unlocked run (by simp)
  have advanced : Advanced 1 c t := (ends_allocate_sound sound room).of_value run (Nat.le_refl _)
  rcases found : findRunFrom c.frames c.cursor wanted c.policy with ⟨_ | start, policy⟩
  · obtain ⟨_, missed, _⟩ := run_allocate_of_missed sound.unlocked canSleep positive found owner
    cases run.symm.trans missed
  obtain ⟨victims, meeting, _, takes⟩ :=
    exists_takes_allocate sound.unlocked canSleep sound.tiled sound.few positive found owner
  obtain ⟨_, done, _⟩ | ⟨_, _, _, _, _, _, _, _, refused, _⟩ := takes
  · obtain ⟨consulted, _, yielded⟩ := yielded_of_findRunFrom found
    have number : (Page.ofNumber start : Frame).number = start := by
      have := within_of_findRunFrom found
      have := sound.few
      exact Page.number_ofNumber_of_lt (by omega)
    cases run.symm.trans done
    rw [number]
    have vacant : Vacant (vacated c.frames victims) ⟨start, wanted, owner, c.nextBlock⟩ := by
      refine meeting.vacant sound.tiled positive (fun i covers => ?_) sound.fresh_nextBlock
      exact (usable_of_findRunFrom not_fixed_of_isUsable found).2 i covers.1 covers.2
    refine ⟨victims, advanced.sound, advanced.reservation, rfl, consulted.told victims,
      sound.fresh_nextBlock, fun d => ?_, fun d mem => ?_⟩
    · rw [← live_vacated_iff (fun b => meeting.live) meeting.nodup]
      exact vacant.live_fill_iff
    · obtain ⟨live, i, low, high, covers⟩ := (meeting.mem_iff d).mp mem
      obtain ⟨descriptor, recorded, free | givenUp⟩ := yielded i low high
      · rw [free, live.recorded i covers] at recorded
        cases recorded
      · rw [live.recorded i covers, Option.some.injEq] at recorded
        exact ⟨i, ⟨low, high⟩, covers, recorded ▸ givenUp⟩
  · cases run.symm.trans refused

/-- Whatever the policy does, an allocation that reports an error has drawn an identity and
consulted the policy, and has done nothing else. -/
theorem missed_of_run (sound : c.Sound) {wanted : Nat} {owner : Owner} {e : OutOfMemory}
    {shown : List Event}
    (run : (allocate context wanted owner).run c = ⟨.error e, t, shown⟩) :
    ∃ policy, t = { c with nextBlock := c.nextBlock.succ, policy := policy } := by
  obtain ⟨positive, canSleep⟩ := able_of_run sound.unlocked run (by simp)
  rcases found : findRunFrom c.frames c.cursor wanted c.policy with ⟨_ | start, policy⟩
  · obtain ⟨_, missed, _⟩ := run_allocate_of_missed sound.unlocked canSleep positive found owner
    cases run.symm.trans missed
    exact ⟨policy, rfl⟩
  · obtain ⟨_, _, _, ⟨_, done, _⟩ | ⟨_, _, _, _, _, _, _, _, refused, _⟩⟩ :=
      exists_takes_allocate sound.unlocked canSleep sound.tiled sound.few positive found owner
    · cases run.symm.trans done
    · cases run.symm.trans refused

/-- What an allocation has done, whichever way it ends but by a panic. -/
theorem ends_allocate_granted (sound : c.Sound) (room : c.Room 1) {wanted : Nat}
    {owner : Owner} {left : Nat} :
    (allocate context wanted owner).Ends left c
      ⟨fun base t _ => ∃ victims, Granted c t ⟨base.number, wanted, owner, c.nextBlock⟩ victims,
        fun _ t _ => ∃ policy,
          t = { c with nextBlock := c.nextBlock.succ, policy := policy },
        fun _ _ => True⟩ := by
  unfold Operation.Ends
  rcases run : (allocate context wanted owner).run c with ⟨base | e | cause, t, shown⟩
  · exact fun _ => granted_of_run sound room run
  · exact fun _ => missed_of_run sound run
  · exact fun _ => trivial

end PagedMemory.Coremap
