import PagedMemory.Proofs.Coremap.Representation

/-!
# The two ways to release a block

A block of several frames that is released as a single frame is refused, and
nothing changes. That is all that is recorded of how a block was obtained: a single
frame is allocated as a block of one frame, and a block of one frame is released
either way. After any calls, under any policy and also once identities have come
round again, this is exactly what is caught and what is not.
-/

namespace PagedMemory.Coremap

open Operation

variable {π ε : Type} {context : Option Context} {c : Coremap π} {b : Block} {base : Frame}

/-- A block of several frames is not released as a single frame. -/
theorem refusal?_of_several (live : Live c.frames b) (first : base.number = b.base)
    (several : b.size ≠ 1) :
    refusal? c.frames base true = some (.singleFreeOfBlock base b.size) := by
  have recorded : c.frames[base.number]? = some (.inUse b.owner b.id b.size) :=
    live.recorded _ (first ▸ Block.covers_base live.nonempty)
  simp [refusal?, recorded, several]

variable [EvictionPolicy π]

/-- After any calls a release as a single frame of a block of several frames ends in a
panic that leaves the coremap as it was. No other release of a live block by its first
frame is refused: both ways free a block of one frame alike, and a single frame is
allocated as such a block. -/
theorem releases_afterCalls {layout : RamLayout} {policy : π} {ram ram' : Ram}
    {start : Coremap π} {shown : List Event}
    (built : (bootstrap layout policy).run ram = ⟨.value start, ram', shown⟩)
    (calls : List (Option Context × Call)) (canSleep : CanSleep context)
    (live : Live (afterCalls start calls).frames b) (first : base.number = b.base) :
    let c := afterCalls start calls
    let freed := { c with frames := fill .free c.frames b.base b.size, cursor := b.base }
    let source : FrameSource (Coremap π) := source context
    (b.size ≠ 1 → ∃ shown,
        (source.freeSingle base).run c = ⟨.panic (.singleFreeOfBlock base b.size), c, shown⟩) ∧
      (b.size = 1 → ∃ shown, (source.freeSingle base).run c = ⟨.value (), freed, shown⟩) ∧
      (∃ shown, (source.free base).run c = ⟨.value (), freed, shown⟩) ∧
      ∀ owner, source.allocateSingle owner = source.allocate 1 owner := by
  intro c freed source
  obtain ⟨reservation, reserves, _, rfl⟩ := bootstrap_eq_value built
  have count : reservation.frameCount = layout.frameCount := by
    obtain ⟨_, _, rfl⟩ := Option.map_eq_some_iff.mp reserves
    rfl
  have unlocked : c.locks = .free :=
    (guarded_afterCalls (guarded_initial layout policy count) calls).held
  have releases {single : Bool} (matching : single = true → b.size = 1) : ∃ shown,
      (releaseBlock context base single : Operation Empty (Coremap π) Unit).run c =
        ⟨.value (), freed, shown⟩ := by
    have ends (left : Nat) : (releaseBlock context base single :
        Operation Empty (Coremap π) Unit).Ends left c
          ⟨fun _ t _ => t = freed, fun _ _ _ => False, fun _ _ => False⟩ :=
      (ends_releaseBlock_of_live unlocked live first matching).mono (fun _ _ _ done => done.2)
        (fun _ _ _ => id) fun _ _ cannot => cannot canSleep
    obtain ⟨_, _, shown, run, rfl⟩ := exists_value_of_ends ends
    exact ⟨shown, run⟩
  refine ⟨?_, fun single => releases fun _ => single, releases nofun, fun _ => rfl⟩
  intro several
  obtain ⟨_, _, shown, run, rfl, rfl⟩ := exists_panic_of_ends fun left =>
    ends_releaseBlock_of_refused (ε := Empty) unlocked canSleep
      (refusal?_of_several live first several)
  exact ⟨shown, run⟩

/-- A block of two frames, next to a block of one, is not released as a single frame. -/
theorem releases_afterCalls_several :
    let layout : RamLayout := ⟨.ofNat 0x1800, .ofNat 0x8000⟩
    let ram : Ram := ⟨.directMap, .empty⟩
    let start : Coremap NoEviction := initial ⟨8, .ofNat 0x2000⟩ .mk
    let calls : List (Option Context × Call) :=
      [(none, .allocate 2 .kernel), (none, .allocate 1 .kernel)]
    let b : Block := ⟨3, 2, .kernel, ⟨1⟩⟩
    (∃ shown, (bootstrap layout NoEviction.mk).run ram = ⟨.value start, ram, shown⟩) ∧
      CanSleep none ∧ Live (afterCalls start calls).frames b ∧
      ∃ shown, ((source none).freeSingle (.ofNumber 3)).run (afterCalls start calls) =
        ⟨.panic (.singleFreeOfBlock (.ofNumber 3) 2), afterCalls start calls, shown⟩ := by
  intro layout ram start calls b
  obtain ⟨_, built⟩ := exists_bootstrap NoEviction.mk .empty
  have live : Live (afterCalls start calls).frames b := by
    decide +kernel
  have canSleep : CanSleep none := by
    decide
  have first : (Page.ofNumber 3 : Frame).number = b.base := rfl
  obtain ⟨refused, _⟩ := releases_afterCalls built calls canSleep live first
  exact ⟨⟨_, built⟩, canSleep, live, refused (by decide)⟩

/-- A frame that was allocated alone is freed as a block, and a block of one frame is
freed as a frame that was allocated alone. -/
theorem frees_of_other_way :
    let layout : RamLayout := ⟨.ofNat 0x1800, .ofNat 0x8000⟩
    let ram : Ram := ⟨.directMap, .empty⟩
    let start : Coremap NoEviction := initial ⟨8, .ofNat 0x2000⟩ .mk
    let alone : Coremap NoEviction := afterCalls start [(none, .allocateSingle .kernel)]
    let block : Coremap NoEviction := afterCalls start [(none, .allocate 1 .kernel)]
    let b : Block := ⟨3, 1, .kernel, ⟨1⟩⟩
    ((bootstrap layout NoEviction.mk).run ram).result = .value start ∧
      Live alone.frames b ∧ Live block.frames b ∧
      (((source none).free (.ofNumber 3)).run alone).result = .value () ∧
      (((source none).freeSingle (.ofNumber 3)).run block).result = .value () := by
  decide +kernel

end PagedMemory.Coremap
