import PagedMemory.Proofs.Coremap.History

/-!
# What a release does

A release by the first frame of a live block frees exactly the block; every other
release is refused before anything has changed. Whether a frame is the first one is
decided by its neighbour alone. That is enough since identities are unique and
blocks have no gaps, and for the same reasons the checks made while a block is
freed never fail.
-/

namespace PagedMemory.Coremap

open Operation

variable {ε π : Type} {c : Coremap π} {b : Block} {context : Option Context} {base : Frame}
  {single : Bool}

/-- A release by the first frame of a live block returns. -/
theorem exists_release_of_live (unlocked : c.locks = .free) (canSleep : CanSleep context)
    (live : Live c.frames b) (first : base.number = b.base)
    (matching : single = true → b.size = 1) :
    ∃ t shown, (releaseBlock context base single : Operation ε (Coremap π) Unit).run c =
      ⟨.value (), t, shown⟩ := by
  have ends (left : Nat) : (releaseBlock context base single :
      Operation ε (Coremap π) Unit).Ends left c
        ⟨fun _ _ _ => True, fun _ _ _ => False, fun _ _ => False⟩ :=
    (ends_releaseBlock_of_live unlocked live first matching).mono (fun _ _ _ _ => trivial)
      (fun _ _ _ => id) fun _ _ cannot => cannot canSleep
  obtain ⟨_, t, shown, run, _⟩ := exists_value_of_ends ends
  exact ⟨t, shown, run⟩

/-- A release that panics says what speaks against it. -/
theorem refusal?_of_run (unlocked : c.locks = .free) {reserved : Nat}
    (tiled : Tiled reserved c.frames) (canSleep : CanSleep context) {cause : Panic}
    {t : Coremap π} {shown : List Event}
    (run : (releaseBlock context base single : Operation ε (Coremap π) Unit).run c =
      ⟨.panic cause, t, shown⟩) :
    refusal? c.frames base single = some cause := by
  rcases refused : refusal? c.frames base single with _ | found
  · obtain ⟨b, live, first, matching⟩ := (refusal?_eq_none_iff tiled base single).mp refused
    obtain ⟨t, shown, returned⟩ :=
      exists_release_of_live (ε := ε) unlocked canSleep live first matching
    rw [run] at returned
    cases returned
  · obtain ⟨_, _, shown, panicked, rfl, _⟩ := exists_panic_of_ends fun left =>
      ends_releaseBlock_of_refused (ε := ε) unlocked canSleep refused
    rw [run] at panicked
    cases panicked
    rfl

/-- Once a frame was found to be in use and to come behind no frame of its block, the
rest of the block lies in RAM and carries its identity. -/
theorem whole_of_first {reserved : Nat} {frames : Array Descriptor} (tiled : Tiled reserved frames)
    {i : Nat} {owner : Owner} {block : BlockId} {size : Nat}
    (recorded : frames[i]? = some (.inUse owner block size))
    (first : continues frames block i = false) :
    i + size ≤ frames.size ∧ carriesRun frames block i size = true := by
  obtain ⟨base, live, covers⟩ := tiled.covered i owner block size recorded
  obtain rfl : i = base := (continues_eq_false_iff live covers).mp first
  exact ⟨live.within, carriesRun_of_live live⟩

/-! ## After any calls -/

variable [EvictionPolicy π]

/-- Among the calls is one for a single frame that got the block. -/
def ObtainedSingle (start : Coremap π) (calls : List (Option Context × Call)) (b : Block) : Prop :=
  ∃ earlier context owner later frame,
    calls = earlier ++ (context, .allocateSingle owner) :: later ∧
      (((source context).allocateSingle owner).run (afterCalls start earlier)).result =
        .value frame ∧
      b.id = (afterCalls start earlier).nextBlock

/-- A block that was got as a single frame, and is still live, has one frame. -/
theorem ObtainedSingle.size_eq {start : Coremap π} {calls : List (Option Context × Call)}
    (ready : start.Ready (allocations calls)) (live : Live (afterCalls start calls).frames b)
    (obtained : ObtainedSingle start calls b) : b.size = 1 := by
  obtain ⟨earlier, context, owner, later, frame, rfl, answered, same⟩ := obtained
  have before := ready_afterCalls ready
  rw [afterCalls_append] at live
  generalize afterCalls start earlier = c at before answered same live
  obtain ⟨roomNow, advanced, roomAfter⟩ :=
    advanced_cons before.sound context (.allocateSingle owner) later before.room
  have run : (allocate context 1 owner).run c = _ := run_eq_of_result_of_state answered rfl
  obtain ⟨_, counted, placed⟩ :=
    (ends_allocate_precedes before.sound roomNow).of_value run (Nat.le_refl _)
  have drawn : b.id.number < (Call.after context c (.allocateSingle owner)).nextBlock.number := by
    rw [same]
    exact counted
  have liveThen := (precedes_afterCalls advanced.sound later roomAfter).live b live drawn
  rw [liveThen.eq_of_id placed same]

/-- After any calls, a release by the first frame of a live block returns, also as that
of a single frame if the block was got as one. One that returns has freed exactly the
block that begins with the frame, and put the cursor there; one that panics has changed
nothing, and says what speaks against it. When a block is freed, all of it lies in RAM
and carries its identity. -/
theorem freed_or_unchanged_afterCalls {layout : RamLayout} {policy : π} {ram ram' : Ram}
    {start : Coremap π} {shown : List Event}
    (built : (bootstrap layout policy).run ram = ⟨.value start, ram', shown⟩)
    (calls : List (Option Context × Call)) (few : allocations calls < 0xFFFFFFFF)
    (context : Option Context) (f : Frame) :
    let c := afterCalls start calls
    let source : FrameSource (Coremap π) := source context
    (CanSleep context → ∀ b, Live c.frames b → f.number = b.base →
        (∃ t shown, (source.free f).run c = ⟨.value (), t, shown⟩) ∧
          (b.size = 1 → ∃ t shown, (source.freeSingle f).run c = ⟨.value (), t, shown⟩) ∧
          (ObtainedSingle start calls b → b.size = 1)) ∧
      (∀ single, let release := if single then source.freeSingle f else source.free f
        (∀ t shown, release.run c = ⟨.value (), t, shown⟩ →
          ∃ b, Live c.frames b ∧ f.number = b.base ∧ (single = true → b.size = 1) ∧
            (∀ i : Nat, t.frames[i]? = if b.Covers i then some .free else c.frames[i]?) ∧
            t.cursor = f.number) ∧
          ∀ cause t shown, release.run c = ⟨.panic cause, t, shown⟩ →
            t.frames = c.frames ∧ t.cursor = c.cursor ∧ t.nextBlock = c.nextBlock ∧
              (CanSleep context → refusal? c.frames f single = some cause)) ∧
      ∀ owner id size, c.frames[f.number]? = some (.inUse owner id size) →
        continues c.frames id f.number = false →
          f.number + size ≤ c.frames.size ∧ carriesRun c.frames id f.number size = true := by
  intro c source
  have ready := ready_of_built built few
  obtain ⟨sound, _⟩ := sound_afterCalls ready.sound calls ready.room
  refine ⟨?_, ?_, ?_⟩
  · intro canSleep b live first
    exact ⟨exists_release_of_live sound.unlocked canSleep live first nofun,
      fun single => exists_release_of_live sound.unlocked canSleep live first fun _ => single,
      fun obtained => obtained.size_eq ready live⟩
  · intro single release
    have same : release = releaseBlock context f single := by
      cases single <;> rfl
    have ends (left : Nat) : (releaseBlock context f single :
        Operation Empty (Coremap π) Unit).Ends left c _ :=
      ends_releaseBlock_whole sound.unlocked sound.tiled
    rw [same]
    refine ⟨?_, ?_⟩
    · intro t shown run
      obtain ⟨b, live, first, matching, rfl⟩ := (ends _).of_value run (Nat.le_refl _)
      refine ⟨b, live, first, matching, fun i => ?_, first.symm⟩
      split
      · next covers => exact getElem?_fill_of_covers covers live.within
      · next outside => exact getElem?_fill_of_not_covers outside
    · intro cause t shown run
      obtain rfl := (ends _).of_panic run (Nat.le_refl _)
      exact ⟨rfl, rfl, rfl, fun canSleep =>
        refusal?_of_run sound.unlocked sound.tiled canSleep run⟩
  · intro owner id size recorded first
    exact whole_of_first sound.tiled recorded first

/-- A single frame behind a block of two is released, and nothing else is freed. -/
theorem freed_or_unchanged_afterCalls_single :
    let layout : RamLayout := ⟨.ofNat 0x1800, .ofNat 0x8000⟩
    let ram : Ram := ⟨.directMap, .empty⟩
    let start : Coremap NoEviction := initial ⟨8, .ofNat 0x2000⟩ .mk
    let calls : List (Option Context × Call) :=
      [(none, .allocate 2 .kernel), (none, .allocateSingle .kernel)]
    let c := afterCalls start calls
    let b : Block := ⟨5, 1, .kernel, ⟨2⟩⟩
    (∃ shown, (bootstrap layout NoEviction.mk).run ram = ⟨.value start, ram, shown⟩) ∧
      allocations calls < 0xFFFFFFFF ∧ CanSleep none ∧ Live c.frames b ∧
      ObtainedSingle start calls b ∧
      ∃ t shown, ((source none).freeSingle (.ofNumber 5)).run c = ⟨.value (), t, shown⟩ ∧
        t.cursor = 5 ∧ t.frames[4]? = c.frames[4]? ∧ t.frames[5]? = some .free := by
  intro layout ram start calls c b
  obtain ⟨_, built⟩ := exists_bootstrap NoEviction.mk .empty
  have few : allocations calls < 0xFFFFFFFF := by
    decide
  have canSleep : CanSleep none := by
    decide
  have live : Live c.frames b := by
    decide +kernel
  have obtained : ObtainedSingle start calls b :=
    ⟨[(none, .allocate 2 .kernel)], none, .kernel, [], .ofNumber 5, rfl, by decide +kernel,
      by decide +kernel⟩
  obtain ⟨returns, each, _⟩ :=
    freed_or_unchanged_afterCalls built calls few none (.ofNumber 5)
  obtain ⟨_, alone, single⟩ := returns canSleep b live rfl
  obtain ⟨t, shown, run⟩ := alone (single obtained)
  obtain ⟨d, liveToo, first, _, freed, cursor⟩ := (each true).1 t shown run
  obtain rfl : b = d := live.eq_of_base liveToo first
  exact ⟨⟨_, built⟩, few, canSleep, live, obtained, t, shown, run, cursor, freed 4, freed 5⟩

end PagedMemory.Coremap
