import PagedMemory.Proofs.Space.Holdings
import PagedMemory.Proofs.Space.Sources

/-!
# Frames for a space

Taking a block for an owner and giving one back, as they show in memory. A block
that was taken is a spare run of the space until the space makes it one of its
slots. If no run is left, nothing has changed.
-/

namespace PagedMemory

variable {mem mem' : Memory (Coremap NoEviction)} {owner : Owner} {left : Nat}
  {context : Option Context} {frame : Frame} {b : Block} {space : AddressSpace}
  {spare : Option Extent} {complete : Prop}

namespace Memory

/-- A block was taken. -/
structure Took (b : Block) (mem mem' : Memory (Coremap NoEviction)) (left : Nat) : Prop where
  ready : mem'.Ready left
  vacant : Vacant mem.descriptors b
  descriptors : mem'.descriptors = Coremap.fill b.descriptor mem.descriptors b.base b.size
  ram : mem'.ram = mem.ram
  confined : mem.Confined b.owner mem'

/-- A block was given back. -/
structure Gave (b : Block) (mem mem' : Memory (Coremap NoEviction)) (left : Nat) : Prop where
  ready : mem'.Ready left
  descriptors : mem'.descriptors = Coremap.fill .free mem.descriptors b.base b.size
  ram : mem'.ram = mem.ram
  confined : mem.Confined b.owner mem'

/-- Nothing was changed that can be seen. -/
structure Unchanged (mem mem' : Memory (Coremap NoEviction)) (left : Nat) : Prop where
  ready : mem'.Ready left
  descriptors : mem'.descriptors = mem.descriptors
  ram : mem'.ram = mem.ram
  confined : ∀ owner, mem.Confined owner mem'

theorem Took.live_iff (took : Took b mem mem' left) (d : Block) :
    Live mem'.descriptors d ↔ d = b ∨ Live mem.descriptors d := by
  rw [took.descriptors]
  exact took.vacant.live_fill_iff

theorem Took.live (took : Took b mem mem' left) : Live mem'.descriptors b :=
  (took.live_iff b).mpr (.inl rfl)

theorem Gave.live_iff (gave : Gave b mem mem' left) (live : Live mem.descriptors b) (d : Block) :
    Live mem'.descriptors d ↔ Live mem.descriptors d ∧ d ≠ b := by
  rw [gave.descriptors]
  exact live.live_fill_free_iff

/-- Placing a block in the coremap is taking it. -/
theorem Took.of_claim (ready : mem.Ready left) {c : Coremap NoEviction} {left' : Nat}
    (readyAfter : c.Ready left') (reservation : c.reservation = mem.frames.reservation)
    (vacant : Vacant mem.descriptors b)
    (frames : c.frames = Coremap.fill b.descriptor mem.descriptors b.base b.size) :
    Took b mem { mem with frames := c } left' := by
  have confined := Confined.of_claim mem reservation vacant frames
  exact ⟨confined.ready readyAfter ready, vacant, frames, rfl, confined⟩

/-- Freeing a block in the coremap is giving it back. -/
theorem Gave.of_free (ready : mem.Ready left) {c : Coremap NoEviction} {left' : Nat}
    (readyAfter : c.Ready left') (reservation : c.reservation = mem.frames.reservation)
    (live : Live mem.descriptors b)
    (frames : c.frames = Coremap.fill .free mem.descriptors b.base b.size) :
    Gave b mem { mem with frames := c } left' := by
  have confined := Confined.of_free mem reservation live frames
  exact ⟨confined.ready readyAfter ready, frames, rfl, confined⟩

theorem Unchanged.of_frames_eq (ready : mem.Ready left) {c : Coremap NoEviction} {left' : Nat}
    (readyAfter : c.Ready left') (reservation : c.reservation = mem.frames.reservation)
    (frames : c.frames = mem.descriptors) : Unchanged mem { mem with frames := c } left' := by
  have confined (owner : Owner) : Confined owner mem { mem with frames := c } :=
    .of_frames_eq mem reservation frames
  exact ⟨(confined .kernel).ready readyAfter ready, frames, rfl, confined⟩

/-- Taking a block for an owner. -/
theorem ends_allocate (ready : mem.Ready left) {count : Nat} {owner : Owner} :
    (allocate (Coremap.source context) count owner).Ends left mem
      ⟨fun base mem' left => ∃ id, Took ⟨base.number, count, owner, id⟩ mem mem' left,
        fun e mem' left => e = .outOfMemory ⟨count⟩ ∧ Coremap.Starved mem.descriptors count ∧
          Unchanged mem mem' left,
        fun _ => Refused (count = 0 ∨ ¬ Able context mem) owner mem⟩ := by
  unfold allocate
  rw [ends_onFrames, Operation.ends_mapError]
  refine (Coremap.ends_allocate ready.coremap).mono ?_ ?_ ?_
  · rintro base c left' ⟨readyAfter, reservation, vacant, frames⟩
    exact ⟨_, .of_claim ready readyAfter reservation vacant frames⟩
  · rintro e c left' ⟨rfl, starved, readyAfter, reservation, frames⟩
    exact ⟨rfl, starved, .of_frames_eq ready readyAfter reservation frames⟩
  · rintro cause c ⟨because, rfl⟩
    refine ⟨?_, .refl owner mem⟩
    exact because.imp_right fun cannot able => cannot able.canSleep

/-- Taking a single frame for an owner. -/
theorem ends_allocateSingle (ready : mem.Ready left) {owner : Owner} :
    (allocateSingle (Coremap.source context) owner).Ends left mem
      ⟨fun frame mem' left => ∃ id, Took ⟨frame.number, 1, owner, id⟩ mem mem' left,
        fun e mem' left => e = .outOfMemory ⟨1⟩ ∧ Coremap.Starved mem.descriptors 1 ∧
          Unchanged mem mem' left,
        fun _ => Refused (¬ Able context mem) owner mem⟩ := by
  refine (ends_allocate ready).mono (fun _ _ _ => id) (fun _ _ _ => id) ?_
  exact fun _ _ refused => ⟨refused.reason.resolve_left Nat.one_ne_zero, refused.confined⟩

/-- Taking a single frame for an owner, clearing it and going on. -/
theorem ends_allocateSingle_zeroFrame_of_ready {α : Type} (ready : mem.Ready left) {owner : Owner}
    {next : Frame → Operation SpaceError (Memory (Coremap NoEviction)) α}
    {post : Post SpaceError (Memory (Coremap NoEviction)) α}
    (refused : ∀ cause mem', mem.Refused (¬ Able context mem) owner mem' → post.panic cause mem')
    (failed : ∀ mem' left, Coremap.Starved mem.descriptors 1 → Unchanged mem mem' left →
      post.error (.outOfMemory ⟨1⟩) mem' left)
    (goesOn : ∀ frame id mem' ram left, Took ⟨frame.number, 1, owner, id⟩ mem mem' left →
      Block.Covers ⟨frame.number, 1, owner, id⟩ frame.number →
      Ram.DifferOn (· = frame) mem.ram ram → ram.ClearFrame frame → ram.Admitted frame →
      (next frame).Ends left { mem' with ram := ram } post) :
    (allocateSingle (Coremap.source context) owner >>= fun frame =>
      onRam (Ram.zeroFrame frame) >>= fun _ => next frame).Ends left mem post := by
  refine ends_allocateSingle_zeroFrame ((Operation.ends_mapError.mp (ends_onFrames.mp
    (ends_allocateSingle ready))).mono ?_ ?_ ?_)
  · rintro frame frames left' ⟨id, took⟩
    have covers : Block.Covers ⟨frame.number, 1, owner, id⟩ frame.number :=
      Block.covers_base took.vacant.nonempty
    refine ⟨fun denied cause => refused cause _ ⟨?_, took.confined⟩, ?_⟩
    · exact took.confined.not_able fun able => denied (took.ready.check able took.live covers)
    · exact fun ram differ isClear admitted =>
        goesOn frame id _ ram left' took covers differ isClear admitted
  · rintro ⟨wanted⟩ frames left' ⟨isMemory, starved, same⟩
    cases isMemory
    exact failed _ left' starved same
  · exact fun cause frames gaveUp => refused cause _ gaveUp

/-- Giving a live block back by its first frame, which draws no identity. -/
theorem ends_releaseBlock {ε : Type} {most : Nat} (ready : mem.Ready most)
    (live : Live mem.descriptors b) (first : frame.number = b.base) {single : Bool}
    (matching : single = true → b.size = 1) :
    (onFrames ((Coremap.releaseBlock context frame single).mapError Empty.elim) :
        Operation ε (Memory (Coremap NoEviction)) Unit).Ends left mem
      ⟨fun _ mem' left' => left' = left ∧ Gave b mem mem' most, fun _ _ _ => False,
        fun _ => Refused (¬ CanSleep context) b.owner mem⟩ := by
  rw [ends_onFrames, Operation.ends_mapError]
  refine (Coremap.ends_releaseBlock ready.coremap live first matching).mono ?_ ?_ ?_
  · rintro ⟨⟩ c left' ⟨same, readyAfter, reservation, frames⟩
    exact ⟨same, .of_free ready readyAfter reservation live frames⟩
  · exact fun _ _ _ => False.elim
  · rintro cause c ⟨cannot, rfl⟩
    exact ⟨cannot, .refl b.owner mem⟩

theorem ends_free {ε : Type} {most : Nat} (ready : mem.Ready most) (live : Live mem.descriptors b)
    (first : frame.number = b.base) :
    (free (Coremap.source context) frame : Operation ε (Memory (Coremap NoEviction)) Unit).Ends
      left mem
      ⟨fun _ mem' left' => left' = left ∧ Gave b mem mem' most, fun _ _ _ => False,
        fun _ => Refused (¬ CanSleep context) b.owner mem⟩ :=
  ends_releaseBlock ready live first nofun

theorem ends_freeSingle {ε : Type} {most : Nat} (ready : mem.Ready most)
    (live : Live mem.descriptors b) (first : frame.number = b.base) (single : b.size = 1) :
    (freeSingle (Coremap.source context) frame :
        Operation ε (Memory (Coremap NoEviction)) Unit).Ends left mem
      ⟨fun _ mem' left' => left' = left ∧ Gave b mem mem' most, fun _ _ _ => False,
        fun _ => Refused (¬ CanSleep context) b.owner mem⟩ :=
  ends_releaseBlock ready live first fun _ => single

end Memory

namespace Holds

/-- A block that was taken for a space is its spare run. -/
theorem take (holds : Holds complete space none mem) (took : Memory.Took b mem mem' left)
    (mine : b.owner = space.owner) : Holds complete space (some b.extent) mem' where
  shaped := holds.shaped
  accounted := by
    rw [took.descriptors, took.ram, ← update_withSpare_none _ none]
    exact holds.accounted.grant took.vacant mine rfl
  linear := took.ram ▸ holds.linear
  entered := took.ram ▸ holds.entered
  loaded := took.ram ▸ holds.loaded
  directoryAdmitted := took.ram ▸ holds.directoryAdmitted
  tablesAdmitted := took.ram ▸ holds.tablesAdmitted

theorem unchanged (holds : Holds complete space spare mem) (same : Memory.Unchanged mem mem' left) :
    Holds complete space spare mem' :=
  holds.congr (fun _ _ => by rw [same.descriptors]) (by rw [same.ram]) (by rw [same.ram])
    (same.confined space.owner).admitted

end Holds

end PagedMemory
