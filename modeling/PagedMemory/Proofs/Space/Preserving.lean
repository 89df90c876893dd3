import PagedMemory.Proofs.Coremap.Guarded
import PagedMemory.Space.Lifecycle

/-!
# What operations on spaces preserve of the frame source

An operation on spaces reaches its frame source only through the four ways to
use it. So it preserves whatever each of them preserves, with any space, in any
RAM, and also if it fails or panics on the way.
-/

namespace PagedMemory

open Operation

variable {ε σ : Type} {inv : σ → Prop} {source : FrameSource σ} (kept : source.Preserves inv)
include kept

namespace Memory

theorem preserves_allocate (count : Nat) (owner : Owner) :
    (allocate source count owner).Preserves fun memory => inv memory.frames :=
  preserves_onFrames (kept.allocate count owner).mapError

theorem preserves_allocateSingle (owner : Owner) :
    (allocateSingle source owner).Preserves fun memory => inv memory.frames :=
  preserves_onFrames (kept.allocateSingle owner).mapError

theorem preserves_free (base : Frame) :
    (free source base : Operation ε _ Unit).Preserves fun memory => inv memory.frames :=
  preserves_onFrames (kept.free base).mapError

theorem preserves_freeSingle (frame : Frame) :
    (freeSingle source frame : Operation ε _ Unit).Preserves fun memory => inv memory.frames :=
  preserves_onFrames (kept.freeSingle frame).mapError

end Memory

namespace AddressSpace

/-! ## Mapping pages -/

theorem preserves_create : (create source).Preserves fun memory => inv memory.frames := by
  refine .bind (fun _ holds => holds) fun id => ?_
  refine .bind (Memory.preserves_allocateSingle kept _) fun directory => ?_
  exact .bind Memory.preserves_onRam fun _ => .bind (.log _ _) fun _ => .pure _

theorem preserves_ensureTable (space : AddressSpace) (address : VirtAddr) :
    (space.ensureTable source address).Preserves fun memory => inv memory.frames := by
  refine .bind Memory.preserves_onRam fun found => ?_
  split
  · exact .pure _
  · refine .bind (Memory.preserves_allocateSingle kept _) fun table => ?_
    refine .bind Memory.preserves_onRam fun _ => .bind Memory.preserves_onRam fun _ => ?_
    exact .bind (.log _ _) fun _ => .pure _

theorem preserves_walk (space : AddressSpace) (address : VirtAddr) (make : Bool) :
    (space.walk source address make).Preserves fun memory => inv memory.frames := by
  unfold walk
  split
  · exact .bind (preserves_ensureTable kept space address) fun _ => .pure _
  · exact Memory.preserves_onRam

theorem preserves_mapPage (space : AddressSpace) (page : VirtPage) (frame : Frame) :
    (space.mapPage source page frame).Preserves fun memory => inv memory.frames := by
  refine .bind (preserves_ensureTable kept space _) fun table => ?_
  refine .bind Memory.preserves_onRam fun entry => .bind (.require _ _) fun _ => ?_
  exact Memory.preserves_onRam

theorem preserves_mapRun (space : AddressSpace) (page : VirtPage) (frame : Frame)
    (i pages : Nat) :
    (space.mapRun source page frame i pages).Preserves fun memory => inv memory.frames := by
  induction pages generalizing i with
  | zero => exact .pure ()
  | succ pages ih =>
    refine .bind Memory.preserves_onRam fun _ => ?_
    exact .bind (preserves_mapPage kept space _ _) fun _ => ih (i + 1)

theorem preserves_materialize (space : AddressSpace) (address : VirtAddr) :
    (space.materialize source address).Preserves fun memory => inv memory.frames := by
  refine .bind (Memory.preserves_allocateSingle kept _) fun frame => ?_
  refine .bind Memory.preserves_onRam fun _ => ?_
  refine .bind (preserves_mapPage kept space _ _).attempt fun mapped => ?_
  split
  · exact .bind (Memory.preserves_freeSingle kept frame) fun _ => .fail _
  · exact .bind (.log _ _) fun _ => .pure _

/-! ## Loading -/

theorem preserves_loadRegions (slot : Nat) (regions : List Region) :
    (loadRegions source slot regions).Preserves fun building => inv building.memory.frames := by
  induction regions generalizing slot with
  | nil => exact .pure ()
  | cons region regions ih =>
    refine .bind (Building.preserves_inMemory fun space =>
      Memory.preserves_allocate kept region.pages space.owner) fun frame => ?_
    refine .bind (Building.preserves_updateSpace _) fun _ => ?_
    refine .bind (Building.preserves_inMemory fun space =>
      preserves_mapRun kept space region.page frame 0 region.pages) fun _ => ?_
    exact ih (slot + 1)

theorem preserves_loadStack :
    (loadStack source).Preserves fun building => inv building.memory.frames := by
  refine .bind (Building.preserves_inMemory fun space =>
    Memory.preserves_allocate kept _ space.owner) fun frame => ?_
  refine .bind (Building.preserves_updateSpace _) fun _ => ?_
  refine .bind (Building.preserves_inMemory fun space =>
    preserves_mapRun kept space _ frame 0 _) fun _ => ?_
  exact .bind (Building.preserves_updateSpace _) fun _ => .bind (.read _) fun _ => .log _ _

theorem preserves_prepareLoad :
    (prepareLoad source).Preserves fun building => inv building.memory.frames := by
  refine .bind (.read _) fun loaded => ?_
  split
  · exact .fail _
  · exact .bind (.read _) fun regions =>
      .bind (preserves_loadRegions kept 0 regions) fun _ => preserves_loadStack kept

/-! ## Destroying and copying -/

omit kept in
theorem preserves_eachTable {directory : Frame}
    {visit : DirectoryIndex → Frame → Operation ε (Memory σ) Unit}
    (visits : ∀ i table, (visit i table).Preserves fun memory => inv memory.frames) :
    (eachTable directory visit).Preserves fun memory => inv memory.frames := by
  refine .bind Memory.preserves_onRam fun _ => .forM (fun i => ?_) _
  refine .bind Memory.preserves_onRam fun entry => ?_
  split
  · exact visits i _
  · exact .pure ()

omit kept in
theorem preserves_eachMapping {table : Frame}
    {visit : TableIndex → Frame → Operation ε (Memory σ) Unit}
    (visits : ∀ i frame, (visit i frame).Preserves fun memory => inv memory.frames) :
    (eachMapping table visit).Preserves fun memory => inv memory.frames := by
  refine .bind Memory.preserves_onRam fun _ => .forM (fun i => ?_) _
  refine .bind Memory.preserves_onRam fun entry => ?_
  split
  · exact visits i _
  · exact .pure ()

theorem preserves_destroy (space : AddressSpace) :
    (space.destroy source : Operation ε _ Unit).Preserves fun memory => inv memory.frames := by
  refine .bind (preserves_eachTable fun _ table => ?_) fun _ => ?_
  · refine .bind (preserves_eachMapping fun _ frame => ?_) fun _ =>
      Memory.preserves_freeSingle kept table
    split
    · exact .pure ()
    · exact Memory.preserves_freeSingle kept frame
  · refine .bind (.forM (fun segment => Memory.preserves_free kept _) _) fun _ => ?_
    exact .bind (Memory.preserves_freeSingle kept _) fun _ => .log _ _

theorem preserves_copyTables (parent child : AddressSpace) :
    (copyTables source parent child).Preserves fun memory => inv memory.frames := by
  refine preserves_eachTable fun dir parentTable => ?_
  refine .bind (preserves_ensureTable kept child _) fun childTable => ?_
  refine preserves_eachMapping fun i owned => ?_
  refine .bind Memory.preserves_onRam fun entry => ?_
  split
  · exact .bind (.pure _) fun _ => Memory.preserves_onRam
  · exact .bind (preserves_materialize kept child _) fun _ => Memory.preserves_onRam

theorem preserves_copy (parent : AddressSpace) :
    (parent.copy source).Preserves fun memory => inv memory.frames := by
  have fills : (copyFrom source parent).Preserves fun building => inv building.memory.frames := by
    have copies := Building.preserves_inMemory fun child => preserves_copyTables kept parent child
    unfold copyFrom
    split
    · exact .bind (preserves_prepareLoad kept) fun _ => copies
    · exact .bind (.pure ()) fun _ => copies
  refine .bind (preserves_create kept) fun child => ?_
  refine .bind (Building.preserves_around fills) fun copied => ?_
  split
  · exact .bind (.log _ _) fun _ => .pure _
  · exact .bind (.log _ _) fun _ => .bind (preserves_destroy kept _) fun _ => .fail _

end AddressSpace

end PagedMemory
