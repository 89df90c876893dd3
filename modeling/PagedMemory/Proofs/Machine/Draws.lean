import PagedMemory.Proofs.Machine.Run
import PagedMemory.Proofs.Operation.Draws

/-!
# Identities that a request draws

An allocation draws one block identity, whatever comes of it, and nothing else
draws any. So an operation on spaces draws at most as many as it asks for blocks:
one for a directory, for a table or for the block of a segment. This bounds in
advance how far a request can bring the identities towards their end.
-/

namespace PagedMemory

open Operation

variable {ε ε' π σ α : Type} {context : Option Context} {n : Nat}

namespace Coremap

theorem drawsAtMost_acquire (which : CoremapLock) :
    (acquire context which : Operation ε (Coremap π) Unit).DrawsAtMost
      (draws [.acquired which]) := by
  intro coremap
  unfold Operation.run acquire
  split
  · exact Nat.zero_le _
  · split
    · exact Nat.le_refl _
    · exact Nat.zero_le _

theorem drawsAtMost_release (which : CoremapLock) :
    (release context which : Operation Empty (Coremap π) Unit).DrawsAtMost 0 := by
  intro coremap
  unfold Operation.run release
  split
  · exact Nat.zero_le _
  · simp [draws]

theorem drawsAtMost_holding (context : Option Context) (which : CoremapLock)
    {body : Operation ε (Coremap π) α} (bound : body.DrawsAtMost n) :
    (holding context which body).DrawsAtMost (draws [.acquired which] + n) :=
  (drawsAtMost_acquire which).bind fun _ => bound.ensuring (drawsAtMost_release which)

theorem drawsAtMost_holdingCursorAndFrames {body : Operation ε (Coremap π) α}
    (bound : body.DrawsAtMost n) : (holdingCursorAndFrames context body).DrawsAtMost n := by
  refine (drawsAtMost_holding context .cursor (drawsAtMost_holding context .frames bound)).mono ?_
  simp [draws]

theorem drawsAtMost_vacate (base : Frame) (block : BlockId) (size : Nat) :
    (vacate base block size : Operation ε (Coremap π) Unit).DrawsAtMost 0 := by
  have each (index : Nat) :
      (vacateFrom base block size index : Operation ε (Coremap π) Unit).DrawsAtMost 0 := by
    induction size generalizing index with
    | zero => exact .pure ()
    | succ size ih =>
      exact .andThen (.read _) fun _ => .andThen (.require _ _) fun _ =>
        .andThen (.change _) fun _ => ih _
  exact .andThen (.read _) fun _ => .andThen (.require _ _) fun _ => each _

theorem drawsAtMost_releaseBlock (base : Frame) (single : Bool) :
    (releaseBlock context base single : Operation ε (Coremap π) Unit).DrawsAtMost 0 := by
  have reclaims : (reclaim base single : Operation ε (Coremap π) Nat).DrawsAtMost 0 := by
    refine .andThen (.read _) fun found => ?_
    split
    · exact .abort _
    · refine .andThen (.require _ _) fun _ => .andThen (.read _) fun _ => .andThen (.require _ _) ?_
      intro _
      exact .andThen (drawsAtMost_vacate _ _ _) fun _ => .andThen (.change _) fun _ => .pure _
    · exact .abort _
  exact .andThen (drawsAtMost_holdingCursorAndFrames reclaims) fun _ => .log _ _

variable [EvictionPolicy π]

theorem drawsAtMost_surrender (base : Frame) (size : Nat) (victim : Descriptor) :
    (surrender base size victim : Operation ε (Coremap π) Unit).DrawsAtMost 0 := by
  intro coremap
  unfold Operation.run surrender
  split <;> simp [draws]

theorem drawsAtMost_evictRun (stop fuel index : Nat) :
    (evictRun stop fuel index : Operation ε (Coremap π) Unit).DrawsAtMost 0 := by
  induction fuel generalizing index with
  | zero => exact .pure ()
  | succ fuel ih =>
    unfold evictRun
    split
    · refine .andThen (.read _) fun found => ?_
      split
      · refine .andThen ?_ fun next => ih next
        refine .andThen (.read _) fun start => .andThen (drawsAtMost_surrender _ _ _) fun _ => ?_
        exact .andThen (drawsAtMost_vacate _ _ _) fun _ => .andThen (.log _ _) fun _ => .pure _
      · exact ih (index + 1)
    · exact .pure ()

/-- An allocation draws one identity. -/
theorem drawsAtMost_allocate (count : Nat) (owner : Owner) :
    (allocate context count owner : Operation _ (Coremap π) Frame).DrawsAtMost 1 := by
  have drawn : (holding context .identity drawBlock :
      Operation OutOfMemory (Coremap π) BlockId).DrawsAtMost 1 :=
    drawsAtMost_holding context .identity (.silent fun _ => rfl)
  have claims (block : BlockId) : (claim count owner block :
      Operation OutOfMemory (Coremap π) (Option Frame)).DrawsAtMost 0 := by
    refine .andThen (.silent fun _ => rfl) fun found => ?_
    split
    · exact .pure _
    · exact .andThen (.read _) fun _ => .andThen (drawsAtMost_evictRun _ _ _) fun _ =>
        .andThen (.change _) fun _ => .pure _
  refine .andThen (.require _ _) fun _ => drawn.bind (n := 0) fun block => ?_
  refine .andThen (drawsAtMost_holdingCursorAndFrames (claims block)) fun found => ?_
  split
  · exact .andThen (.log _ _) fun _ => .pure _
  · exact .andThen (.log _ _) fun _ => .fail _

end Coremap

namespace Ram

theorem drawsAtMost_allowFrame (frame : Frame) :
    (allowFrame frame : Operation ε Ram Unit).DrawsAtMost 0 := by
  intro ram
  unfold Operation.run allowFrame allow
  split <;> exact Nat.zero_le _

theorem drawsAtMost_zeroFrame (frame : Frame) :
    (zeroFrame frame : Operation ε Ram Unit).DrawsAtMost 0 :=
  .andThen (drawsAtMost_allowFrame frame) fun _ => .change _

theorem drawsAtMost_walk (directory : Frame) (address : VirtAddr) :
    (walk directory address : Operation ε Ram (Option Frame)).DrawsAtMost 0 :=
  .andThen (.andThen (drawsAtMost_allowFrame directory) fun _ => .read _) fun _ => .pure _

theorem drawsAtMost_readDirectory (directory : Frame) (i : DirectoryIndex) :
    (readDirectory directory i : Operation ε Ram DirectoryEntry).DrawsAtMost 0 :=
  .andThen (drawsAtMost_allowFrame directory) fun _ => .read _

theorem drawsAtMost_copyFrame (target source : Frame) :
    (copyFrame target source : Operation ε Ram Unit).DrawsAtMost 0 :=
  .andThen (.require _ _) fun _ => .andThen (drawsAtMost_allowFrame source) fun _ =>
    .andThen (drawsAtMost_allowFrame target) fun _ => .change _

theorem drawsAtMost_readTable (table : Frame) (k : TableIndex) :
    (readTable table k : Operation ε Ram TableEntry).DrawsAtMost 0 :=
  .andThen (drawsAtMost_allowFrame table) fun _ => .read _

theorem drawsAtMost_writeDirectory (directory : Frame) (i : DirectoryIndex)
    (entry : DirectoryEntry) :
    (writeDirectory directory i entry : Operation ε Ram Unit).DrawsAtMost 0 :=
  .andThen (drawsAtMost_allowFrame directory) fun _ => .change _

theorem drawsAtMost_writeTable (table : Frame) (k : TableIndex) (entry : TableEntry) :
    (writeTable table k entry : Operation ε Ram Unit).DrawsAtMost 0 :=
  .andThen (drawsAtMost_allowFrame table) fun _ => .change _

end Ram

namespace Memory

variable [EvictionPolicy π]

theorem drawsAtMost_onRam {op : Operation ε Ram α} (bound : op.DrawsAtMost n) :
    (onRam op : Operation ε (Memory σ) α).DrawsAtMost n :=
  bound.onPart

theorem drawsAtMost_freeSingle (frame : Frame) :
    (freeSingle (Coremap.source context) frame :
      Operation ε (Memory (Coremap π)) Unit).DrawsAtMost 0 := by
  have released : ((Coremap.source context).freeSingle frame :
      Operation Empty (Coremap π) Unit).DrawsAtMost 0 :=
    Coremap.drawsAtMost_releaseBlock frame true
  unfold freeSingle onFrames
  exact .onPart (.mapError released)

theorem drawsAtMost_free (base : Frame) :
    (free (Coremap.source context) base :
      Operation ε (Memory (Coremap π)) Unit).DrawsAtMost 0 := by
  have released : ((Coremap.source context).free base :
      Operation Empty (Coremap π) Unit).DrawsAtMost 0 :=
    Coremap.drawsAtMost_releaseBlock base false
  unfold free onFrames
  exact .onPart (.mapError released)

theorem drawsAtMost_allocate (count : Nat) (owner : Owner) :
    (allocate (Coremap.source context) count owner :
      Operation SpaceError (Memory (Coremap π)) Frame).DrawsAtMost 1 :=
  (Coremap.drawsAtMost_allocate count owner).mapError.onPart

theorem drawsAtMost_allocateSingle (owner : Owner) :
    (allocateSingle (Coremap.source context) owner :
      Operation SpaceError (Memory (Coremap π)) Frame).DrawsAtMost 1 :=
  drawsAtMost_allocate 1 owner

end Memory

theorem Building.drawsAtMost_inMemory {op : AddressSpace → Operation ε (Memory σ) α}
    (bound : ∀ space, (op space).DrawsAtMost n) : (inMemory op).DrawsAtMost n := by
  rintro ⟨memory, space⟩
  exact bound space memory

/-- An operation on a space that is being built shows what it shows there. -/
theorem Building.events_around {space : AddressSpace} {op : Operation ε (Building σ) α}
    {memory : Memory σ} :
    ((around space op : Operation ε' (Memory σ) _).run memory).events =
      (op.run ⟨memory, space⟩).events := by
  simp only [Operation.run, around]
  rcases op ⟨memory, space⟩ with ⟨_ | _ | _, _, shown⟩ <;> rfl

namespace AddressSpace

variable [EvictionPolicy π] (space : AddressSpace)

theorem drawsAtMost_ensureTable (address : VirtAddr) :
    (space.ensureTable (Coremap.source context) address :
      Operation _ (Memory (Coremap π)) Frame).DrawsAtMost 1 := by
  unfold ensureTable
  refine .andThen (Memory.drawsAtMost_onRam (Ram.drawsAtMost_walk _ _)) fun found => ?_
  split
  · exact (DrawsAtMost.pure _).mono (Nat.zero_le 1)
  · refine (Memory.drawsAtMost_allocateSingle space.owner).bind (n := 0) fun table => ?_
    refine .andThen (Memory.drawsAtMost_onRam (Ram.drawsAtMost_zeroFrame table)) fun _ => ?_
    refine .andThen (Memory.drawsAtMost_onRam (Ram.drawsAtMost_writeDirectory _ _ _)) fun _ => ?_
    exact .andThen (.log _ _) fun _ => .pure _

theorem drawsAtMost_mapPage (page : VirtPage) (frame : Frame) :
    (space.mapPage (Coremap.source context) page frame :
      Operation _ (Memory (Coremap π)) Unit).DrawsAtMost 1 := by
  unfold mapPage
  refine (space.drawsAtMost_ensureTable _).bind (n := 0) fun table => ?_
  refine .andThen (Memory.drawsAtMost_onRam (Ram.drawsAtMost_readTable _ _)) fun entry => ?_
  refine .andThen (.require _ _) fun _ => ?_
  exact Memory.drawsAtMost_onRam (Ram.drawsAtMost_writeTable _ _ _)

/-- Each page may need a table. -/
theorem drawsAtMost_mapRun (page : VirtPage) (frame : Frame) (i pages : Nat) :
    (space.mapRun (Coremap.source context) page frame i pages :
      Operation _ (Memory (Coremap π)) Unit).DrawsAtMost pages := by
  induction pages generalizing i with
  | zero => exact .pure ()
  | succ pages ih =>
    unfold mapRun
    refine .andThen (Memory.drawsAtMost_onRam (Ram.drawsAtMost_zeroFrame _)) fun _ => ?_
    refine ((space.drawsAtMost_mapPage _ _).bind fun _ => ih (i + 1)).mono ?_
    omega

/-- A page and a table for it may be allocated. -/
theorem drawsAtMost_materialize (address : VirtAddr) :
    (space.materialize (Coremap.source context) address :
      Operation _ (Memory (Coremap π)) Frame).DrawsAtMost 2 := by
  unfold materialize
  refine (Memory.drawsAtMost_allocateSingle space.owner).bind (n := 1) fun frame => ?_
  refine .andThen (Memory.drawsAtMost_onRam (Ram.drawsAtMost_zeroFrame frame)) fun _ => ?_
  refine (space.drawsAtMost_mapPage _ _).attempt.bind (n := 0) fun mapped => ?_
  split
  · refine .andThen (Memory.drawsAtMost_freeSingle frame) fun _ => .fail _
  · exact .andThen (.log _ _) fun _ => .pure _

/-- Taking a block, making it a segment, and mapping it: one identity for the block
and one for each table that may be needed. -/
theorem drawsAtMost_fill {page : VirtPage} {pages : Nat}
    {back : Frame → AddressSpace → AddressSpace}
    {next : Frame → Operation SpaceError (Building (Coremap π)) α}
    (rest : ∀ frame, (next frame).DrawsAtMost n) :
    ((Building.inMemory fun space =>
        Memory.allocate (Coremap.source context) pages space.owner) >>= fun frame =>
      Building.updateSpace (back frame) >>= fun _ =>
      (Building.inMemory fun space =>
        space.mapBlock (Coremap.source context) page frame pages) >>= fun _ =>
      next frame).DrawsAtMost (pages + 1 + n) := by
  refine ((Building.drawsAtMost_inMemory fun space =>
    Memory.drawsAtMost_allocate pages space.owner).bind (n := pages + n) fun frame => ?_).mono ?_
  · refine .andThen (.change _) fun _ => ?_
    exact (Building.drawsAtMost_inMemory fun space =>
      space.drawsAtMost_mapRun page frame 0 pages).bind fun _ => rest frame
  · omega

/-- How many identities the blocks and the tables of regions can need. -/
def drawsOfRegions : List Region → Nat
  | [] => 0
  | region :: rest => region.pages + 1 + drawsOfRegions rest

theorem drawsOfRegions_eq (regions : List Region) :
    drawsOfRegions regions = (regions.map Region.pages).sum + regions.length := by
  induction regions with
  | nil => rfl
  | cons region regions ih =>
    rw [drawsOfRegions, ih, List.map_cons, List.sum_cons, List.length_cons]
    omega

theorem drawsAtMost_loadRegions (slot : Nat) (regions : List Region) :
    (loadRegions (Coremap.source context) slot regions :
      Operation _ (Building (Coremap π)) Unit).DrawsAtMost (drawsOfRegions regions) := by
  induction regions generalizing slot with
  | nil => exact .pure ()
  | cons region regions ih => exact drawsAtMost_fill fun _ => ih (slot + 1)

theorem drawsAtMost_loadStack :
    (loadStack (Coremap.source context) : Operation _ (Building (Coremap π)) Unit).DrawsAtMost
      (Layout.stackPages + 1) := by
  refine drawsAtMost_fill (n := 0) fun frame => .andThen (.change _) fun _ => ?_
  exact .andThen (.read _) fun _ => .log _ _

/-- An inherited layout can need as many. -/
theorem drawsOfRegions_unbacked (regions : List Region) :
    drawsOfRegions (regions.map Region.unbacked) = drawsOfRegions regions := by
  induction regions with
  | nil => rfl
  | cons region regions ih => exact congrArg (region.pages + 1 + ·) ih

/-- Loading draws identities for the blocks of the segments and for tables. -/
theorem draws_prepareLoad_le (building : Building (Coremap π)) :
    draws ((prepareLoad (Coremap.source context)).run building).events ≤
      drawsOfRegions building.space.regions + (Layout.stackPages + 1) := by
  unfold prepareLoad
  rw [run_read_bind]
  split
  · exact Nat.zero_le _
  · rw [run_read_bind]
    exact ((drawsAtMost_loadRegions 0 _).bind fun _ => drawsAtMost_loadStack) building

/-! ## Visits of all tables -/

theorem drawsAtMost_eachTable (directory : Frame)
    {visit : DirectoryIndex → Frame → Operation ε (Memory σ) Unit}
    (bound : ∀ i table, (visit i table).DrawsAtMost n) :
    (eachTable directory visit).DrawsAtMost (1024 * n) := by
  unfold eachTable
  rw [← DirectoryIndex.length_all]
  refine .andThen (Memory.drawsAtMost_onRam (Ram.drawsAtMost_allowFrame directory)) fun _ => ?_
  refine .forM (fun i => ?_) _
  refine .andThen (Memory.drawsAtMost_onRam (Ram.drawsAtMost_readDirectory _ _)) fun entry => ?_
  split
  · exact bound i _
  · exact (DrawsAtMost.pure ()).mono (Nat.zero_le n)

theorem drawsAtMost_eachMapping (table : Frame)
    {visit : TableIndex → Frame → Operation ε (Memory σ) Unit}
    (bound : ∀ k frame, (visit k frame).DrawsAtMost n) :
    (eachMapping table visit).DrawsAtMost (1024 * n) := by
  unfold eachMapping
  rw [← TableIndex.length_all]
  refine .andThen (Memory.drawsAtMost_onRam (Ram.drawsAtMost_allowFrame table)) fun _ => ?_
  refine .forM (fun k => ?_) _
  refine .andThen (Memory.drawsAtMost_onRam (Ram.drawsAtMost_readTable _ _)) fun entry => ?_
  split
  · exact bound k _
  · exact (DrawsAtMost.pure ()).mono (Nat.zero_le n)

/-- Frames are given back without an identity. -/
theorem drawsAtMost_destroy :
    (space.destroy (Coremap.source context) : Operation ε (Memory (Coremap π)) Unit).DrawsAtMost
      0 := by
  have pages (table : Frame) : (eachMapping table fun _ frame =>
      if space.segments.backs frame then pure ()
      else Memory.freeSingle (Coremap.source context) frame :
      Operation ε (Memory (Coremap π)) Unit).DrawsAtMost (1024 * 0) := by
    refine drawsAtMost_eachMapping table fun _ frame => ?_
    split
    · exact .pure ()
    · exact Memory.drawsAtMost_freeSingle frame
  unfold destroy
  refine .andThen ((drawsAtMost_eachTable space.directory fun _ table =>
    (pages table).bind fun _ => Memory.drawsAtMost_freeSingle table).mono (Nat.le_refl 0)) ?_
  refine fun _ => .andThen ((DrawsAtMost.forM (fun segment : Segment =>
    Memory.drawsAtMost_free segment.frame) _).mono (Nat.le_of_eq (Nat.mul_zero _))) fun _ => ?_
  exact .andThen (Memory.drawsAtMost_freeSingle space.directory) fun _ => .log _ _

/-- A page of a copy may need a table. -/
theorem drawsAtMost_copyPage (childTable : Frame) (dir : DirectoryIndex) (k : TableIndex)
    (owned : Frame) :
    (space.copyPage (Coremap.source context) childTable dir k owned :
      Operation _ (Memory (Coremap π)) Unit).DrawsAtMost 2 := by
  unfold copyPage
  refine .andThen (Memory.drawsAtMost_onRam (Ram.drawsAtMost_readTable _ _)) fun entry => ?_
  have copies (target : Frame) : (Memory.onRam (Ram.copyFrame target owned) :
      Operation SpaceError (Memory (Coremap π)) Unit).DrawsAtMost 0 :=
    Memory.drawsAtMost_onRam (Ram.drawsAtMost_copyFrame target owned)
  split
  · exact (DrawsAtMost.andThen (.pure _) copies).mono (Nat.zero_le 2)
  · exact (space.drawsAtMost_materialize _).bind copies

/-- How many identities a copy can need: one for its directory, those for loading it, and those
for each table and each page. -/
def drawsOfCopy (parent : AddressSpace) : Nat :=
  1 + (drawsOfRegions parent.regions + (Layout.stackPages + 1) + 1024 * (1 + 1024 * 2))

theorem drawsAtMost_copyTables (parent child : AddressSpace) :
    (copyTables (Coremap.source context) parent child :
      Operation _ (Memory (Coremap π)) Unit).DrawsAtMost (1024 * (1 + 1024 * 2)) :=
  drawsAtMost_eachTable _ fun _ _ => (child.drawsAtMost_ensureTable _).bind fun _ =>
    drawsAtMost_eachMapping _ fun _ _ => child.drawsAtMost_copyPage _ _ _ _

theorem drawsAtMost_create :
    (create (Coremap.source context) :
      Operation _ (Memory (Coremap π)) AddressSpace).DrawsAtMost 1 := by
  refine .andThen (.silent fun _ => rfl) fun id => ?_
  refine (Memory.drawsAtMost_allocateSingle (.space id)).bind (n := 0) fun directory => ?_
  refine .andThen (Memory.drawsAtMost_onRam (Ram.drawsAtMost_zeroFrame directory)) fun _ => ?_
  exact .andThen (.log _ _) fun _ => .pure _

/-- A copy draws identities for its frames, and none when it is given up. -/
theorem drawsAtMost_copy (parent : AddressSpace) :
    (parent.copy (Coremap.source context) :
      Operation _ (Memory (Coremap π)) AddressSpace).DrawsAtMost (drawsOfCopy parent) := by
  have filled (child : AddressSpace) : (Building.around (child.inherit parent)
      (copyFrom (Coremap.source context) parent) : Operation SpaceError (Memory (Coremap π))
        (Except SpaceError Unit × AddressSpace)).DrawsAtMost
      (drawsOfRegions parent.regions + (Layout.stackPages + 1) + 1024 * (1 + 1024 * 2)) := by
    intro memory
    have tables : (Building.inMemory fun child =>
        copyTables (Coremap.source context) parent child :
        Operation SpaceError (Building (Coremap π)) Unit).DrawsAtMost (1024 * (1 + 1024 * 2)) :=
      Building.drawsAtMost_inMemory fun child => drawsAtMost_copyTables parent child
    rw [Building.events_around]
    unfold copyFrom
    split
    · have few : draws ((prepareLoad (Coremap.source context)).run
          (⟨memory, child.inherit parent⟩ : Building (Coremap π))).events ≤ _ :=
        draws_prepareLoad_le _
      rw [inherit, drawsOfRegions_unbacked] at few
      exact draws_bind_le few fun _ => tables
    · exact Nat.le_trans (tables _) (Nat.le_add_left _ _)
  unfold copy
  refine (drawsAtMost_create.bind fun child => (filled child).bind (n := 0) fun _ => ?_).mono ?_
  · split
    · exact .andThen (.log _ _) fun _ => .pure _
    · exact .andThen (.log _ _) fun _ => .andThen (drawsAtMost_destroy _) fun _ => .fail _
  · rw [Nat.add_zero, drawsOfCopy]

end AddressSpace

namespace Machine

theorem drawsAtMost_onMemory {op : Operation ε (Memory σ) α} (bound : op.DrawsAtMost n) :
    (onMemory op).DrawsAtMost n := by
  rintro ⟨memory, spaces, interrupts, firstTlb, secondTlb, context⟩
  exact bound memory

theorem drawsAtMost_findSpace (id : SpaceId) :
    (findSpace id : Operation ε (Machine σ) AddressSpace).DrawsAtMost 0 := by
  intro machine
  unfold Operation.run findSpace
  split <;> exact Nat.zero_le _

/-- Walking in a space of a machine. -/
theorem drawsAtMost_walk [EvictionPolicy π] (id : SpaceId) (address : VirtAddr) :
    (walk (Coremap.source context) id address true :
      Operation _ (Machine (Coremap π)) (Option Frame)).DrawsAtMost 1 :=
  .andThen (drawsAtMost_findSpace id) fun space =>
    drawsAtMost_onMemory ((space.drawsAtMost_ensureTable address).bind fun _ => .pure _)

/-- Backing a page of a space of a machine. -/
theorem drawsAtMost_materialize [EvictionPolicy π] (id : SpaceId) (address : VirtAddr) :
    (materialize (Coremap.source context) id address :
      Operation _ (Machine (Coremap π)) Frame).DrawsAtMost 2 :=
  .andThen (drawsAtMost_findSpace id) fun space =>
    drawsAtMost_onMemory (space.drawsAtMost_materialize address)

/-- Copying a space of a machine. -/
theorem draws_copy_le [EvictionPolicy π] {machine : Machine (Coremap π)} {id : SpaceId}
    {parent : AddressSpace} (found : machine.space? id = some parent) :
    draws ((copy (Coremap.source context) id).run machine).events ≤
      AddressSpace.drawsOfCopy parent := by
  unfold copy
  rw [run_bind_of_value (run_findSpace found), List.nil_append,
    ← Nat.add_zero (AddressSpace.drawsOfCopy parent)]
  refine draws_bind_le (drawsAtMost_onMemory (AddressSpace.drawsAtMost_copy parent) _) ?_
  exact fun child => .andThen (.change _) fun _ => .pure _

/-- Loading a space of a machine. -/
theorem draws_prepareLoad_le [EvictionPolicy π] {machine : Machine (Coremap π)} {id : SpaceId}
    {space : AddressSpace} (found : machine.space? id = some space) :
    draws ((prepareLoad (Coremap.source context) id).run machine).events ≤
      AddressSpace.drawsOfRegions space.regions + (Layout.stackPages + 1) := by
  rcases machine with ⟨memory, spaces, interrupts, firstTlb, secondTlb, running⟩
  unfold Operation.run prepareLoad build
  rw [found]
  exact AddressSpace.draws_prepareLoad_le ⟨memory, space⟩

variable {stealer : Stealer} {machine : Machine (Coremap NoEviction)}

/-- With a coremap, an operation that takes its frames from it shows what it shows
there. -/
theorem events_sourced
    {op : FrameSource (Coremap NoEviction) →
      Operation SpaceError (Machine (Coremap NoEviction)) α} :
    ((sourced op).run (withStealer stealer machine)).events =
      ((op (Coremap.source (some machine.context))).run machine).events := by
  rcases machine with ⟨⟨coremap, ram, nextSpace⟩, spaces, interrupts, firstTlb, secondTlb, running⟩
  unfold sourced
  rw [run_read_bind]
  simp only [withStealer, Operation.run, withCoremap, Operation.mapError]
  rcases op _ _ with ⟨_ | _ | _, t, shown⟩ <;> rfl

end Machine

end PagedMemory
