import PagedMemory.Space.Mapping

/-!
# Loading, copying and destroying spaces

Loading backs every region and the stack with one block each. A copy has the
same layout and private frames with the same bytes. Destroying gives every
frame back by the way it was obtained: pages of segments with their block, all
others alone. Tables are read entry by entry while this goes on, never from a
snapshot.
-/

namespace PagedMemory.AddressSpace

variable {ε σ : Type}

/-! ## Loading -/

/-- The regions with the one at `slot` backed by the block that begins with
`frame`. -/
def backRegion (slot : Nat) (frame : Frame) (space : AddressSpace) : AddressSpace :=
  { space with
    regions := space.regions.modify slot fun region => { region with backing := some frame } }

/-- Back and map the regions from `slot` on. -/
def loadRegions (source : FrameSource σ) (slot : Nat) :
    List Region → Operation SpaceError (Building σ) Unit
  | [] => pure ()
  | region :: rest => do
    let frame ← Building.inMemory fun space =>
      Memory.allocate source region.pages space.owner
    Building.updateSpace (backRegion slot frame)
    Building.inMemory fun space => mapBlock source space region.page frame region.pages
    loadRegions source (slot + 1) rest

/-- Back and map the stack. -/
def loadStack (source : FrameSource σ) : Operation SpaceError (Building σ) Unit := do
  let frame ← Building.inMemory fun space =>
    Memory.allocate source Layout.stackPages space.owner
  Building.updateSpace fun space => { space with stack := some frame }
  Building.inMemory fun space => mapBlock source space stackBase frame Layout.stackPages
  Building.updateSpace fun space => { space with loaded := true }
  let id ← Operation.read fun building => building.space.id
  Operation.log .debug s!"{id}: loaded, stack at {frame}"

/-- Back every region and the stack with a block each and map their pages,
cleared. After an error the space keeps what it has got so far. -/
def prepareLoad (source : FrameSource σ) : Operation SpaceError (Building σ) Unit := do
  if ← Operation.read fun building => building.space.loaded then
    Operation.fail .alreadyLoaded
  else
    let regions ← Operation.read fun building => building.space.regions
    loadRegions source 0 regions
    loadStack source

/-! ## Visiting tables -/

/-- Visit the present entries of a directory in ascending order, each read when
its turn comes. -/
def eachTable (directory : Frame) (visit : DirectoryIndex → Frame → Operation ε (Memory σ) Unit) :
    Operation ε (Memory σ) Unit := do
  Memory.onRam (Ram.allowFrame directory)
  DirectoryIndex.all.forM fun i => do
    match (← Memory.onRam (Ram.readDirectory directory i)).table? with
    | some table => visit i table
    | none => pure ()

/-- Visit the present entries of a second-level table in ascending order, each
read when its turn comes. -/
def eachMapping (table : Frame) (visit : TableIndex → Frame → Operation ε (Memory σ) Unit) :
    Operation ε (Memory σ) Unit := do
  Memory.onRam (Ram.allowFrame table)
  TableIndex.all.forM fun i => do
    match (← Memory.onRam (Ram.readTable table i)).frame? with
    | some frame => visit i frame
    | none => pure ()

/-! ## Destroying -/

/-- Give back every frame of a space: its single pages and tables, then the
blocks of its segments, then its directory. -/
def destroy (source : FrameSource σ) (space : AddressSpace) : Operation ε (Memory σ) Unit := do
  let segments := space.segments
  eachTable space.directory fun _ table => do
    eachMapping table fun _ frame =>
      if segments.backs frame then pure () else Memory.freeSingle source frame
    Memory.freeSingle source table
  segments.toList.forM fun segment => Memory.free source segment.frame
  Memory.freeSingle source space.directory
  let id := space.id
  Operation.log .debug s!"{id}: destroyed"

/-! ## Copying -/

/-- Give the child the page of an entry of its parent, with the same bytes. -/
def copyPage (source : FrameSource σ) (child : AddressSpace) (childTable : Frame)
    (dir : DirectoryIndex) (i : TableIndex) (owned : Frame) :
    Operation SpaceError (Memory σ) Unit := do
  let target ← match (← Memory.onRam (Ram.readTable childTable i)).frame? with
    | some frame => pure frame
    | none => materialize source child (VirtPage.ofIndices dir i).base
  Memory.onRam (Ram.copyFrame target owned)

/-- Give the child every table and every page of its parent. -/
def copyTables (source : FrameSource σ) (parent child : AddressSpace) :
    Operation SpaceError (Memory σ) Unit :=
  eachTable parent.directory fun dir parentTable => do
    let childTable ← ensureTable source child (VirtPage.ofIndices dir .first).base
    eachMapping parentTable fun i owned => copyPage source child childTable dir i owned

/-- Fill a new child with what its parent has. -/
def copyFrom (source : FrameSource σ) (parent : AddressSpace) :
    Operation SpaceError (Building σ) Unit := do
  if parent.loaded then prepareLoad source else pure ()
  Building.inMemory fun child => copyTables source parent child

/-- Create a space with the same layout as `parent` and private copies of its
pages. After an error nothing of the child is left. -/
def copy (source : FrameSource σ) (parent : AddressSpace) :
    Operation SpaceError (Memory σ) AddressSpace := do
  let child ← create source
  let parentId := parent.id
  match ← Building.around (child.inherit parent) (copyFrom source parent) with
  | (.ok _, child) => do
    let childId := child.id
    Operation.log .debug s!"{parentId}: copied into {childId}"
    return child
  | (.error e, child) => do
    let reason := e.message
    Operation.log .warn s!"{parentId}: copy failed: {reason}"
    destroy source child
    Operation.fail e

end PagedMemory.AddressSpace
