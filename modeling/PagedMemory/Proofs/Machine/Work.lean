import PagedMemory.Proofs.Space.Copying

/-!
# Work for one owner

Whatever a machine is asked for is work for one owner, a space or the kernel.
Memory is confined to that owner, and of the list of spaces only the owner's
space changes. This holds of work that is given up in a panic, too, so a space
that is not the owner's lives on undisturbed.
-/

namespace PagedMemory

variable {mem mem' : Memory (Coremap NoEviction)} {spaces spaces' : List AddressSpace}
  {owner : Owner} {space space' : AddressSpace} {next : SpaceId} {complete : Prop}

/-- What memory and the list of spaces have become by work for `owner`. At most
one space was named meanwhile. -/
structure Worked (owner : Owner) (mem : Memory (Coremap NoEviction)) (spaces : List AddressSpace)
    (mem' : Memory (Coremap NoEviction)) (spaces' : List AddressSpace) : Prop where
  confined : ∃ next, Memory.Confined owner { mem with nextSpace := next } mem'
  later : mem.nextSpace.number ≤ mem'.nextSpace.number
  others : ∀ space, space.owner ≠ owner → (space ∈ spaces' ↔ space ∈ spaces)
  /-- A space keeps its directory. -/
  directory : ∀ space ∈ spaces, ∀ space' ∈ spaces', space'.id = space.id →
    space'.directory = space.directory
  /-- A loaded space does not change. -/
  loaded : ∀ space ∈ spaces, space.loaded = true → ∀ space' ∈ spaces', space'.id = space.id →
    space' = space
  /-- A space that is new is the next one. -/
  new : ∀ space' ∈ spaces', (∃ space ∈ spaces, space.id = space'.id) ∨ space'.id = mem.nextSpace

/-- Each space has an identity of its own. -/
def Distinct (spaces : List AddressSpace) : Prop :=
  ∀ space ∈ spaces, ∀ space' ∈ spaces, space.id = space'.id → space = space'

/-! ## Lists of spaces -/

/-- A space takes the place of the one of its identity, and no other changes. -/
theorem mem_replaced_iff (inList : space ∈ spaces) (sameId : space'.id = space.id)
    (other : AddressSpace) :
    other ∈ spaces.map (fun other => if other.id = space'.id then space' else other) ↔
      (other.id = space.id ∧ other = space') ∨ (other.id ≠ space.id ∧ other ∈ spaces) := by
  rw [List.mem_map]
  constructor
  · rintro ⟨original, inList, rfl⟩
    split
    · exact .inl ⟨sameId, rfl⟩
    · rename_i different
      exact .inr ⟨sameId ▸ different, inList⟩
  · rintro (⟨_, rfl⟩ | ⟨different, inList⟩)
    · exact ⟨space, inList, if_pos sameId.symm⟩
    · exact ⟨other, inList, if_neg (sameId.symm ▸ different)⟩

namespace Worked

/-- Nothing was done. -/
protected theorem refl (owner : Owner) (mem : Memory (Coremap NoEviction))
    (distinct : Distinct spaces) : Worked owner mem spaces mem spaces where
  confined := ⟨mem.nextSpace, .refl owner mem⟩
  later := Nat.le_refl _
  others _ _ := Iff.rfl
  directory space inList space' inList' same :=
    congrArg AddressSpace.directory (distinct space' inList' space inList same)
  loaded space inList _ space' inList' := distinct space' inList' space inList
  new space' inList' := .inl ⟨space', inList', rfl⟩

/-- Work that leaves the list of spaces as it is. -/
theorem keep (distinct : Distinct spaces) (confined : mem.Confined owner mem') :
    Worked owner mem spaces mem' spaces :=
  { Worked.refl owner mem distinct with
    confined := ⟨mem.nextSpace, confined⟩
    later := Nat.le_of_eq (congrArg SpaceId.number confined.nextSpace.symm) }

/-- Work that changes the record of a space that is not loaded. -/
theorem replace (distinct : Distinct spaces) (inList : space ∈ spaces)
    (confined : mem.Confined space.owner mem') (sameId : space'.id = space.id)
    (sameDirectory : space'.directory = space.directory)
    (unloaded : space.loaded = true → space' = space) :
    Worked space.owner mem spaces mem'
      (spaces.map fun other => if other.id = space'.id then space' else other) where
  confined := ⟨mem.nextSpace, confined⟩
  later := Nat.le_of_eq (congrArg SpaceId.number confined.nextSpace.symm)
  others other different := by
    have notSame : other.id ≠ space.id := fun same => different (congrArg Owner.space same)
    rw [mem_replaced_iff inList sameId]
    constructor
    · rintro (⟨same, _⟩ | ⟨_, inList⟩)
      · exact absurd same notSame
      · exact inList
    · exact fun inList => .inr ⟨notSame, inList⟩
  directory old inListOld other inListOther same := by
    rcases (mem_replaced_iff inList sameId other).mp inListOther with ⟨isMine, rfl⟩ | ⟨_, inListToo⟩
    · obtain rfl := distinct old inListOld space inList (same.symm.trans isMine)
      exact sameDirectory
    · rw [distinct other inListToo old inListOld same]
  loaded old inListOld isLoaded other inListOther same := by
    rcases (mem_replaced_iff inList sameId other).mp inListOther with ⟨isMine, rfl⟩ | ⟨_, inListToo⟩
    · obtain rfl := distinct old inListOld space inList (same.symm.trans isMine)
      exact unloaded isLoaded
    · exact distinct other inListToo old inListOld same
  new other inListOther := by
    rcases (mem_replaced_iff inList sameId other).mp inListOther with ⟨isMine, _⟩ | ⟨_, inListToo⟩
    · exact .inl ⟨space, inList, isMine.symm⟩
    · exact .inl ⟨other, inListToo, rfl⟩

/-- Work for a space that is only just named. -/
theorem named (distinct : Distinct spaces) (room : mem.nextSpace.number + 1 < 0x100000000)
    (confined : mem.named.Confined owner mem') : Worked owner mem spaces mem' spaces :=
  { Worked.refl owner mem distinct with
    confined := ⟨_, confined⟩
    later := by
      have next : mem.named.nextSpace.number = mem.nextSpace.number + 1 := Nat.mod_eq_of_lt room
      rw [confined.nextSpace]
      omega }

/-- A new space comes to live. -/
theorem add (distinct : Distinct spaces) (room : mem.nextSpace.number + 1 < 0x100000000)
    (confined : mem.named.Confined space.owner mem') (isNext : space.id = mem.nextSpace)
    (isNew : ∀ other ∈ spaces, other.id ≠ space.id) :
    Worked space.owner mem spaces mem' (spaces ++ [space]) :=
  { Worked.named distinct room confined with
    others := by
      intro other different
      rw [List.mem_append, List.mem_singleton]
      constructor
      · rintro (old | rfl)
        · exact old
        · exact absurd rfl different
      · exact .inl
    directory := by
      intro old inListOld other inListOther same
      rcases List.mem_append.mp inListOther with inListToo | isLast
      · rw [distinct other inListToo old inListOld same]
      · obtain rfl := List.mem_singleton.mp isLast
        exact absurd same.symm (isNew old inListOld)
    loaded := by
      intro old inListOld _ other inListOther same
      rcases List.mem_append.mp inListOther with inListToo | isLast
      · exact distinct other inListToo old inListOld same
      · obtain rfl := List.mem_singleton.mp isLast
        exact absurd same.symm (isNew old inListOld)
    new := by
      intro other inListOther
      rcases List.mem_append.mp inListOther with inListToo | isLast
      · exact .inl ⟨other, inListToo, rfl⟩
      · obtain rfl := List.mem_singleton.mp isLast
        exact .inr isNext }

/-- A space is gone. -/
theorem drop {id : SpaceId} (distinct : Distinct spaces)
    (confined : mem.Confined (.space id) mem') :
    Worked (.space id) mem spaces mem' (spaces.filter fun space => space.id != id) where
  confined := ⟨mem.nextSpace, confined⟩
  later := Nat.le_of_eq (congrArg SpaceId.number confined.nextSpace.symm)
  others other different := by
    have notSame : other.id ≠ id := fun same => different (congrArg Owner.space same)
    simp [notSame]
  directory old inListOld other inListOther same := by
    rw [distinct other (List.mem_filter.mp inListOther).1 old inListOld same]
  loaded old inListOld _ other inListOther same :=
    distinct other (List.mem_filter.mp inListOther).1 old inListOld same
  new other inListOther := .inl ⟨other, (List.mem_filter.mp inListOther).1, rfl⟩

/-- A space that is held is held after work for another owner, and its tables and
pages are as they were. -/
theorem holds (worked : Worked owner mem spaces mem' spaces') (others : space.owner ≠ owner)
    (holds : Holds complete space none mem) : Holds complete space none mem' ∧
      mem'.ram.table? space.directory = mem.ram.table? space.directory ∧
      mem'.ram.page? space.directory = mem.ram.page? space.directory := by
  obtain ⟨next, confined⟩ := worked.confined
  exact (holds.renamed next).of_confined confined others

/-- Other spaces than the one that was worked for live on, and none is new. -/
theorem mem_iff {id : SpaceId} (worked : Worked (.space id) mem spaces mem' spaces')
    (other : space.id ≠ id) : space ∈ spaces' ↔ space ∈ spaces :=
  worked.others space (mt Owner.space.inj other)

/-- Blocks of other owners are as they were. -/
theorem live_iff (worked : Worked owner mem spaces mem' spaces') (b : Block)
    (others : b.owner ≠ owner) : Live mem'.descriptors b ↔ Live mem.descriptors b := by
  obtain ⟨next, confined⟩ := worked.confined
  exact confined.live_iff b others

end Worked

/-! ## Pages that are new -/

/-- The pages that the owner's space has more than before are clear. -/
def ClearGains (owner : Owner) (spaces : List AddressSpace) (ram ram' : Ram) : Prop :=
  ∀ space ∈ spaces, space.owner = owner → ∀ page frame,
    ram.page? space.directory page = none → ram'.page? space.directory page = some frame →
      ram'.ClearFrame frame

theorem clearGains_of_pages_eq {ram ram' : Ram} (distinct : Distinct spaces)
    (inList : space ∈ spaces) (pages : ram'.page? space.directory = ram.page? space.directory) :
    ClearGains space.owner spaces ram ram' := by
  intro other inListToo isMine page frame unmapped mapped
  obtain rfl := distinct other inListToo space inList (Owner.space.inj isMine)
  rw [pages, unmapped] at mapped
  cases mapped

theorem clearGains_of_nobody {ram ram' : Ram}
    (nobody : ∀ space ∈ spaces, space.owner ≠ owner) : ClearGains owner spaces ram ram' :=
  fun space inList isMine => absurd isMine (nobody space inList)

/-- If the owner's new pages are clear, so are all new pages, since no other space
has any. -/
theorem Worked.clear_of_gained (worked : Worked owner mem spaces mem' spaces')
    (gains : ClearGains owner spaces mem.ram mem'.ram) (inList : space ∈ spaces)
    (holds : Holds complete space none mem) {page : VirtPage} {frame : Frame}
    (unmapped : mem.ram.page? space.directory page = none)
    (mapped : mem'.ram.page? space.directory page = some frame) : mem'.ram.ClearFrame frame := by
  by_cases isMine : space.owner = owner
  · exact gains space inList isMine page frame unmapped mapped
  · rw [(worked.holds isMine holds).2.2, unmapped] at mapped
    cases mapped

/-! ## Spaces that are left alone -/

/-- A space lives on among `spaces'` as it is, and RAM says the same of it: each
address is mapped to the frame that it was mapped to, and this frame has the
bytes that it had. -/
structure Undisturbed (space : AddressSpace) (spaces' : List AddressSpace) (ram ram' : Ram) :
    Prop where
  lives : space ∈ spaces'
  lookup : ∀ address, ram'.lookup space.directory address = ram.lookup space.directory address
  bytes : ∀ address frame, ram.lookup space.directory address = some frame →
    Ram.SameFrame frame ram ram'

/-- Work that is confined to another owner does not disturb a space that lives on. -/
theorem Memory.Confined.undisturbed
    (confined : Memory.Confined owner { mem with nextSpace := next } mem')
    (others : space.owner ≠ owner) (holds : Holds complete space none mem)
    (lives : space ∈ spaces') : Undisturbed space spaces' mem.ram mem'.ram where
  lives := lives
  lookup address := by
    rw [Ram.lookup_eq_page?, Ram.lookup_eq_page?,
      ((holds.renamed next).of_confined confined others).2.2]
  bytes address frame mapped := by
    obtain ⟨b, live, mine, covers⟩ := holds.exists_live_page mapped
    exact confined.same b live (mine ▸ others) frame covers

theorem Worked.undisturbed (worked : Worked owner mem spaces mem' spaces')
    (inList : space ∈ spaces) (others : space.owner ≠ owner)
    (holds : Holds complete space none mem) :
    Undisturbed space spaces' mem.ram mem'.ram := by
  obtain ⟨next, confined⟩ := worked.confined
  exact confined.undisturbed others holds ((worked.others space others).mpr inList)

end PagedMemory
