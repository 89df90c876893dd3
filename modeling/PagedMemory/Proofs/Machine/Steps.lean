import PagedMemory.Machine
import PagedMemory.Proofs.Machine.Settled
import PagedMemory.Proofs.Space.Defining

/-!
# Steps of a machine

Each operation on the spaces of a machine is work for one space and settles
memory again, whether it succeeds or reports an error. If it succeeds, the pages
that the space has gained are clear. An operation that ends in a panic was work
for that space as well.
-/

namespace PagedMemory

namespace Machine

variable {ε σ π α : Type} {left : Nat} {id : SpaceId} {space : AddressSpace}

/-! ## Parts of a machine -/

theorem ends_onMemory {op : Operation ε (Memory σ) α} {machine : Machine σ}
    {post : Post ε (Machine σ) α} :
    (onMemory op).Ends left machine post ↔
      op.Ends left machine.memory
        ⟨fun a mem => post.value a { machine with memory := mem },
          fun e mem => post.error e { machine with memory := mem },
          fun cause mem => post.panic cause { machine with memory := mem }⟩ := by
  rcases machine with ⟨memory, _⟩
  simp only [Operation.Ends, onMemory, Operation.run]
  rcases op memory with ⟨a | e | cause, t, shown⟩ <;> rfl

theorem mem_spaces_of_space? {machine : Machine σ} (found : machine.space? id = some space) :
    space ∈ machine.spaces ∧ space.id = id := by
  refine ⟨List.mem_of_find?_eq_some found, ?_⟩
  simpa using List.find?_some found

/-- A space that lives is found by its name. -/
theorem space?_of_mem {machine : Machine σ} (distinct : Distinct machine.spaces)
    (inList : space ∈ machine.spaces) : machine.space? space.id = some space := by
  rcases found : machine.space? space.id with _ | other
  · have different := List.find?_eq_none.mp found space inList
    simp at different
  · obtain ⟨otherInList, sameId⟩ := mem_spaces_of_space? found
    rw [distinct other otherInList space inList sameId]

/-- A space is found again as it lives on. -/
theorem space?_replaceSpace {machine : Machine σ} {space' : AddressSpace}
    (found : machine.space? space.id = some space) (same : space'.id = space.id) :
    (replaceSpace space' machine).space? space.id = some space' := by
  have sameId (other : AddressSpace) :
      ((if other.id = space'.id then space' else other).id == space.id) =
        (other.id == space.id) := by
    split
    · next isSpace => rw [isSpace]
    · rfl
  rw [space?, replaceSpace, List.find?_map]
  simp only [Function.comp_def, sameId]
  rw [show machine.spaces.find? _ = some space from found, Option.map_some, if_pos same.symm]

/-- The only space of a machine is still the only one as it lives on. -/
theorem spaces_replaceSpace_of_alone {machine : Machine σ} {space' : AddressSpace}
    (alone : machine.spaces = [space]) (same : space'.id = space.id) :
    (replaceSpace space' machine).spaces = [space'] := by
  rw [replaceSpace, alone, List.map_singleton, if_pos same.symm]

theorem run_findSpace {machine : Machine σ} (found : machine.space? id = some space) :
    (findSpace id : Operation ε (Machine σ) AddressSpace).run machine =
      ⟨.value space, machine, []⟩ := by
  unfold Operation.run findSpace
  rw [found]

theorem ends_findSpace {machine : Machine σ} {post : Post ε (Machine σ) AddressSpace}
    (unknown : machine.space? id = none → ∀ cause, post.panic cause machine)
    (found : ∀ space, machine.space? id = some space → post.value space machine left) :
    (findSpace id).Ends left machine post := by
  unfold Operation.Ends Operation.run findSpace
  rcases isSpace : machine.space? id with _ | space
  · exact fun _ => unknown isSpace _
  · exact fun _ => found space isSpace

theorem ends_findSpace_of_mem {machine : Machine σ} (distinct : Distinct machine.spaces)
    (inList : space ∈ machine.spaces) {post : Post ε (Machine σ) AddressSpace} :
    (findSpace space.id).Ends left machine post ↔ post.value space machine left :=
  Operation.ends_of_run_value (run_findSpace (space?_of_mem distinct inList))

theorem ends_build {op : Operation ε (Building σ) α} {machine : Machine σ}
    {post : Post ε (Machine σ) α}
    (unknown : machine.space? id = none → ∀ cause, post.panic cause machine)
    (built : ∀ space, machine.space? id = some space → op.Ends left ⟨machine.memory, space⟩
      ⟨fun a building =>
          post.value a (replaceSpace building.space { machine with memory := building.memory }),
        fun e building =>
          post.error e (replaceSpace building.space { machine with memory := building.memory }),
        fun cause building =>
          post.panic cause
            (replaceSpace building.space { machine with memory := building.memory })⟩) :
    (build id op).Ends left machine post := by
  rcases machine with ⟨memory, spaces, interrupts, firstTlb, secondTlb, context⟩
  unfold Operation.Ends Operation.run build
  rcases isSpace : space? ⟨memory, spaces, interrupts, firstTlb, secondTlb, context⟩ id with
    _ | space
  · exact fun _ => unknown isSpace _
  · have built := built space isSpace
    unfold Operation.Ends Operation.run at built
    rcases ended : op ⟨memory, space⟩ with ⟨a | e | cause, ⟨memory', space'⟩, shown⟩ <;>
      simp only [ended] at built ⊢ <;> exact built

theorem ends_build_of_found {op : Operation ε (Building σ) α} {machine : Machine σ}
    {post : Post ε (Machine σ) α} (found : machine.space? id = some space)
    (built : op.Ends left ⟨machine.memory, space⟩
      ⟨fun a building =>
          post.value a (replaceSpace building.space { machine with memory := building.memory }),
        fun e building =>
          post.error e (replaceSpace building.space { machine with memory := building.memory }),
        fun cause building =>
          post.panic cause
            (replaceSpace building.space { machine with memory := building.memory })⟩) :
    (build id op).Ends left machine post := by
  apply ends_build
  · intro unknown
    cases found.symm.trans unknown
  · intro space' isSpace
    obtain rfl := Option.some.inj (found.symm.trans isSpace)
    exact built

/-- What is said of the definition of a region. -/
theorem ends_define {address : VirtAddr} {size : Nat} {flags : RegionFlags} {machine : Machine σ}
    {post : Post SpaceError (Machine σ) Unit} (unknown : ∀ cause, post.panic cause machine)
    (refused : ∀ space e left, machine.space? id = some space →
      post.error e (replaceSpace space machine) left)
    (defined : ∀ space space' region left, machine.space? id = some space →
      space.Defined region space' → post.value () (replaceSpace space' machine) left) :
    (define id address size flags).Ends left machine post := by
  apply ends_build fun _ => unknown
  intro space found
  refine Operation.ends_onPart.mpr (AddressSpace.ends_define.mono ?_ ?_ ?_)
  · exact fun _ space' left ⟨region, isDefined⟩ => defined space space' region left found isDefined
  · rintro e space' left rfl
    exact refused space' e left found
  · exact fun _ _ => False.elim

/-- What is said of bytes that are written where a space maps an address. -/
theorem ends_writeBytes {address : VirtAddr} {values : List UInt8} {machine : Machine σ}
    {post : Post ε (Machine σ) Bool} (refused : ∀ cause, post.panic cause machine)
    (unmapped : ∀ space, machine.space? id = some space → post.value false machine left)
    (written : ∀ space frame, machine.space? id = some space →
      machine.memory.ram.page? space.directory address.page = some frame →
      let ram := machine.memory.ram.splice (frame.join address.offset).toNat values
      post.value true { machine with memory := { machine.memory with ram := ram } } left) :
    (writeBytes id address values).Ends left machine post := by
  refine Operation.ends_bind.mpr (Operation.ends_bind.mpr (ends_findSpace (fun _ => refused) ?_))
  intro space found
  refine ends_onMemory.mpr (Memory.ends_onRam.mpr
    (Operation.ends_bind.mpr (Ram.ends_resolve refused ?_)))
  rcases mapped : machine.memory.ram.page? space.directory address.page with _ | frame
  · exact Operation.ends_pure.mpr (Operation.ends_pure.mpr (unmapped space found))
  · refine Operation.ends_pure.mpr (Operation.ends_bind.mpr ?_)
    refine ends_onMemory.mpr (Memory.ends_onRam.mpr (Operation.ends_bind.mpr
      (Ram.ends_allow (fun _ => refused) fun _ => Operation.ends_change.mpr ?_)))
    exact Operation.ends_pure.mpr (written space frame found mapped)

/-- A machine whose frames come from the kernel's supply, with a coremap. -/
def withStealer (stealer : Stealer) (machine : Machine (Coremap π)) : Machine (FrameSupply π) where
  memory := ⟨⟨stealer, some machine.memory.frames⟩, machine.memory.ram, machine.memory.nextSpace⟩
  spaces := machine.spaces
  interrupts := machine.interrupts
  firstTlb := machine.firstTlb
  secondTlb := machine.secondTlb
  context := machine.context

/-- A machine over the kernel's supply is one of a coremap in one way. -/
theorem withStealer_inj {stealer stealer' : Stealer} {machine machine' : Machine (Coremap π)}
    (same : withStealer stealer machine = withStealer stealer' machine') :
    stealer = stealer' ∧ machine = machine' := by
  rcases machine with ⟨⟨coremap, ram, nextSpace⟩, spaces, interrupts, firstTlb, secondTlb, context⟩
  rcases machine' with ⟨⟨_, _, _⟩, _, _, _, _, _⟩
  cases same
  exact ⟨rfl, rfl⟩

theorem ends_withCoremap {missing : ε} {op : Operation ε (Machine (Coremap π)) α}
    {stealer : Stealer} {machine : Machine (Coremap π)}
    {post : Post ε (Machine (FrameSupply π)) α} :
    (withCoremap missing op).Ends left (withStealer stealer machine) post ↔
      op.Ends left machine
        ⟨fun a machine => post.value a (withStealer stealer machine),
          fun e machine => post.error e (withStealer stealer machine),
          fun cause machine => post.panic cause (withStealer stealer machine)⟩ := by
  rcases machine with ⟨⟨coremap, ram, nextSpace⟩, spaces, interrupts, firstTlb, secondTlb, context⟩
  simp only [Operation.Ends, withCoremap, withStealer, Operation.run]
  rcases op ⟨⟨coremap, ram, nextSpace⟩, spaces, interrupts, firstTlb, secondTlb, context⟩ with
    ⟨a | e | cause, t, shown⟩ <;> rfl

end Machine

theorem FrameSupply.ends_onCoremap {ε π α : Type} {missing : ε} {op : Operation ε (Coremap π) α}
    {stealer : Stealer} {coremap : Coremap π} {left : Nat} {post : Post ε (FrameSupply π) α} :
    (onCoremap missing op).Ends left ⟨stealer, some coremap⟩ post ↔
      op.Ends left coremap
        ⟨fun a coremap => post.value a ⟨stealer, some coremap⟩,
          fun e coremap => post.error e ⟨stealer, some coremap⟩,
          fun cause coremap => post.panic cause ⟨stealer, some coremap⟩⟩ := by
  simp only [Operation.Ends, onCoremap, Operation.run]
  rcases op coremap with ⟨a | e | cause, t, shown⟩ <;> rfl

/-! ## Steps of spaces -/

namespace Machine

variable {ε α : Type} {left : Nat} {id : SpaceId} {space : AddressSpace}
  {context : Option Context} {machine : Machine (Coremap NoEviction)} {held : List VirtAddr}
  {failed retried : List SpaceId} {address : VirtAddr}

/-- A machine came to rest again after work for `owner`. -/
structure Rested (owner : Owner) (machine : Machine (Coremap NoEviction)) (held : List VirtAddr)
    (failed retried : List SpaceId) (machine' : Machine (Coremap NoEviction)) : Prop where
  settled : Settled machine'.memory machine'.spaces held failed retried
  worked : Worked owner machine.memory machine.spaces machine'.memory machine'.spaces

/-- Whether it succeeds or reports an error, work for `owner` leaves a machine at
rest. The loading of a space may have failed in an error. -/
def settling (owner : Owner) (machine : Machine (Coremap NoEviction)) (held : List VirtAddr)
    (failed : List SpaceId) (failedBy : ε → List SpaceId) (retried : List SpaceId) :
    Post ε (Machine (Coremap NoEviction)) α where
  value _ machine' _ := Rested owner machine held failed retried machine' ∧
    ClearGains owner machine.spaces machine.memory.ram machine'.memory.ram
  error e machine' _ := Rested owner machine held (failedBy e) retried machine'
  panic _ machine' :=
    Worked owner machine.memory machine.spaces machine'.memory machine'.spaces

/-- Nobody is the owner of what the next space is given. -/
theorem clearGains_of_next {ram ram' : Ram}
    (settled : Settled machine.memory machine.spaces held failed retried) :
    ClearGains (.space machine.memory.nextSpace) machine.spaces ram ram' :=
  clearGains_of_nobody fun _ inList isNext =>
    settled.id_ne_next inList (Owner.space.inj isNext)

theorem ends_create (settled : Settled machine.memory machine.spaces held failed retried)
    (ready : machine.memory.Ready left)
    (room : machine.memory.nextSpace.number + 1 < 0x100000000) :
    (create (Coremap.source context)).Ends left machine
      (settling (.space machine.memory.nextSpace) machine held failed (fun _ => failed)
        retried) := by
  refine Operation.ends_bind.mpr (ends_onMemory.mpr
    ((Memory.ends_create ready settled.nothing).mono ?_ ?_ ?_))
  · rintro space mem' left' ⟨ready', holds, created⟩
    refine Operation.ends_bind.mpr (Operation.ends_change.mpr (Operation.ends_pure.mpr ?_))
    have isNext : space.id = machine.memory.nextSpace := by
      rw [created.isEmpty]
      rfl
    have isNew (other : AddressSpace) (inList : other ∈ machine.spaces) : other.id ≠ space.id :=
      isNext ▸ settled.id_ne_next inList
    have unbacked : space.Unbacked := by
      rw [created.isEmpty]
      exact ⟨nofun, rfl⟩
    rw [← isNext]
    refine ⟨⟨?_, .add settled.distinct room created.confined isNext isNew⟩, ?_⟩
    · exact settled.add room (ready'.mono (Nat.zero_le _)) created.confined isNext holds
        (.inr unbacked)
    · exact isNext ▸ clearGains_of_next settled
  · rintro e mem' left' ⟨_, _, same⟩
    refine ⟨?_, .named settled.distinct room (same.confined _)⟩
    refine settled.lapse room (same.ready.mono (Nat.zero_le _)) (same.confined _) fun b live => ?_
    exact same.descriptors ▸ live
  · exact fun _ _ refused => .named settled.distinct room refused.confined

/-- The spaces whose loading may have stopped halfway once that of `id` ended in an
error. -/
def failedBy (id : SpaceId) (failed : List SpaceId) : SpaceError → List SpaceId
  | .outOfMemory _ => id :: failed
  | _ => failed

/-- The spaces that were loaded again after their loading had failed, once `id` is
loaded. -/
def retriedBy (id : SpaceId) (failed retried : List SpaceId) : List SpaceId :=
  if id ∈ failed then id :: retried else retried

theorem subset_retriedBy (id : SpaceId) (failed retried : List SpaceId) :
    retried ⊆ retriedBy id failed retried := by
  unfold retriedBy
  split
  · exact List.subset_cons_self id retried
  · exact List.Subset.refl retried

theorem mem_retriedBy {id other : SpaceId} {failed retried : List SpaceId}
    (inRetried : other ∈ retriedBy id failed retried) :
    other = id ∧ id ∈ failed ∨ other ∈ retried := by
  by_cases inFailed : id ∈ failed
  · rw [retriedBy, if_pos inFailed] at inRetried
    exact (List.mem_cons.mp inRetried).imp_left fun same => ⟨same, inFailed⟩
  · rw [retriedBy, if_neg inFailed] at inRetried
    exact .inr inRetried

theorem not_mem_failed_of_retriedBy {id : SpaceId} {failed retried : List SpaceId}
    (notRetried : id ∉ retriedBy id failed retried) : id ∉ failed := by
  intro inFailed
  rw [retriedBy, if_pos inFailed] at notRetried
  exact notRetried List.mem_cons_self

/-- If a space is complete after it was loaded, it was before. -/
theorem holds_retriedBy (settled : Settled machine.memory machine.spaces held failed retried)
    (inList : space ∈ machine.spaces) :
    Holds (space.id ∉ retriedBy space.id failed retried) space none machine.memory :=
  (settled.holds space inList).weaken fun notRetried inRetried =>
    notRetried (subset_retriedBy _ _ _ inRetried)

/-- Loading a space leaves a machine at rest, if it is remembered where the space is not whole. -/
theorem rested_of_loading (building : Building (Coremap NoEviction)) {failed' : List SpaceId}
    (settled : Settled machine.memory machine.spaces held failed retried)
    (inList : space ∈ machine.spaces) (ready' : building.memory.Ready left)
    (confined : machine.memory.Confined space.owner building.memory)
    (like : space.Like building.space) (unchanged : space.loaded = true → building.space = space)
    (holds' : Holds (space.id ∉ retriedBy space.id failed retried) building.space none
      building.memory)
    (whole' : space.id ∉ failed' → building.space.Whole) (subFailed : failed ⊆ failed') :
    Rested space.owner machine held failed' (retriedBy space.id failed retried)
      (replaceSpace building.space { machine with memory := building.memory }) := by
  refine ⟨?_, .replace settled.distinct inList confined like.id like.directory unchanged⟩
  apply settled.replace inList (ready'.mono (Nat.zero_le _)) confined like.id like.directory
    unchanged
  case holds => exact like.id.symm ▸ holds'
  case whole => exact like.id.symm ▸ whole'
  case sub => exact subFailed
  case subRetried => exact subset_retriedBy _ _ _
  case only => exact fun _ inRetried => (mem_retriedBy inRetried).imp_left And.left

/-- What is said of a space that is loaded, for the first time or again. -/
theorem ends_prepareLoadOf {post : Post SpaceError (Machine (Coremap NoEviction)) Unit}
    (settled : Settled machine.memory machine.spaces held failed retried)
    (ready : machine.memory.Ready left)
    (unknown : machine.space? id = none → ∀ cause, post.panic cause machine)
    (loaded : ∀ space building left, space ∈ machine.spaces → space.id = id →
      space.loaded = false → building.memory.Ready left →
      Prepared (id ∉ retriedBy id failed retried) space machine.memory building →
      post.value () (replaceSpace building.space { machine with memory := building.memory }) left)
    (already : ∀ space left, space ∈ machine.spaces → space.id = id → space.loaded = true →
      post.error .alreadyLoaded (replaceSpace space machine) left)
    (stopped : ∀ space n building left, space ∈ machine.spaces → space.id = id →
      space.loaded = false → building.memory.Ready left →
      Begun (id ∉ retriedBy id failed retried) space machine.memory building →
      LinearGains space machine.memory building → building.space.loaded = false →
      post.error (.outOfMemory ⟨n⟩)
        (replaceSpace building.space { machine with memory := building.memory }) left)
    (refused : ∀ cause space building, space ∈ machine.spaces → space.id = id →
      space.loaded = false →
      Interrupted (Barred context space machine.memory cause) space machine.memory building →
      post.panic cause (replaceSpace building.space { machine with memory := building.memory })) :
    (prepareLoad (Coremap.source context) id).Ends left machine post := by
  apply ends_build unknown
  intro space found
  obtain ⟨inList, rfl⟩ := mem_spaces_of_space? found
  have holds := holds_retriedBy settled inList
  have unbacked (isComplete : space.id ∉ retriedBy space.id failed retried)
      (unloaded : space.loaded = false) : space.Unbacked := by
    rcases settled.whole space inList (not_mem_failed_of_retriedBy isComplete) with
      isLoaded | unbacked
    · rw [unloaded] at isLoaded
      cases isLoaded
    · exact unbacked
  refine (PagedMemory.ends_prepareLoad holds ready unbacked).mono ?_ ?_ ?_
  · exact fun _ building left' ⟨ready', unloaded, prepared⟩ =>
      loaded space building left' inList rfl unloaded ready' prepared
  · rintro e building left' (⟨rfl, isLoaded, rfl, _⟩ | ⟨unloaded, ⟨⟨n, rfl⟩, ready', begun,
      gains, still⟩, _⟩)
    · exact already space left' inList rfl isLoaded
    · exact stopped space n building left' inList rfl unloaded ready' begun gains still
  · exact fun cause building ⟨unloaded, interrupted⟩ =>
      refused cause space building inList rfl unloaded interrupted

theorem ends_prepareLoad (settled : Settled machine.memory machine.spaces held failed retried)
    (ready : machine.memory.Ready left) :
    (prepareLoad (Coremap.source context) id).Ends left machine
      (settling (.space id) machine held failed (failedBy id failed)
        (retriedBy id failed retried)) := by
  have unchanged {space space' : AddressSpace} (unloaded : space.loaded = false)
      (isLoaded : space.loaded = true) : space' = space := by
    rw [unloaded] at isLoaded
    cases isLoaded
  apply ends_prepareLoadOf settled ready
  case unknown => exact fun _ _ => .refl _ _ settled.distinct
  case loaded =>
    rintro space building left' inList rfl unloaded ready' prepared
    refine ⟨rested_of_loading building settled inList ready' prepared.extended.confined
      prepared.like (unchanged unloaded) prepared.holds (fun _ => .inl prepared.loaded)
      (List.Subset.refl failed), ?_⟩
    intro other inListToo isMine page frame unmapped mapped
    obtain rfl := settled.distinct other inListToo space inList (Owner.space.inj isMine)
    exact prepared.clear_of_gained unmapped mapped
  case already =>
    rintro space left' inList rfl isLoaded
    exact rested_of_loading ⟨machine.memory, space⟩ settled inList settled.ready (.refl _ _)
      (.refl space) (fun _ => rfl) (holds_retriedBy settled inList) (fun _ => .inl isLoaded)
      (List.Subset.refl failed)
  case stopped =>
    rintro space n building left' inList rfl unloaded ready' begun _ _
    exact rested_of_loading building settled inList ready' begun.extended.confined begun.like
      (unchanged unloaded) begun.holds (fun isNew => absurd List.mem_cons_self isNew)
      (List.subset_cons_self space.id failed)
  case refused =>
    rintro cause space building inList rfl unloaded interrupted
    exact .replace settled.distinct inList interrupted.refused.confined interrupted.like.id
      interrupted.like.directory (unchanged unloaded)

theorem ends_walk {create : Bool}
    (settled : Settled machine.memory machine.spaces held failed retried)
    (ready : machine.memory.Ready left) :
    (walk (Coremap.source context) id address create).Ends left machine
      (settling (.space id) machine held failed (fun _ => failed) retried) := by
  refine Operation.ends_bind.mpr (ends_findSpace (fun _ _ => .refl _ _ settled.distinct) ?_)
  intro space found
  obtain ⟨inList, rfl⟩ := mem_spaces_of_space? found
  have holds := settled.holds space inList
  refine ends_onMemory.mpr ?_
  unfold AddressSpace.walk
  split
  · refine Operation.Ends.bind (Memory.ends_ensureTable ready holds) ?_ ?_ ?_
    · rintro table mem' left' ⟨ready', holds', extended, _, pages⟩
      refine Operation.ends_pure.mpr ⟨⟨?_, .keep settled.distinct extended.confined⟩, ?_⟩
      · exact settled.keep inList (ready'.mono (Nat.zero_le _)) extended.confined holds'
      · exact clearGains_of_pages_eq settled.distinct inList pages
    · rintro e mem' left' ⟨_, _, _, same⟩
      refine ⟨?_, .keep settled.distinct (same.confined _)⟩
      exact settled.keep inList (same.ready.mono (Nat.zero_le _)) (same.confined _)
        (holds.unchanged same)
    · exact fun _ _ refused => .keep settled.distinct refused.confined
  · refine Memory.ends_onRam.mpr (Ram.ends_walk (fun _ _ => .refl _ _ settled.distinct) fun _ => ?_)
    exact ⟨⟨settled, .refl _ _ settled.distinct⟩,
      clearGains_of_pages_eq settled.distinct inList rfl⟩

theorem ends_materialize (settled : Settled machine.memory machine.spaces held failed retried)
    (ready : machine.memory.Ready left) :
    (materialize (Coremap.source context) id address).Ends left machine
      (settling (.space id) machine held failed (fun _ => failed) retried) := by
  refine Operation.ends_bind.mpr (ends_findSpace (fun _ _ => .refl _ _ settled.distinct) ?_)
  intro space found
  obtain ⟨inList, rfl⟩ := mem_spaces_of_space? found
  have holds := settled.holds space inList
  refine ends_onMemory.mpr ((Memory.ends_materialize ready holds).mono ?_ ?_ ?_)
  · rintro frame mem' left' ⟨ready', holds', made⟩
    have confined := made.mapped.extended.confined
    refine ⟨⟨?_, .keep settled.distinct confined⟩, ?_⟩
    · exact settled.keep inList (ready'.mono (Nat.zero_le _)) confined holds'
    · intro other inListToo isMine page otherFrame unmapped mapped
      obtain rfl := settled.distinct other inListToo space inList (Owner.space.inj isMine)
      exact made.clear_of_gained unmapped mapped
  · rintro e mem' left' ⟨_, _, ready', restored⟩
    refine ⟨?_, .keep settled.distinct restored.extended.confined⟩
    exact settled.keep inList (ready'.mono (Nat.zero_le _)) restored.extended.confined
      (restored.holds holds)
  · exact fun _ _ refused => .keep settled.distinct refused.confined

/-- What is said of a copy of a space that is not destroyed. -/
theorem ends_copyOf {post : Post SpaceError (Machine (Coremap NoEviction)) AddressSpace}
    (settled : Settled machine.memory machine.spaces held failed retried)
    (ready : machine.memory.Ready left)
    (unknown : machine.space? id = none → ∀ cause, post.panic cause machine)
    (refused : ∀ cause mem', Memory.Refused (¬ Able context machine.memory)
      (.space machine.memory.nextSpace) machine.memory.named mem' →
      post.panic cause { machine with memory := mem' })
    (stopped : ∀ parent n mem' left, machine.space? id = some parent → mem'.Ready left →
      (parent.loaded = false → n = 1 ∧ CopyStuck parent machine.memory) →
      machine.memory.named.Confined (.space machine.memory.nextSpace) mem' →
      (∀ b, Live mem'.descriptors b ↔ Live machine.memory.descriptors b) →
      post.error (.outOfMemory ⟨n⟩) { machine with memory := mem' } left)
    (copied : ∀ parent child mem' left, machine.space? id = some parent → mem'.Ready left →
      CopyOf parent child machine.memory mem' →
      post.value child
        { machine with memory := mem', spaces := machine.spaces ++ [child] } left) :
    (copy (Coremap.source context) id).Ends left machine post := by
  refine Operation.ends_bind.mpr (ends_findSpace unknown ?_)
  intro parent found
  obtain ⟨inList, _⟩ := mem_spaces_of_space? found
  refine Operation.ends_bind.mpr (ends_onMemory.mpr ((Memory.ends_copy ready
    (settled.holds parent inList) settled.nothing (settled.id_ne_next inList)).mono ?_ ?_ ?_))
  · rintro child mem' left' ⟨ready', isCopy⟩
    refine Operation.ends_bind.mpr (Operation.ends_change.mpr (Operation.ends_pure.mpr ?_))
    exact copied parent child mem' left' found ready' isCopy
  · rintro e mem' left' ⟨⟨n, rfl⟩, stuck, ready', confined, live_iff⟩
    refine stopped parent n mem' left' found ready' (fun unloaded => ?_) confined live_iff
    obtain ⟨one, isStuck⟩ := stuck unloaded
    cases one
    exact ⟨rfl, isStuck⟩
  · exact fun cause mem' gaveUp => refused cause mem' gaveUp

theorem ends_copy (settled : Settled machine.memory machine.spaces held failed retried)
    (ready : machine.memory.Ready left)
    (room : machine.memory.nextSpace.number + 1 < 0x100000000) :
    (copy (Coremap.source context) id).Ends left machine
      (settling (.space machine.memory.nextSpace) machine held failed (fun _ => failed)
        retried) := by
  apply ends_copyOf settled ready
  · exact fun _ _ => .refl _ _ settled.distinct
  · exact fun _ _ refused => .named settled.distinct room refused.confined
  · intro _ n mem' left' _ ready' _ confined live_iff
    refine ⟨?_, .named settled.distinct room confined⟩
    exact settled.lapse room (ready'.mono (Nat.zero_le _)) confined fun b => (live_iff b).mp
  · intro parent child mem' left' _ ready' isCopy
    have confined := isCopy.copied.confined
    have isNew (other : AddressSpace) (inList : other ∈ machine.spaces) : other.id ≠ child.id :=
      isCopy.id ▸ settled.id_ne_next inList
    rw [← isCopy.id]
    refine ⟨⟨?_, .add settled.distinct room confined isCopy.id isNew⟩, ?_⟩
    · exact settled.add room (ready'.mono (Nat.zero_le _)) confined isCopy.id
        isCopy.copied.holds isCopy.whole
    · exact isCopy.id ▸ clearGains_of_next settled

/-- What is said of a space that is destroyed. No identity of a block is drawn. -/
theorem ends_destroyOf {post : Post ε (Machine (Coremap NoEviction)) Unit} {most : Nat}
    (settled : Settled machine.memory machine.spaces held failed retried)
    (ready : machine.memory.Ready most)
    (unknown : machine.space? id = none → ∀ cause, post.panic cause machine)
    (refused : ∀ cause space mem', machine.space? id = some space →
      machine.memory.Refused (¬ CanSleep context) space.owner mem' →
      post.panic cause { machine with
        memory := mem', spaces := machine.spaces.filter fun space => space.id != id })
    (destroyed : ∀ space mem', machine.space? id = some space → mem'.Ready most →
      Memory.Destroyed (id ∉ retried) (.space id) machine.memory mem' →
      post.value () { machine with
        memory := mem', spaces := machine.spaces.filter fun space => space.id != id } left) :
    (destroy (Coremap.source context) id : Operation ε (Machine (Coremap NoEviction)) Unit).Ends
      left machine post := by
  refine Operation.ends_bind.mpr (ends_findSpace unknown ?_)
  intro space found
  obtain ⟨inList, sameId⟩ := mem_spaces_of_space? found
  refine Operation.ends_bind.mpr (Operation.ends_change.mpr (ends_onMemory.mpr ?_))
  refine (Memory.ends_destroy ready (settled.holds space inList)).mono ?_
    (fun _ _ _ => False.elim) (fun cause mem' => refused cause space mem' found)
  rintro ⟨⟩ mem' left' ⟨rfl, ready', isDestroyed⟩
  have sameOwner : space.owner = .space id := congrArg Owner.space sameId
  rw [sameOwner, sameId] at isDestroyed
  exact destroyed space mem' found ready' isDestroyed

theorem ends_destroy (settled : Settled machine.memory machine.spaces held failed retried)
    (ready : machine.memory.Ready left) :
    (destroy (Coremap.source context) id : Operation ε (Machine (Coremap NoEviction)) Unit).Ends
      left machine (settling (.space id) machine held failed (fun _ => failed) retried) := by
  apply ends_destroyOf settled ready
  · exact fun _ _ => .refl _ _ settled.distinct
  · intro cause space mem' found refused
    obtain ⟨_, rfl⟩ := mem_spaces_of_space? found
    exact .drop settled.distinct refused.confined
  · intro space mem' found ready' destroyed
    obtain ⟨inList, rfl⟩ := mem_spaces_of_space? found
    refine ⟨⟨?_, .drop settled.distinct destroyed.confined⟩, ?_⟩
    · exact settled.drop (ready'.mono (Nat.zero_le _)) destroyed
    · exact clearGains_of_pages_eq settled.distinct inList (by rw [destroyed.ram])

end Machine

end PagedMemory
