import PagedMemory.Proofs.Coremap.Representation
import PagedMemory.Proofs.Space.Backing

/-!
# Spaces that grow under memory pressure

Spaces are created and extended while others take frames, give them back and write to
them, and a policy gives up what it likes but for directories and tables. All along, the
directories and tables are held as they should be. A page that is backed has a table, and
its frame is another one, except in one case: no table covered the page, and the policy
gave up the frame of the page, which was already taken and not yet mapped, for the table.
-/

namespace PagedMemory.Memory

open Coremap (Consulted GivesUp Granted)

variable {π : Type} [EvictionPolicy π] {spaces : List AddressSpace}
  {mem mem' : Memory (Coremap π)} {space : AddressSpace} {frame directory : Frame}
  {address : VirtAddr} {context : Option Context} {left : Nat} {shown : List Event}

/-! ## Steps -/

omit [EvictionPolicy π] in
theorem Housed.renumber (housed : Housed spaces mem) (next : SpaceId) :
    Housed spaces { mem with nextSpace := next } :=
  ⟨housed.sound, housed.covered, housed.held, housed.apart, housed.alone⟩

omit [EvictionPolicy π] in
/-- A new space has nothing but a directory, which serves no other. -/
theorem Housed.cons (housed : Housed spaces mem) {id : SpaceId} {block : BlockId}
    (live : Live mem.frames.frames ⟨directory.number, 1, .space id, block⟩)
    (unnamed : ∀ i, mem.ram.table? directory i = none)
    (untouched : ∀ space ∈ spaces, ¬ space.Serves mem.ram directory) :
    Housed (.empty id directory :: spaces) mem where
  sound := housed.sound
  covered := housed.covered
  held := by
    refine List.forall_mem_cons.mpr ⟨?_, housed.held⟩
    rintro frame (rfl | ⟨i, named⟩)
    · exact ⟨block, live⟩
    · exact absurd ((unnamed i).symm.trans named) (Option.some_ne_none _).symm
  apart := by
    refine List.forall_mem_cons.mpr ⟨?_, fun space inList => ?_⟩
    · intro _ _ i table named
      exact absurd ((unnamed i).symm.trans named) (Option.some_ne_none _).symm
    · refine List.forall_mem_cons.mpr ⟨?_, housed.apart space inList⟩
      rintro i table named rfl
      exact untouched space inList (.inr ⟨i, named⟩)
  alone := by
    refine List.forall_mem_cons.mpr ⟨?_, fun space inList => ?_⟩
    · refine List.forall_mem_cons.mpr ⟨fun _ => rfl, fun other isOther same => ?_⟩
      exact absurd (.inl same.symm) (untouched other isOther)
    · refine List.forall_mem_cons.mpr ⟨fun same => ?_, housed.alone space inList⟩
      exact absurd (.inl same) (untouched space inList)

theorem ends_create_housed (housed : Housed spaces mem) (spares : Spares spaces mem)
    (room : mem.frames.Room 1) :
    (AddressSpace.create (Coremap.source context)).Ends left mem
      ⟨fun space mem' _ => Housed (space :: spaces) mem', fun _ mem' _ => Housed spaces mem',
        fun _ _ => True⟩ := by
  apply ends_create_of
  refine (Coremap.ends_allocate_granted housed.sound room).mono ?_ ?_ (fun _ _ => id)
  · rintro directory frames _ ⟨victims, granted⟩
    refine ⟨fun _ _ => trivial, fun ram differ isClear => ?_⟩
    obtain ⟨housed1, _, untouched⟩ := housed.granted spares granted
    have apart (space : AddressSpace) (inList : space ∈ spaces) :
        ¬ space.Serves mem.ram directory := fun serves =>
      untouched space inList directory serves (Block.covers_single.mpr rfl)
    have away (space : AddressSpace) (inList : space ∈ spaces) : space.directory ≠ directory :=
      fun same => apart space inList (.inl same.symm)
    refine ((housed1.write differ away).renumber mem.nextSpace.succ).cons granted.live
      (Ram.table?_of_clearFrame isClear) fun space inList serves => ?_
    exact apart space inList ((serves_of_write differ (away space inList) directory).mp serves)
  · rintro e frames _ ⟨policy, rfl⟩
    exact (housed.missed room policy).renumber mem.nextSpace.succ

theorem ends_walk_housed (housed : Housed spaces mem) (spares : Spares spaces mem)
    (room : mem.frames.Room 1) (inList : space ∈ spaces) {create : Bool} :
    (space.walk (Coremap.source context) address create).Ends left mem
      ⟨fun _ mem' _ => Housed spaces mem', fun _ mem' _ => Housed spaces mem',
        fun _ _ => True⟩ := by
  cases create with
  | true =>
    refine Operation.ends_bind.mpr ((ends_ensureTable_housed housed spares room inList).mono
      (fun _ _ _ covered => Operation.ends_pure.mpr covered.housed) ?_ (fun _ _ => id))
    rintro e mem' _ ⟨policy, rfl⟩
    exact housed.missed room policy
  | false => exact ends_onRam.mpr (Ram.ends_walk (fun _ _ => trivial) fun _ => housed)

theorem ends_allocate_housed (housed : Housed spaces mem) (spares : Spares spaces mem)
    (room : mem.frames.Room 1) {wanted : Nat} {owner : Owner} :
    (Coremap.allocate context wanted owner).Ends left mem.frames
      ⟨fun _ t _ => Housed spaces { mem with frames := t },
        fun _ t _ => Housed spaces { mem with frames := t }, fun _ _ => True⟩ := by
  refine (Coremap.ends_allocate_granted housed.sound room).mono ?_ ?_ (fun _ _ => id)
  · rintro base t _ ⟨victims, granted⟩
    exact (housed.granted spares granted).1
  · rintro e t _ ⟨policy, rfl⟩
    exact housed.missed room policy

omit [EvictionPolicy π] in
/-- A release frees no directory and no table, if it is not asked to. -/
theorem ends_releaseBlock_housed (housed : Housed spaces mem) {base : Frame} {single : Bool}
    (apart : ∀ space ∈ spaces, ¬ space.Serves mem.ram base) :
    (Coremap.releaseBlock context base single : Operation Empty (Coremap π) Unit).Ends left
      mem.frames
      ⟨fun _ t _ => Housed spaces { mem with frames := t },
        fun _ t _ => Housed spaces { mem with frames := t }, fun _ _ => True⟩ := by
  refine (Coremap.ends_reclaim_section housed.sound.unlocked housed.sound.tiled).bind ?_
    (fun _ _ _ => False.elim) (fun _ _ _ => trivial)
  rintro size t _ ⟨b, live, isBase, _, _, rfl⟩
  refine Operation.ends_log.mpr (housed.freed live fun space inList frame serves covers => ?_)
  obtain ⟨id, before⟩ := housed.held space inList frame serves
  have same := before.eq_of_covers live (Block.covers_single.mpr rfl) covers
  refine apart space inList ?_
  rwa [show base = frame from Page.ext (isBase.trans (congrArg Block.base same).symm)]

/-! ## Runs -/

/-- What some spaces and the memory that they are built in can become: spaces are created,
walked and extended, anyone allocates, releases what is no directory and no table, and
writes anywhere but to directories. The policy is never such that it would give up a
directory or a table, and nothing goes on after a panic. -/
inductive Grown : List AddressSpace → Memory (Coremap π) → Prop
  | boot {layout : RamLayout} {policy : π} {ram ram' : Ram} {start : Coremap π}
      {shown : List Event}
      (built : (Coremap.bootstrap layout policy).run ram = ⟨.value start, ram', shown⟩)
      (covered : layout.frameCount * 4096 ≤ ram'.size) (next : SpaceId) :
      Grown [] ⟨start, ram', next⟩
  | allocate {spaces : List AddressSpace} {mem : Memory (Coremap π)} (grown : Grown spaces mem)
      (spares : Spares spaces mem) (room : mem.frames.Room 1) (context : Option Context)
      (wanted : Nat) (owner : Owner)
      (goesOn : ∀ cause,
        ((Coremap.allocate context wanted owner).run mem.frames).result ≠ .panic cause) :
      Grown spaces
        { mem with frames := ((Coremap.allocate context wanted owner).run mem.frames).state }
  | release {spaces : List AddressSpace} {mem : Memory (Coremap π)} (grown : Grown spaces mem)
      (context : Option Context) (base : Frame) (single : Bool)
      (apart : ∀ space ∈ spaces, ¬ space.Serves mem.ram base)
      (goesOn : ∀ cause, ((Coremap.releaseBlock context base single :
        Operation Empty (Coremap π) Unit).run mem.frames).result ≠ .panic cause) :
      Grown spaces { mem with frames := ((Coremap.releaseBlock context base single :
        Operation Empty (Coremap π) Unit).run mem.frames).state }
  | write {spaces : List AddressSpace} {mem : Memory (Coremap π)} (grown : Grown spaces mem)
      {ram : Ram}
      (differ : Ram.DifferOn (fun frame => ∀ space ∈ spaces, space.directory ≠ frame) mem.ram ram) :
      Grown spaces { mem with ram := ram }
  | create {spaces : List AddressSpace} {mem mem' : Memory (Coremap π)} (grown : Grown spaces mem)
      (spares : Spares spaces mem) (room : mem.frames.Room 1) {context : Option Context}
      {space : AddressSpace} {shown : List Event}
      (run : (AddressSpace.create (Coremap.source context)).run mem =
        ⟨.value space, mem', shown⟩) : Grown (space :: spaces) mem'
  | createFailed {spaces : List AddressSpace} {mem mem' : Memory (Coremap π)}
      (grown : Grown spaces mem) (spares : Spares spaces mem) (room : mem.frames.Room 1)
      {context : Option Context} {e : SpaceError} {shown : List Event}
      (run : (AddressSpace.create (Coremap.source context)).run mem = ⟨.error e, mem', shown⟩) :
      Grown spaces mem'
  | walk {spaces : List AddressSpace} {mem : Memory (Coremap π)} (grown : Grown spaces mem)
      (spares : Spares spaces mem) (room : mem.frames.Room 1) {space : AddressSpace}
      (inList : space ∈ spaces) (context : Option Context) (address : VirtAddr) (create : Bool)
      (goesOn : ∀ cause,
        ((space.walk (Coremap.source context) address create).run mem).result ≠ .panic cause) :
      Grown spaces ((space.walk (Coremap.source context) address create).run mem).state
  | materialize {spaces : List AddressSpace} {mem : Memory (Coremap π)} (grown : Grown spaces mem)
      (spares : Spares spaces mem) (room : mem.frames.Room 2) {space : AddressSpace}
      (inList : space ∈ spaces) (context : Option Context) (address : VirtAddr)
      (goesOn : ∀ cause,
        ((space.materialize (Coremap.source context) address).run mem).result ≠ .panic cause) :
      Grown spaces ((space.materialize (Coremap.source context) address).run mem).state

/-- All along, directories and tables are held as they should be. -/
theorem Grown.housed (grown : Grown spaces mem) : Housed spaces mem := by
  induction grown with
  | boot built covered next =>
    obtain ⟨reservation, reserves, leavesRoom, rfl⟩ := Coremap.bootstrap_eq_value built
    obtain ⟨storage, _, rfl⟩ := Option.map_eq_some_iff.mp reserves
    have sound := Coremap.sound_initial ‹π› leavesRoom (Nat.le_of_lt (Coremap.frameCount_lt _))
    exact ⟨sound, sound.size_eq ▸ covered, by simp, by simp, by simp⟩
  | allocate grown spares room context wanted owner goesOn housed =>
    exact Operation.state_of_goesOn (fun left => ends_allocate_housed housed spares room) goesOn
  | release grown context base single apart goesOn housed =>
    exact Operation.state_of_goesOn (fun left => ends_releaseBlock_housed housed apart) goesOn
  | write grown differ housed =>
    exact housed.write differ fun space inList away => away space inList rfl
  | create grown spares room run housed =>
    exact (ends_create_housed housed spares room).of_value run (Nat.le_refl _)
  | createFailed grown spares room run housed =>
    exact (ends_create_housed housed spares room).of_error run (Nat.le_refl _)
  | walk grown spares room inList context address create goesOn housed =>
    exact Operation.state_of_goesOn (fun left => ends_walk_housed housed spares room inList) goesOn
  | materialize grown spares room inList context address goesOn housed =>
    refine Operation.state_of_goesOn (fun left => ?_) goesOn
    exact (ends_materialize_housed housed spares room inList).mono (fun _ _ _ => And.left)
      (fun _ _ _ => id) (fun _ _ => id)

/-! ## Backing a page -/

/-- Under a policy that gives up no directory and no table, a page that was backed has a
table, and this and its frame are single frames in use for the space. They are two frames of
two blocks, unless there was no table and the policy gives up the frame that was just
allocated: only then may it serve as the table that maps it. -/
theorem backed_of_materialize (housed : Housed spaces mem) (spares : Spares spaces mem)
    (room : mem.frames.Room 2) (inList : space ∈ spaces)
    (run : (space.materialize (Coremap.source context) address).run mem =
      ⟨.value frame, mem', shown⟩) :
    Housed spaces mem' ∧ ∃ table id id',
      (space.walk (Coremap.source context) address false).run mem' =
          ⟨.value (some table), mem', []⟩ ∧
        Live mem'.frames.frames ⟨frame.number, 1, space.owner, id⟩ ∧
        Live mem'.frames.frames ⟨table.number, 1, space.owner, id'⟩ ∧
        (frame ≠ table ∧ id ≠ id' ∨
          frame = table ∧ mem.ram.table? space.directory (.ofAddr address) = none ∧
            GivesUp mem.frames.policy frame (.inUse space.owner mem.frames.nextBlock 1)) := by
  obtain ⟨housed', admitted, table, id, id', backed⟩ :=
    (ends_materialize_housed housed spares room inList).of_value run (Nat.le_refl _)
  refine ⟨housed', table, id, id', ?_, backed.frame_live, backed.table_live, backed.apart_or⟩
  exact backed.named ▸ run_walk admitted (by simp)

/-! ## A small memory -/

/-- Rules spare a space without tables if they do not allow its directory to be taken. -/
theorem spares_of_rules {mem : Memory (Coremap EvictionRules)} {id : SpaceId}
    (unnamed : ∀ i, mem.ram.table? directory i = none)
    (refused : (mem.frames.frames[directory.number]?.all fun descriptor =>
      !mem.frames.policy.allows directory descriptor) = true) :
    Spares [.empty id directory] mem := by
  intro space inList frame serves descriptor recorded
  obtain rfl := List.mem_singleton.mp inList
  rcases serves with same | ⟨i, named⟩
  · obtain rfl : frame = directory := same
    rw [recorded] at refused
    rw [Coremap.givesUp_rules_iff]
    simpa using refused
  · exact absurd ((unnamed i).symm.trans named) (Option.some_ne_none _).symm

/-- Where nothing was in use, a space is created and the kernel takes a block. -/
theorem exists_grown_of_allocate {mem : Memory (Coremap EvictionRules)} (grown : Grown [] mem)
    (room : mem.frames.Room 1) {c c' : Coremap EvictionRules} {base : Frame} {wanted : Nat}
    {shown shown' : List Event}
    (first : (Coremap.allocate none 1 (.space mem.nextSpace)).run mem.frames =
      ⟨.value directory, c, shown⟩) (admitted : mem.ram.Admitted directory)
    (second : (Coremap.allocate none wanted .kernel).run c = ⟨.value base, c', shown'⟩)
    (roomAfter : c.Room 1)
    (refused : (c.frames[directory.number]?.all fun descriptor =>
      !c.policy.allows directory descriptor) = true) :
    ∃ ram, Grown [.empty mem.nextSpace directory] ⟨c', ram, mem.nextSpace.succ⟩ ∧
      (∀ i, ram.table? directory i = none) ∧ ram.window = mem.ram.window := by
  obtain ⟨ram, _, created, _, differ, isClear⟩ :=
    exists_create_of_allocate (Coremap.source none) first admitted
  have unnamed := Ram.table?_of_clearFrame isClear
  have made := grown.create (fun _ inList => absurd inList List.not_mem_nil) room created
  have taken := made.allocate (spares_of_rules unnamed refused) roomAfter none wanted .kernel (by
    rw [second]
    simp)
  rw [second] at taken
  exact ⟨ram, taken, unnamed, differ.window⟩

/-- Eight frames, three of them reserved. -/
theorem exists_grown_boot (rules : EvictionRules) : ∃ bytes : ByteArray,
    Grown [] ⟨.initial ⟨8, .ofNat 0x2000⟩ rules, ⟨.directMap, bytes⟩, ⟨1⟩⟩ := by
  obtain ⟨bytes, large⟩ : ∃ bytes : ByteArray, bytes.size = 8 * 4096 :=
    ⟨_, Ram.size_zeroed .directMap 8⟩
  obtain ⟨_, built⟩ := Coremap.exists_bootstrap rules bytes
  refine ⟨bytes, .boot built ?_ ⟨1⟩⟩
  change _ ≤ bytes.size
  rw [large]
  decide

/-- In the small memory a space takes a frame, the kernel a block, and the space a frame twice
more. -/
def Squeezed (rules : EvictionRules) (wanted base frame table : Nat) : Prop :=
  let space : Operation OutOfMemory (Coremap EvictionRules) Frame :=
    Coremap.allocate none 1 (.space ⟨1⟩)
  let kernel : Operation OutOfMemory (Coremap EvictionRules) Frame :=
    Coremap.allocate none wanted .kernel
  let c0 : Coremap EvictionRules := .initial ⟨8, .ofNat 0x2000⟩ rules
  let c1 := (space.run c0).state
  let c2 := (kernel.run c1).state
  let c3 := (space.run c2).state
  (space.run c0).result = .value (.ofNumber 3) ∧ (kernel.run c1).result = .value (.ofNumber base) ∧
    (space.run c2).result = .value (.ofNumber frame) ∧
    (space.run c3).result = .value (.ofNumber table) ∧
    c1.policy = rules ∧ c2.policy = rules ∧ c1.nextBlock = ⟨2⟩ ∧ c2.nextBlock = ⟨3⟩ ∧
    ∀ c ∈ [c1, c2], (c.frames[3]?.all fun descriptor =>
      !c.policy.allows (.ofNumber 3) descriptor) = true

instance (rules : EvictionRules) (wanted base frame table : Nat) :
    Decidable (Squeezed rules wanted base frame table) := by
  unfold Squeezed
  infer_instance

/-- So a page of the space is backed. -/
theorem exists_backed_of_squeezed {rules : EvictionRules} {wanted base frame table : Nat}
    (squeezed : Squeezed rules wanted base frame table) (low : frame < 8 ∧ table < 8)
    (apart : frame ≠ 3 ∧ table ≠ 3) (address : VirtAddr) :
    let space : AddressSpace := .empty ⟨1⟩ (.ofNumber 3)
    ∃ mem mem' shown, mem.frames.policy = rules ∧ mem.frames.Room 2 ∧ Grown [space] mem ∧
      Spares [space] mem ∧ mem.ram.page? space.directory address.page = none ∧
      (space.materialize (Coremap.source none) address).run mem =
        ⟨.value (.ofNumber frame), mem', shown⟩ ∧
      (space.walk (Coremap.source none) address false).run mem' =
        ⟨.value (some (.ofNumber table)), mem', []⟩ := by
  intro space
  obtain ⟨first, second, third, fourth, _, isRules, one, two, refused⟩ := squeezed
  have first := Operation.run_eq_of_result_of_state first rfl
  have second := Operation.run_eq_of_result_of_state second rfl
  have third := Operation.run_eq_of_result_of_state third rfl
  have fourth := Operation.run_eq_of_result_of_state fourth rfl
  obtain ⟨bytes, booted⟩ := exists_grown_boot rules
  have admits : Ram.Admits ⟨.directMap, bytes⟩ 8 := Ram.admits_of_directMap rfl (by decide)
  obtain ⟨ram, grown, unnamed, window⟩ := exists_grown_of_allocate booted (by
    change 1 + 1 < 0x100000000
    decide) first (admits _ (by decide)) second (by
      unfold Coremap.Room
      rw [one]
      decide) (refused _ (by simp))
  have still : ram.Admits 8 := Ram.admits_of_directMap window (by decide)
  have within := grown.housed.within (List.mem_singleton.mpr rfl)
  have number {n : Nat} (small : n < 8) : (Page.ofNumber n : Frame).number = n :=
    Page.number_ofNumber_of_lt (by omega)
  have different {n : Nat} (small : n < 8) (apart : n ≠ 3) :
      space.directory ≠ (Page.ofNumber n : Frame) := by
    intro same
    have numbers := congrArg Page.number same
    rw [number small] at numbers
    exact apart numbers.symm
  obtain ⟨ram', shown, run, named, admitted⟩ := exists_materialize_of_allocate
    (Coremap.source none) ⟨_, ram, SpaceId.succ ⟨1⟩⟩ space address (unnamed _) within
    (still _ (by decide)) third (still _ (by rw [number low.1]; exact low.1))
    (different low.1 apart.1) fourth (still _ (by rw [number low.2]; exact low.2))
    (different low.2 apart.2)
  refine ⟨_, _, shown, isRules, ?_, grown, spares_of_rules unnamed (refused _ (by simp)),
    Ram.page?_eq_none_of_table? (unnamed _), run, named ▸ run_walk admitted (by simp)⟩
  unfold Coremap.Room
  rw [two]
  decide

/-- The kernel has taken all frames that were left, and the policy gives them up: the page gets
the first of them and its table another. -/
theorem backed_of_materialize_evicting :
    let space : AddressSpace := .empty ⟨1⟩ (.ofNumber 3)
    ∃ mem mem' shown, mem.frames.policy = (⟨true, some [.kernel], none, none⟩ : EvictionRules) ∧
      Housed [space] mem ∧ Spares [space] mem ∧ mem.frames.Room 2 ∧ space ∈ [space] ∧
      (space.materialize (Coremap.source none) (.ofNat 0x2000)).run mem =
        ⟨.value (.ofNumber 4), mem', shown⟩ ∧
      Housed [space] mem' ∧ ∃ table id id',
        (space.walk (Coremap.source none) (.ofNat 0x2000) false).run mem' =
            ⟨.value (some table), mem', []⟩ ∧
          Live mem'.frames.frames ⟨4, 1, space.owner, id⟩ ∧
          Live mem'.frames.frames ⟨table.number, 1, space.owner, id'⟩ ∧
          .ofNumber 4 ≠ table ∧ id ≠ id' := by
  intro space
  obtain ⟨mem, mem', shown, isRules, room, grown, spares, _, run, _⟩ :=
    exists_backed_of_squeezed (by decide +kernel :
      Squeezed ⟨true, some [.kernel], none, none⟩ 4 4 4 5) (by decide) (by decide) (.ofNat 0x2000)
  have inList : space ∈ [space] := List.mem_singleton.mpr rfl
  obtain ⟨housed, table, id, id', walked, frameLive, tableLive, apart | ⟨_, _, givenUp⟩⟩ :=
    backed_of_materialize grown.housed spares room inList run
  · exact ⟨mem, mem', shown, isRules, grown.housed, spares, room, inList, run, housed, table, id,
      id', walked, frameLive, tableLive, apart⟩
  · rw [isRules, Coremap.givesUp_rules_iff] at givenUp
    exact absurd givenUp (by
      simp [EvictionRules.allows, Descriptor.owner, AddressSpace.owner])

/-- One frame is left, and the policy gives up this one and no other: the page gets it, and so
does its table. -/
theorem materialize_doubles :
    let space : AddressSpace := .empty ⟨1⟩ (.ofNumber 3)
    ∃ mem mem' shown, mem.frames.policy = (⟨true, none, some [7], none⟩ : EvictionRules) ∧
      Grown [space] mem ∧ Spares [space] mem ∧
      mem.ram.page? space.directory (Address.page (.ofNat 0x2000)) = none ∧
      (space.materialize (Coremap.source none) (.ofNat 0x2000)).run mem =
        ⟨.value (.ofNumber 7), mem', shown⟩ ∧
      (space.walk (Coremap.source none) (.ofNat 0x2000) false).run mem' =
        ⟨.value (some (.ofNumber 7)), mem', []⟩ := by
  intro space
  obtain ⟨mem, mem', shown, isRules, _, grown, spares, unmapped, run, walked⟩ :=
    exists_backed_of_squeezed (by decide +kernel :
      Squeezed ⟨true, none, some [7], none⟩ 3 4 7 7) (by decide) (by decide) (.ofNat 0x2000)
  exact ⟨mem, mem', shown, isRules, grown, spares, unmapped, run, walked⟩

end PagedMemory.Memory
