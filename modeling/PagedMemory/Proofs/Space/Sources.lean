import PagedMemory.Proofs.Paging.Views
import PagedMemory.Space.Mapping

/-!
# Mapping pages with frames from anywhere

What the operations that extend the tables of a space do, for any frame source: each
rule asks of the source only what it does on the allocation at hand, and says nothing of
how the frame that is handed out lies to the frames that are in use.
-/

namespace PagedMemory.Memory

variable {ε σ : Type} {source : FrameSource σ} {space : AddressSpace} {mem : Memory σ}
  {left : Nat} {page : VirtPage} {frame : Frame} {address : VirtAddr}

/-! ## Looking -/

/-- An operation on RAM that shows nothing, run on memory. -/
theorem run_onRam {α : Type} {op : Operation ε Ram α} {a : α}
    (run : op.run mem.ram = ⟨.value a, mem.ram, []⟩) :
    (onRam op).run mem = ⟨.value a, mem, []⟩ := by
  rcases mem with ⟨frames, ram, nextSpace⟩
  unfold Operation.run at run ⊢
  unfold onRam Operation.onPart
  dsimp only at run ⊢
  rw [run]

/-- A walk that does not have to create a table says which table there is. -/
theorem run_walk {create : Bool} (admitted : mem.ram.Admitted space.directory)
    (there : create = true → (mem.ram.table? space.directory (.ofAddr address)).isSome) :
    (space.walk source address create).run mem =
      ⟨.value (mem.ram.table? space.directory (.ofAddr address)), mem, []⟩ := by
  have walked : (onRam (Ram.walk space.directory address) :
      Operation SpaceError (Memory σ) (Option Frame)).run mem = _ :=
    run_onRam (Ram.run_walk admitted)
  cases create with
  | false => exact walked
  | true =>
    obtain ⟨table, named⟩ := Option.isSome_iff_exists.mp (there rfl)
    rw [named] at walked
    have found : (space.ensureTable source address).run mem = ⟨.value table, mem, []⟩ := by
      rw [AddressSpace.ensureTable, Operation.run_bind_of_value walked, Operation.run_pure,
        List.nil_append]
    rw [AddressSpace.walk, if_pos rfl, Operation.run_bind_of_value found, Operation.run_pure,
      List.nil_append, named]

/-! ## Rules -/

/-- A single frame is taken, cleared and used for something. -/
theorem ends_allocateSingle_zeroFrame {α : Type} {owner : Owner}
    {next : Frame → Operation SpaceError (Memory σ) α} {post : Post SpaceError (Memory σ) α}
    (taken : (source.allocateSingle owner).Ends left mem.frames
      ⟨fun frame frames left =>
          (¬ mem.ram.Admitted frame → ∀ cause, post.panic cause { mem with frames := frames }) ∧
            ∀ ram, Ram.DifferOn (· = frame) mem.ram ram → ram.ClearFrame frame →
              ram.Admitted frame →
                (next frame).Ends left { mem with frames := frames, ram := ram } post,
        fun e frames => post.error (.outOfMemory e) { mem with frames := frames },
        fun cause frames => post.panic cause { mem with frames := frames }⟩) :
    (allocateSingle source owner >>= fun frame =>
      onRam (Ram.zeroFrame frame) >>= fun _ => next frame).Ends left mem post := by
  refine Operation.ends_bind.mpr (ends_onFrames.mpr (Operation.ends_mapError.mpr
    (taken.mono ?_ (fun _ _ _ => id) (fun _ _ => id))))
  rintro frame frames left ⟨refused, cleared⟩
  refine Operation.ends_bind.mpr (ends_onRam.mpr (Ram.ends_zeroFrame refused ?_))
  exact fun ram admitted differ isClear =>
    cleared ram differ isClear (differ.admitted _ admitted)

/-- A space is created around a cleared directory. -/
theorem ends_create_of {post : Post SpaceError (Memory σ) AddressSpace}
    (taken : (source.allocateSingle (.space mem.nextSpace)).Ends left mem.frames
      ⟨fun directory frames left =>
          (¬ mem.ram.Admitted directory →
            ∀ cause, post.panic cause ⟨frames, mem.ram, mem.nextSpace.succ⟩) ∧
            ∀ ram, Ram.DifferOn (· = directory) mem.ram ram → ram.ClearFrame directory →
              post.value (.empty mem.nextSpace directory) ⟨frames, ram, mem.nextSpace.succ⟩ left,
        fun e frames => post.error (.outOfMemory e) ⟨frames, mem.ram, mem.nextSpace.succ⟩,
        fun cause frames => post.panic cause ⟨frames, mem.ram, mem.nextSpace.succ⟩⟩) :
    (AddressSpace.create source).Ends left mem post := by
  have drawn : (drawSpace : Operation SpaceError (Memory σ) SpaceId).run mem =
      ⟨.value mem.nextSpace, { mem with nextSpace := mem.nextSpace.succ }, []⟩ := rfl
  refine Operation.ends_bind.mpr ((Operation.ends_of_run_value drawn).mpr
    (ends_allocateSingle_zeroFrame (taken.mono ?_ (fun _ _ _ => id) (fun _ _ => id))))
  rintro directory frames left ⟨refused, made⟩
  refine ⟨refused, fun ram differ isClear _ => ?_⟩
  exact Operation.ends_bind.mpr (Operation.ends_log.mpr
    (Operation.ends_pure.mpr (made ram differ isClear)))

/-- The table that covers an address is the one that is there, or one is taken, cleared and
named. -/
theorem ends_ensureTable_of {post : Post SpaceError (Memory σ) Frame}
    (refused : ¬ mem.ram.Admitted space.directory → ∀ cause, post.panic cause mem)
    (there : mem.ram.Admitted space.directory →
      ∀ table, mem.ram.table? space.directory (.ofAddr address) = some table →
        post.value table mem left)
    (made : mem.ram.Admitted space.directory →
      mem.ram.table? space.directory (.ofAddr address) = none →
        (source.allocateSingle space.owner).Ends left mem.frames
          ⟨fun table frames left =>
              (¬ mem.ram.Admitted table → ∀ cause, post.panic cause { mem with frames := frames }) ∧
                ∀ ram, Ram.DifferOn (· = table) mem.ram ram → ram.ClearFrame table →
                  post.value table
                    { mem with
                      frames := frames
                      ram := ram.setDirectoryEntry space.directory (.ofAddr address)
                        (.table table) } left,
            fun e frames => post.error (.outOfMemory e) { mem with frames := frames },
            fun cause frames => post.panic cause { mem with frames := frames }⟩) :
    (space.ensureTable source address).Ends left mem post := by
  refine Operation.ends_bind.mpr (ends_onRam.mpr (Ram.ends_walk refused fun admitted => ?_))
  rcases named : mem.ram.table? space.directory (.ofAddr address) with _ | table
  · refine ends_allocateSingle_zeroFrame ((made admitted named).mono ?_
      (fun _ _ _ => id) (fun _ _ => id))
    rintro table frames left ⟨denied, written⟩
    refine ⟨denied, fun ram differ isClear _ => ?_⟩
    refine Operation.ends_bind.mpr (ends_onRam.mpr (Ram.ends_writeDirectory ?_ ?_))
    · exact fun denied => absurd (differ.admitted _ admitted) denied
    exact Operation.ends_bind.mpr (Operation.ends_log.mpr
      (Operation.ends_pure.mpr (written ram differ isClear)))
  · exact Operation.ends_pure.mpr (there admitted table named)

/-- A page is mapped in the table that covers it, if it is not mapped there. -/
theorem ends_mapPage_of {post : Post SpaceError (Memory σ) Unit}
    (covered : (space.ensureTable source page.base).Ends left mem
      ⟨fun table mem left =>
          (¬ mem.ram.Admitted table → ∀ cause, post.panic cause mem) ∧
            (mem.ram.mapping? table (.ofPage page) ≠ none →
              post.panic (.alreadyMapped page) mem) ∧
            (mem.ram.Admitted table → mem.ram.mapping? table (.ofPage page) = none →
              post.value ()
                { mem with ram := mem.ram.setTableEntry table (.ofPage page) (.mapping frame) }
                left),
        post.error, post.panic⟩) :
    (space.mapPage source page frame).Ends left mem post := by
  refine Operation.ends_bind.mpr (covered.mono ?_ (fun _ _ _ => id) (fun _ _ => id))
  rintro table mem left ⟨refused, present, absent⟩
  by_cases admitted : mem.ram.Admitted table
  · refine Operation.ends_bind.mpr (ends_onRam.mpr (Ram.ends_readTable ?_ ?_))
    · exact fun denied => absurd admitted denied
    refine Operation.ends_bind.mpr (Operation.ends_require.mpr ?_)
    split
    · next unmapped =>
      refine ends_onRam.mpr (Ram.ends_writeTable (fun denied => absurd admitted denied) ?_)
      refine absent admitted ?_
      rw [Ram.mapping?, TableEntry.frame?, if_neg (by simpa using unmapped)]
    · next mapped =>
      refine present ?_
      rw [Ram.mapping?, TableEntry.frame?, if_pos (by simpa using mapped)]
      exact Option.some_ne_none _
  · refine Operation.ends_bind.mpr (ends_onRam.mpr (Operation.ends_bind.mpr
      (Ram.ends_allowFrame (fun _ => refused admitted) ?_)))
    exact fun isAdmitted => absurd isAdmitted admitted

/-- A page is backed with a frame that is taken and cleared; if it cannot be mapped for
want of a table, the frame is given back. -/
theorem ends_materialize_of {post : Post SpaceError (Memory σ) Frame}
    (taken : (source.allocateSingle space.owner).Ends left mem.frames
      ⟨fun frame frames left =>
          (¬ mem.ram.Admitted frame → ∀ cause, post.panic cause { mem with frames := frames }) ∧
            ∀ ram, Ram.DifferOn (· = frame) mem.ram ram → ram.ClearFrame frame →
              ram.Admitted frame →
                (space.mapPage source address.page frame).Ends left
                  { mem with frames := frames, ram := ram }
                  ⟨fun _ => post.value frame,
                    fun e mem left => (source.freeSingle frame).Ends left mem.frames
                      ⟨fun _ frames => post.error e { mem with frames := frames },
                        fun _ _ _ => False,
                        fun cause frames => post.panic cause { mem with frames := frames }⟩,
                    post.panic⟩,
        fun e frames => post.error (.outOfMemory e) { mem with frames := frames },
        fun cause frames => post.panic cause { mem with frames := frames }⟩) :
    (space.materialize source address).Ends left mem post := by
  refine ends_allocateSingle_zeroFrame (taken.mono ?_ (fun _ _ _ => id) (fun _ _ => id))
  rintro frame frames left ⟨refused, mapped⟩
  refine ⟨refused, fun ram differ isClear admitted => ?_⟩
  refine Operation.ends_bind.mpr (Operation.ends_attempt.mpr
    ((mapped ram differ isClear admitted).mono ?_ ?_ (fun _ _ => id)))
  · intro _ mem left done
    exact Operation.ends_bind.mpr (Operation.ends_log.mpr (Operation.ends_pure.mpr done))
  · intro e mem left given
    refine Operation.ends_bind.mpr (ends_onFrames.mpr (Operation.ends_mapError.mpr
      (given.mono ?_ (fun _ _ _ => False.elim) (fun _ _ => id))))
    exact fun _ _ _ done => Operation.ends_fail.mpr done

/-! ## Runs whose allocations are known -/

variable {frames frames' : σ} {table : Frame} {shown shown' : List Event}

/-- A space is created if there is a frame for its directory. -/
theorem exists_create_of_allocate (source : FrameSource σ)
    (taken : (source.allocateSingle (.space mem.nextSpace)).run mem.frames =
      ⟨.value frame, frames, shown⟩) (admitted : mem.ram.Admitted frame) :
    ∃ ram more, (AddressSpace.create source).run mem =
        ⟨.value (.empty mem.nextSpace frame), ⟨frames, ram, mem.nextSpace.succ⟩, more⟩ ∧
      draws more ≤ draws shown ∧ Ram.DifferOn (· = frame) mem.ram ram ∧ ram.ClearFrame frame := by
  have ends (left : Nat) : (AddressSpace.create source).Ends left mem
      ⟨fun space mem' left' => left ≤ left' + draws shown ∧ ∃ ram,
          space = .empty mem.nextSpace frame ∧ mem' = ⟨frames, ram, mem.nextSpace.succ⟩ ∧
          Ram.DifferOn (· = frame) mem.ram ram ∧ ram.ClearFrame frame,
        fun _ _ _ => False, fun _ _ => False⟩ := by
    refine ends_create_of (.of_run taken fun few => ⟨fun denied => absurd admitted denied, ?_⟩)
    exact fun ram differ isClear => ⟨by omega, ram, rfl, rfl, differ, isClear⟩
  obtain ⟨_, _, more, run, few, ram, rfl, rfl, differ, isClear⟩ := Operation.exists_run_of_ends ends
  exact ⟨ram, more, run, few, differ, isClear⟩

/-- A missing table is created if there is a frame for it. -/
theorem exists_ensureTable_of_allocate (source : FrameSource σ)
    (unnamed : mem.ram.table? space.directory (.ofAddr address) = none)
    (directoryAdmitted : mem.ram.Admitted space.directory)
    (taken : (source.allocateSingle space.owner).run mem.frames =
      ⟨.value table, frames, shown⟩) (admitted : mem.ram.Admitted table) :
    ∃ mem' more, (space.ensureTable source address).run mem = ⟨.value table, mem', more⟩ ∧
      draws more ≤ draws shown ∧ mem'.frames = frames := by
  have ends (left : Nat) : (space.ensureTable source address).Ends left mem
      ⟨fun found mem' left' => left ≤ left' + draws shown ∧ found = table ∧ mem'.frames = frames,
        fun _ _ _ => False, fun _ _ => False⟩ := by
    apply ends_ensureTable_of
    · exact fun denied => absurd directoryAdmitted denied
    · exact fun _ _ named => absurd (named.symm.trans unnamed) (Option.some_ne_none _)
    · refine fun _ _ => .of_run taken fun few => ⟨fun denied => absurd admitted denied, ?_⟩
      exact fun ram _ _ => ⟨by omega, rfl, rfl⟩
  obtain ⟨_, mem', more, run, few, rfl, isFrames⟩ := Operation.exists_run_of_ends ends
  exact ⟨mem', more, run, few, isFrames⟩

/-- A page without a table is backed if there is a frame for it and then one for the table,
be it the same. -/
theorem exists_materialize_of_allocate (source : FrameSource σ) (mem : Memory σ)
    (space : AddressSpace) (address : VirtAddr)
    (unnamed : mem.ram.table? space.directory (.ofAddr address) = none)
    (within : space.directory.number * 4096 + 4096 ≤ mem.ram.size)
    (directoryAdmitted : mem.ram.Admitted space.directory)
    (first : (source.allocateSingle space.owner).run mem.frames =
      ⟨.value frame, frames, shown⟩) (frameAdmitted : mem.ram.Admitted frame)
    (frameApart : space.directory ≠ frame)
    (second : (source.allocateSingle space.owner).run frames =
      ⟨.value table, frames', shown'⟩) (tableAdmitted : mem.ram.Admitted table)
    (tableApart : space.directory ≠ table) :
    ∃ ram more, (space.materialize source address).run mem =
        ⟨.value frame, { mem with frames := frames', ram := ram }, more⟩ ∧
      ram.table? space.directory (.ofAddr address) = some table ∧
      ram.Admitted space.directory := by
  have ends (left : Nat) : (space.materialize source address).Ends left mem
      ⟨fun found mem' left' => left ≤ left' + (draws shown + draws shown') ∧ found = frame ∧
          ∃ ram, mem' = { mem with frames := frames', ram := ram } ∧
            ram.table? space.directory (.ofAddr address) = some table ∧
            ram.Admitted space.directory,
        fun _ _ _ => False, fun _ _ => False⟩ := by
    refine ends_materialize_of (.of_run first fun few =>
      ⟨fun denied => absurd frameAdmitted denied, fun ram1 differ1 _ _ => ?_⟩)
    have still1 := differ1.admitted
    have tables1 := funext (Ram.table?_eq_of_sameFrame (differ1.same _ frameApart))
    have base := DirectoryIndex.ofAddr_base address
    refine ends_mapPage_of (ends_ensureTable_of ?_ ?_ ?_)
    · exact fun denied => absurd (still1 _ directoryAdmitted) denied
    · intro _ other named
      rw [base] at named
      exact absurd (named.symm.trans ((congrFun tables1 _).trans unnamed)) (Option.some_ne_none _)
    intro _ _
    refine .of_run second fun fewToo => ⟨fun denied => absurd (still1 _ tableAdmitted) denied,
      fun ram2 differ2 isClear => ?_⟩
    have differ3 := Ram.differOn_setDirectoryEntry ram2 space.directory
      (.ofAddr address.page.base) (.table table)
    have updated := Ram.table?_setDirectoryEntry_table (differ2.size ▸ differ1.size ▸ within)
      (.ofAddr address.page.base) table
    rw [base] at differ3 updated ⊢
    have still3 (f : Frame) (admitted : mem.ram.Admitted f) :=
      differ3.admitted f (differ2.admitted f (still1 f admitted))
    have cleared := (differ3.same table (Ne.symm tableApart)).clear isClear
    generalize ram2.setDirectoryEntry space.directory (.ofAddr address) (.table table) = ram3 at *
    refine ⟨fun denied => absurd (still3 _ tableAdmitted) denied, fun present => ?_, fun _ _ => ?_⟩
    · exact present (Ram.mapping?_of_clearFrame cleared _)
    · have differ4 := Ram.differOn_setTableEntry ram3 table (.ofPage address.page) (.mapping frame)
      refine ⟨by omega, rfl, _, rfl, ?_, differ4.admitted _ (still3 _ directoryAdmitted)⟩
      rw [Ram.table?_eq_of_sameFrame (differ4.same _ tableApart), updated]
      exact Function.update_self _ _ _
  obtain ⟨_, _, more, run, few, rfl, ram, rfl, named, admitted⟩ := Operation.exists_run_of_ends ends
  exact ⟨ram, more, run, named, admitted⟩

end PagedMemory.Memory
