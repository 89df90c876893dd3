import Mathlib.Logic.Relation
import PagedMemory.Proofs.Machine.FirstSpace
import PagedMemory.Proofs.Space.Translation

/-!
# Segments and tables agree as long as a space lives

Once a space is loaded, its record does not change until it is destroyed, and no
other space gets its identity. Its tables may grow meanwhile, and other spaces come
and go. All along, its segments and its tables translate alike.
-/

namespace PagedMemory

open Relation (ReflTransGen)

namespace Machine

variable {ε σ α : Type} {machine : Machine σ} {id : SpaceId} {space : AddressSpace}

/-- An operation on memory that shows nothing, run on a machine. -/
theorem run_onMemory {op : Operation ε (Memory σ) α} {a : α}
    (run : op.run machine.memory = ⟨.value a, machine.memory, []⟩) :
    (onMemory op).run machine = ⟨.value a, machine, []⟩ := by
  rcases machine with ⟨memory, spaces, interrupts, firstTlb, secondTlb, running⟩
  unfold Operation.run at run ⊢
  unfold onMemory
  dsimp only at run ⊢
  rw [run]

/-- An operation on RAM that shows nothing, run on a machine. -/
theorem run_onRam {op : Operation ε Ram α} {a : α}
    (run : op.run machine.memory.ram = ⟨.value a, machine.memory.ram, []⟩) :
    (onRam op : Operation ε (Machine σ) α).run machine = ⟨.value a, machine, []⟩ :=
  run_onMemory (Memory.run_onRam run)

/-- A machine that is asked which frame a space maps an address to says what the space's
tables say. -/
theorem run_lookup (found : machine.space? id = some space)
    (admitted : machine.memory.ram.Admitted space.directory)
    (tablesAdmitted : ∀ i table, machine.memory.ram.table? space.directory i = some table →
      machine.memory.ram.Admitted table) (address : VirtAddr) :
    (lookup id address : Operation ε (Machine σ) (Option Frame)).run machine =
      ⟨.value (machine.memory.ram.lookup space.directory address), machine, []⟩ := by
  have resolved : (space.lookup address : Operation ε Ram (Option Frame)).run machine.memory.ram =
      ⟨.value (machine.memory.ram.lookup space.directory address), machine.memory.ram, []⟩ :=
    Ram.run_resolve admitted tablesAdmitted
  rw [lookup, Operation.run_bind_of_value (run_findSpace found), run_onRam resolved,
    List.nil_append]

/-- A machine that is asked for a physical address says what the space's tables say. -/
theorem run_translate (found : machine.space? id = some space)
    (admitted : machine.memory.ram.Admitted space.directory)
    (tablesAdmitted : ∀ i table, machine.memory.ram.table? space.directory i = some table →
      machine.memory.ram.Admitted table) (address : VirtAddr) :
    (translate id address : Operation ε (Machine σ) (Option PhysAddr)).run machine =
      ⟨.value (machine.memory.ram.translate space.directory address), machine, []⟩ := by
  have translated : (space.translate address : Operation ε Ram (Option PhysAddr)).run
      machine.memory.ram = ⟨.value (machine.memory.ram.translate space.directory address),
        machine.memory.ram, []⟩ := by
    rw [AddressSpace.translate, AddressSpace.lookup,
      Operation.run_bind_of_value (Ram.run_resolve admitted tablesAdmitted), Operation.run_pure,
      List.nil_append, Ram.translate]
  rw [translate, Operation.run_bind_of_value (run_findSpace found), run_onRam translated,
    List.nil_append]

end Machine

namespace Session

open Machine

variable {session session' : Session} {space : AddressSpace}

/-! ## What a machine answers -/

/-- A machine at rest that is asked which frame a living space maps an address to says what
the space's tables say. -/
theorem run_lookup_of_atRest {machine : Machine (FrameSupply NoEviction)} {held : List VirtAddr}
    {failed retried : List SpaceId} (atRest : AtRest machine held failed retried)
    (inList : space ∈ machine.spaces) (address : VirtAddr) :
    (lookup space.id address : Operation VmError _ _).run machine =
      ⟨.value (machine.memory.ram.lookup space.directory address), machine, []⟩ := by
  obtain ⟨stealer, inner, rfl, settled⟩ := atRest
  have holds := settled.holds space inList
  apply Machine.run_lookup
  · exact space?_of_mem settled.distinct inList
  · exact holds.directoryAdmitted
  · exact holds.tablesAdmitted

theorem Reachable.run_translate (reachable : Reachable session)
    (inList : space ∈ session.machine.spaces) (address : VirtAddr) :
    (translate space.id address : Operation VmError _ _).run session.machine =
      ⟨.value (session.machine.memory.ram.translate space.directory address),
        session.machine, []⟩ := by
  obtain ⟨stealer, machine, isMachine, settled⟩ := reachable.atRest
  rw [isMachine] at inList ⊢
  have holds := settled.holds space inList
  apply Machine.run_translate
  · exact space?_of_mem settled.distinct inList
  · exact holds.directoryAdmitted
  · exact holds.tablesAdmitted

/-! ## Spaces that last -/

/-- A run goes on with whatever steps follow. -/
theorem Reachable.later (reachable : Reachable session)
    (later : ReflTransGen Step session session') : Reachable session' := by
  induction later with
  | refl => exact reachable
  | tail _ step ih => exact ih.step step

/-- A space lasts: its identity is used up, and whichever space has it is this one. -/
structure Lasting (space : AddressSpace) (session : Session) : Prop where
  used : space.id.number < session.machine.memory.nextSpace.number
  only : ∀ other ∈ session.machine.spaces, other.id = space.id → other = space

/-- A space that lives lasts. -/
theorem lasting_of_mem
    (atRest : AtRest session.machine session.held session.failed session.retried)
    (inList : space ∈ session.machine.spaces) : Lasting space session := by
  obtain ⟨stealer, machine, isMachine, settled⟩ := atRest
  rw [isMachine] at inList
  constructor
  · rw [isMachine]
    exact settled.named space inList
  · intro other inListOther same
    rw [isMachine] at inListOther
    exact settled.distinct other inListOther space inList same

/-- A loaded space lasts for one step. -/
theorem Lasting.step (lasting : Lasting space session) (isLoaded : space.loaded = true)
    (step : Step session session')
    (atRest : AtRest session.machine session.held session.failed session.retried) :
    Lasting space session' := by
  obtain ⟨context, request, permitted, _, noWrap⟩ := step
  obtain ⟨stealer, machine, machine', turn⟩ := exists_turn atRest permitted noWrap
  have used := lasting.used
  have only := lasting.only
  rw [turn.before] at used only
  constructor
  · rw [machine_after, turn.after]
    exact Nat.lt_of_lt_of_le used turn.worked.later
  · intro other inList same
    rw [machine_after, turn.after] at inList
    rcases turn.worked.new other inList with ⟨old, inListOld, sameOld⟩ | isNext
    · obtain rfl := only old inListOld (sameOld.trans same)
      exact turn.worked.loaded old inListOld isLoaded other inList same
    · exact absurd used (by rw [← same, isNext]; exact Nat.lt_irrefl _)

theorem Lasting.later (lasting : Lasting space session) (isLoaded : space.loaded = true)
    (reachable : Reachable session) (later : ReflTransGen Step session session') :
    Lasting space session' := by
  induction later with
  | refl => exact lasting
  | tail earlier step ih => exact ih.step isLoaded step (reachable.later earlier).atRest

/-- As long as a loaded space lives its record stays as it is, its segments are apart
and translate exactly its regions and its stack, and its tables give the same physical
addresses, as the machine answers when it is asked. The steps that follow do not use an
identity again, and so no later space is taken for this one. -/
theorem segmentsAgree_of_later (reachable : Reachable session)
    (inList : space ∈ session.machine.spaces) (isLoaded : space.loaded = true)
    (later : ReflTransGen Step session session') :
    ∀ other ∈ session'.machine.spaces, other.id = space.id →
      other = space ∧ SegmentsAgree space session'.machine.memory.ram ∧
      ∀ address, (translate space.id address : Operation VmError _ _).run session'.machine =
        ⟨.value (session'.machine.memory.ram.translate space.directory address),
          session'.machine, []⟩ := by
  intro other inListOther same
  have begun : Lasting space session := lasting_of_mem reachable.atRest inList
  obtain rfl := (begun.later isLoaded reachable later).only other inListOther same
  have answers := (reachable.later later).run_translate inListOther
  obtain ⟨stealer, machine, isMachine, settled⟩ := (reachable.later later).atRest
  rw [isMachine] at inListOther answers ⊢
  exact ⟨rfl, (settled.holds other inListOther).segmentsAgree settled.ready isLoaded, answers⟩

/-- After the space of a small run was loaded, one more of its pages is backed. -/
theorem segmentsAgree_of_later_laden :
    ∃ session session' space page, Reachable session ∧ session.machine.spaces = [space] ∧
      space.loaded = true ∧ ReflTransGen Step session session' ∧
      session'.machine.spaces = [space] ∧
      session.machine.memory.ram.page? space.directory page = none ∧
      session'.machine.memory.ram.page? space.directory page ≠ none ∧
      SegmentsAgree space session'.machine.memory.ram ∧
      ∀ address, (translate space.id address : Operation VmError _ _).run session'.machine =
        ⟨.value (session'.machine.memory.ram.translate space.directory address),
          session'.machine, []⟩ := by
  obtain ⟨session, space, reachable, laden, _, outside⟩ := exists_laden_apart
  obtain ⟨session', frame, step, alone, _, mapped, _⟩ :=
    laden.exists_backed reachable outside (by decide) (by decide)
  have later : ReflTransGen Step session session' := .single step
  have inList' : space ∈ session'.machine.spaces := alone ▸ List.mem_singleton_self space
  obtain ⟨_, agree, answers⟩ :=
    segmentsAgree_of_later reachable laden.mem_spaces laden.isLoaded later space inList' rfl
  exact ⟨session, session', space, _, reachable, laden.alone, laden.isLoaded, later, alone,
    not_not.mp (mt (laden.mapped _) outside), mapped ▸ Option.some_ne_none frame, agree, answers⟩

end Session

end PagedMemory
