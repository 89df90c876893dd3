import PagedMemory.Proofs.Machine.Run
import PagedMemory.Proofs.Space.Regions

/-!
# The spaces of a run

Each space of a machine was created or copied, and changes only by the definition of a region
and by loading. So every space in a run is one of those that there can be, and lies as these do.
-/

namespace PagedMemory

open Operation

namespace Machine

variable {ε σ π α : Type} {source : FrameSource σ} {machine machine' : Machine σ}
  {shown : List Event}

/-- Every space of a machine is one that there can be. -/
def Peopled (machine : Machine σ) : Prop :=
  ∀ space ∈ machine.spaces, space.Reached

/-! ## Parts of requests -/

theorem run_of_onMemory {op : Operation ε (Memory σ) α} {a : α}
    (run : (onMemory op).run machine = ⟨.value a, machine', shown⟩) :
    ∃ memory, op.run machine.memory = ⟨.value a, memory, shown⟩ := by
  rcases machine with ⟨memory, spaces, interrupts, firstTlb, secondTlb, context⟩
  simp only [Operation.run, onMemory] at run ⊢
  generalize op memory = outcome at run ⊢
  rcases outcome with ⟨result, memory', shown'⟩
  cases run
  exact ⟨_, rfl⟩

theorem mem_spaces_of_run_findSpace {id : SpaceId} {space : AddressSpace}
    (run : (findSpace id : Operation ε (Machine σ) AddressSpace).run machine =
      ⟨.value space, machine', shown⟩) : space ∈ machine.spaces := by
  unfold Operation.run findSpace at run
  split at run
  · next found =>
    cases run
    exact List.mem_of_find?_eq_some found
  · cases run

theorem peopled_onMemory {op : Operation ε (Memory σ) α} : (onMemory op).Preserves Peopled := by
  rintro ⟨memory, spaces, interrupts, firstTlb, secondTlb, context⟩ peopled
  exact peopled

theorem peopled_findSpace (id : SpaceId) :
    (findSpace id : Operation ε (Machine σ) AddressSpace).Preserves Peopled := by
  refine .still fun machine => ?_
  unfold Operation.run findSpace
  split <;> rfl

theorem peopled_findSpace_bind {id : SpaceId} {next : AddressSpace → Operation ε (Memory σ) α} :
    (do let space ← findSpace id; onMemory (next space) : Operation ε (Machine σ) α).Preserves
      Peopled :=
  .bind (peopled_findSpace id) fun _ => peopled_onMemory

theorem peopled_addSpace {space : AddressSpace} (reached : space.Reached) :
    (do addSpace space; return space : Operation ε (Machine σ) AddressSpace).Preserves
      Peopled := by
  refine .bind (.change fun machine peopled other inList => ?_) fun _ => .pure _
  rcases List.mem_append.mp inList with old | new
  · exact peopled other old
  · rw [List.mem_singleton.mp new]
    exact reached

theorem peopled_build {op : Operation ε (Building σ) α} (id : SpaceId)
    (kept : op.Preserves fun building => building.space.Reached) :
    (build id op).Preserves Peopled := by
  rintro ⟨memory, spaces, interrupts, firstTlb, secondTlb, context⟩ peopled
  unfold Operation.run build
  split
  · exact peopled
  · next space found =>
    have reached := kept ⟨memory, space⟩ (peopled space (List.mem_of_find?_eq_some found))
    intro other inList
    obtain ⟨old, inListOld, rfl⟩ := List.mem_map.mp inList
    split
    · exact reached
    · exact peopled old inListOld

/-! ## Requests -/

theorem peopled_create : (create source).Preserves Peopled := by
  refine .bind_of_run peopled_onMemory fun machine space machine' _ _ run peopled => ?_
  obtain ⟨memory, created⟩ := run_of_onMemory run
  exact peopled_addSpace (.create created) machine' peopled

theorem peopled_define (id : SpaceId) (address : VirtAddr) (size : Nat) (flags : RegionFlags) :
    (define id address size flags : Operation _ (Machine σ) _).Preserves Peopled :=
  peopled_build id fun _ reached => reached.define address size flags

theorem peopled_prepareLoad (id : SpaceId) : (prepareLoad source id).Preserves Peopled :=
  peopled_build id fun building reached => reached.prepareLoad source building.memory

theorem peopled_copy (id : SpaceId) : (copy source id).Preserves Peopled := by
  refine .bind_of_run (peopled_findSpace id) fun machine parent after _ peopled found now => ?_
  have reached := peopled parent (mem_spaces_of_run_findSpace found)
  refine Preserves.bind_of_run peopled_onMemory ?_ after now
  intro _ child machine' _ _ run peopled
  obtain ⟨memory, copied⟩ := run_of_onMemory run
  exact peopled_addSpace (.copy reached copied) machine' peopled

theorem peopled_destroy (id : SpaceId) :
    (destroy source id : Operation ε (Machine σ) Unit).Preserves Peopled := by
  refine .bind (peopled_findSpace id) fun space => .bind (.change ?_) fun _ => peopled_onMemory
  exact fun machine peopled other inList => peopled other (List.mem_of_mem_filter inList)

theorem peopled_sourced
    {op : FrameSource (Coremap NoEviction) → Operation SpaceError (Machine (Coremap NoEviction)) α}
    (kept : ∀ source, (op source).Preserves Peopled) : (sourced op).Preserves Peopled := by
  refine .bind (.read _) fun running => ?_
  rintro ⟨⟨⟨stealer, _ | coremap⟩, ram, nextSpace⟩, spaces, interrupts, firstTlb, secondTlb,
    context⟩ peopled
  · exact peopled
  · exact (kept (Coremap.source (some running))).mapError
      ⟨⟨coremap, ram, nextSpace⟩, spaces, interrupts, firstTlb, secondTlb, context⟩ peopled

end Machine

theorem Request.peopled (request : Request) : request.perform.Preserves Machine.Peopled := by
  cases request with
  | create =>
    exact .bind (Machine.peopled_sourced fun _ => Machine.peopled_create) fun _ => .pure _
  | define id address size flags =>
    exact .bind (Machine.peopled_define id address size flags).mapError fun _ => .pure _
  | prepareLoad id =>
    exact .bind (Machine.peopled_sourced fun _ => Machine.peopled_prepareLoad id) fun _ => .pure _
  | walk | materialize =>
    exact .bind (Machine.peopled_sourced fun _ => Machine.peopled_findSpace_bind) fun _ => .pure _
  | copy id =>
    exact .bind (Machine.peopled_sourced fun _ => Machine.peopled_copy id) fun _ => .pure _
  | destroy id =>
    exact .bind (Machine.peopled_sourced fun _ => Machine.peopled_destroy id) fun _ => .pure _
  | allocPages | freePages =>
    exact .bind (.bind (.read _) fun _ => Machine.peopled_onMemory) fun _ => .pure _
  | writeBytes id address values =>
    refine .bind (.bind Machine.peopled_findSpace_bind fun found => ?_) fun _ => .pure _
    split
    · exact .pure _
    · exact .bind Machine.peopled_onMemory fun _ => .pure _

namespace Session

variable {session : Session}

/-- Every space of a run is one that there can be. -/
theorem Reachable.peopled (reachable : Reachable session) : session.machine.Peopled := by
  induction reachable with
  | @boot machine booted shown empty covers built =>
    have none : machine.Peopled := by
      rw [Machine.Peopled, empty]
      exact nofun
    have kept : ((Machine.bootstrap NoEviction.mk).run machine).state.Peopled :=
      Machine.peopled_onMemory machine none
    rwa [built] at kept
  | @step session _ _ step ih =>
    obtain ⟨context, request, permitted, noPanic, noWrap⟩ := step
    rw [machine_after]
    exact request.peopled { session.machine with context := context } ih

end Session

end PagedMemory
