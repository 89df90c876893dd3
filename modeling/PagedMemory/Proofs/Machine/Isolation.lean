import PagedMemory.Proofs.Machine.Fork

/-!
# Spaces are isolated

Whatever a machine is asked for, and however it ends, every space that the request is
not about lives on undisturbed: its record, what it maps, and the bytes of its pages.
Frames pass from one space to another in between, but a page that a space gains is
clear, whatever its frame held before.
-/

namespace PagedMemory

namespace Session

open Machine

variable {session : Session} {request : Request} {context : Context}

/-- In every state of a run, a permitted request disturbs no space that it is not
about, whether it succeeds, fails or panics. If it succeeds, the pages that any space
maps then and did not map before are clear. Neither in the run nor in the request does
an identity of a block or of a space come round again. -/
theorem isolated_of_reachable (reachable : Reachable session)
    (permitted : session.Permitted request)
    {outcome : Outcome VmError (Machine (FrameSupply NoEviction)) (Option VirtAddr)}
    (run : session.outcome context request = outcome)
    (noWrap : session.NoWrap request outcome.events) :
    (∀ space ∈ session.machine.spaces, request.target? ≠ some space.id →
      Undisturbed space outcome.state.spaces session.machine.memory.ram outcome.state.memory.ram) ∧
    (∀ answer, outcome.result = .value answer → ∀ space ∈ session.machine.spaces,
      ∀ space' ∈ outcome.state.spaces, space'.id = space.id → ∀ address frame,
        session.machine.memory.ram.lookup space.directory address = none →
        outcome.state.memory.ram.lookup space'.directory address = some frame →
        outcome.state.memory.ram.ClearFrame frame) := by
  rw [← run] at noWrap
  obtain ⟨stealer, machine, machine', turn⟩ := exists_turn reachable.atRest permitted noWrap
  rw [run] at turn
  rw [turn.before, turn.after]
  constructor
  · intro space inList notTarget
    have others := Request.owner_ne_worker (turn.settled.id_ne_next inList) notTarget
    exact turn.worked.undisturbed inList others (turn.settled.holds space inList)
  · intro answer isValue space inList space' inList' sameId address frame unmapped mapped
    obtain ⟨_, gains⟩ := turn.value answer isValue
    rw [Ram.lookup_eq_page?] at unmapped mapped
    rw [turn.worked.directory space inList space' inList' sameId] at mapped
    exact turn.worked.clear_of_gained gains inList (turn.settled.holds space inList) unmapped mapped

/-- A space with a page is not disturbed when its copy is given another, which is clear. -/
theorem isolated_of_reachable_copied :
    ∃ (session : Session) (parent child : AddressSpace) (page : VirtPage) (address : VirtAddr)
        (frame : Frame), Reachable session ∧ session.machine.spaces = [parent, child] ∧
      session.machine.memory.ram.page? parent.directory page ≠ none ∧
      let outcome := session.outcome ⟨1, false⟩ (.materialize child.id address)
      outcome.result = .value none ∧
      Undisturbed parent outcome.state.spaces session.machine.memory.ram outcome.state.memory.ram ∧
      session.machine.memory.ram.lookup child.directory address = none ∧
      outcome.state.memory.ram.lookup child.directory address = some frame ∧
      outcome.state.memory.ram.ClearFrame frame := by
  obtain ⟨parent, blank⟩ := exists_blank_opened
  obtain ⟨before, reachableBefore, paged⟩ :=
    blank.exists_paged reachable_opened.1 (.ofNat 0x1000) (by decide) (by decide)
  obtain ⟨child, machine', shown, copies, noWrapCopy, both, different, mapped, others, stocked⟩ :=
    paged.exists_copy reachableBefore (by decide) (by decide)
  obtain ⟨session, reachable, rfl, notFailed⟩ : ∃ session : Session, Reachable session ∧
      session.machine = machine' ∧ session.failed = [] :=
    ⟨_, reachableBefore.act_of_sourced (.copy parent.id) trivial rfl copies noWrapCopy, rfl,
      paged.notFailed⟩
  have stocked := stocked session rfl
  have isParent : parent ∈ session.machine.spaces := by simp [both]
  have isChild : child ∈ session.machine.spaces := by simp [both]
  have notRetried := reachable.not_mem_retried notFailed child.id
  let address : VirtAddr := .ofNat 0x2000
  have unmapped : session.machine.memory.ram.page? child.directory address.page = none :=
    others _ (by decide)
  obtain ⟨frame, backed, shown', backs, noWrap, sameSpaces, isMapped, _⟩ :=
    stocked.exists_backed reachable isChild notRetried address unmapped (by decide) (by decide)
  have ended : session.outcome ⟨1, false⟩ (.materialize child.id address) = _ :=
    outcome_eq_of_sourced rfl backs
  have permitted : session.Permitted (.materialize child.id address) := trivial
  obtain ⟨undisturbed, gained⟩ := isolated_of_reachable reachable permitted ended noWrap
  refine ⟨session, parent, child, _, address, frame, reachable, both, mapped, ?_⟩
  rw [ended]
  refine ⟨rfl, undisturbed parent isParent fun same => different (Option.some.inj same), ?_⟩
  rw [Ram.lookup_eq_page?, Ram.lookup_eq_page?]
  refine ⟨unmapped, isMapped, gained _ rfl child isChild child ?_ rfl address frame ?_ ?_⟩
  · exact sameSpaces ▸ isChild
  · rw [Ram.lookup_eq_page?, unmapped]
  · rw [Ram.lookup_eq_page?]
    exact isMapped

end Session

end PagedMemory
