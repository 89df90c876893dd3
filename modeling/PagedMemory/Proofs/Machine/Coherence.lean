import PagedMemory.Proofs.Machine.Agreement
import PagedMemory.Proofs.Machine.Preserving
import PagedMemory.Proofs.Machine.Processors
import PagedMemory.Proofs.Tlb.Filling

/-!
# The lookaside buffer follows the current space

One processor of a machine is watched while spaces come and go. A loaded space that
lives can be made current on it, and lives as long as it is current. Misses are those
of threads that run in the current space, or in none. Then a valid slot never says
anything else than the tables of the current space do: what it says was put there
since that space was last made current, and what the space's segments say lasts.
-/

namespace PagedMemory

open Machine

/-! ## What lasts in a session -/

namespace AtRest

variable {machine : Machine (FrameSupply NoEviction)} {held : List VirtAddr}
  {failed retried : List SpaceId}

theorem distinct (atRest : AtRest machine held failed retried) : Distinct machine.spaces := by
  obtain ⟨stealer, inner, rfl, settled⟩ := atRest
  exact settled.distinct

/-- Rest is no matter of the processors. -/
theorem withTlb (atRest : AtRest machine held failed retried) (cpu : CpuName) (tlb : Tlb) :
    AtRest (machine.withTlb cpu tlb) held failed retried := by
  obtain ⟨stealer, inner, rfl, settled⟩ := atRest
  refine ⟨stealer, inner.withTlb cpu tlb, ?_, ?_⟩
  · cases cpu <;> rfl
  · rw [memory_withTlb, spaces_withTlb]
    exact settled

end AtRest

namespace Session

variable {session session' : Session} {ids : List SpaceId} {space : AddressSpace}

/-- However a request ends, the lookaside buffers are as before, and spaces that it does
not destroy live on. -/
theorem retains_after
    (atRest : AtRest session.machine session.held session.failed session.retried)
    (context : Context) {request : Request} (others : ∀ id, request = .destroy id → id ∉ ids)
    (live : ∀ id ∈ ids, ∃ space ∈ session.machine.spaces, space.id = id) :
    Retains (FrameSupply.Meets (Coremap.Guarded .free)) session.machine.tlb ids
      (session.after request (session.outcome context request)).machine := by
  rw [machine_after]
  refine request.preserves_perform others _ ⟨?_, rfl, live⟩
  obtain ⟨stealer, inner, isMachine, settled⟩ := atRest
  have sound := settled.ready.coremap.sound
  rw [isMachine]
  rintro _ ⟨⟩
  refine ⟨sound.unlocked, sound.few, fun i owner block size recorded => ?_⟩
  obtain ⟨_, live, _⟩ := sound.tiled.covered i owner block size recorded
  exact live.nonempty

/-- No step touches the lookaside buffers. -/
theorem Step.tlb_eq (step : Step session session')
    (atRest : AtRest session.machine session.held session.failed session.retried) :
    session'.machine.tlb = session.machine.tlb := by
  obtain ⟨context, request, _, _, _⟩ := step
  have others (id : SpaceId) (_ : request = .destroy id) : id ∉ [] := List.not_mem_nil
  exact (retains_after atRest context others nofun).tlb

/-- What the segments of a loaded space say of a page of a program, its tables say too. -/
theorem lookup_of_atRest {machine : Machine (FrameSupply NoEviction)} {held : List VirtAddr}
    {failed retried : List SpaceId} (atRest : AtRest machine held failed retried)
    (inList : space ∈ machine.spaces) (isLoaded : space.loaded = true) {page : VirtPage}
    {target : PhysAddr} (translated : space.segments.translate page.base = .ok (some target)) :
    page.number < 0x80000 ∧
      (lookup space.id page.base : Operation VmError _ _).run machine =
        ⟨.value (some target.page), machine, []⟩ := by
  have answers := run_lookup_of_atRest atRest inList page.base
  obtain ⟨stealer, inner, rfl, settled⟩ := atRest
  have holds := settled.holds space inList
  have below := holds.shaped.page_below translated
  rw [Page.page_base] at below
  obtain ⟨answer, isAnswer, _, agree⟩ :=
    (holds.segmentsAgree settled.ready isLoaded).translate page.base
  obtain rfl : answer = some target := Except.ok.inj (isAnswer.symm.trans translated)
  obtain ⟨frame, mapped, rfl⟩ := Option.map_eq_some_iff.mp (agree target rfl)
  rw [Page.page_join, ← mapped]
  exact ⟨below, answers⟩

end Session

/-! ## A processor that is watched -/

/-- A session with what is known about one processor. -/
structure Watch where
  session : Session
  /-- The space that is current on the processor. -/
  current : Option SpaceId
  /-- How often some space was made current. -/
  activations : Nat
  /-- How often this had happened when a slot came to hold what it holds. -/
  filled : Nat → Nat

namespace Watch

variable {cpu : CpuName} {watch watch' : Watch}

/-- The lookaside buffer of the processor. -/
def tlb (watch : Watch) (cpu : CpuName) : Tlb :=
  watch.session.machine.tlb cpu

/-- The watch goes on. What differs from what a slot held is new. -/
def next (watch : Watch) (cpu : CpuName) (session : Session) (current : Option SpaceId)
    (activations : Nat) : Watch where
  session := session
  current := current
  activations := activations
  filled slot :=
    if (session.machine.tlb cpu).slots[slot]? = (watch.tlb cpu).slots[slot]? then watch.filled slot
    else activations

/-- The session after its machine has done something. -/
def ranOn {ε α : Type} (watch : Watch) (op : Operation ε (Machine (FrameSupply NoEviction)) α) :
    Session :=
  { watch.session with machine := (op.run watch.session.machine).state }

/-- One more step: some request that does not destroy the current space, a loaded space
that is made current, or a miss of a thread in the current space or in none. In a request no
identity of a block or of a space comes round again. -/
inductive Step (cpu : CpuName) (watch : Watch) : Watch → Prop where
  | request (context : Context) (request : Request) (permitted : watch.session.Permitted request)
      (noPanic : ∀ cause, (watch.session.outcome context request).result ≠ .panic cause)
      (noWrap : watch.session.NoWrap request (watch.session.outcome context request).events)
      (stays : ∀ id, watch.current = some id → request ≠ .destroy id) :
      Step cpu watch (watch.next cpu
        (watch.session.after request (watch.session.outcome context request)) watch.current
        watch.activations)
  | activate {space : AddressSpace} (inList : space ∈ watch.session.machine.spaces)
      (isLoaded : space.loaded = true) :
      Step cpu watch (watch.next cpu
        (watch.ranOn (activate space.id cpu : Operation VmError _ Unit)) (some space.id)
        (watch.activations + 1))
  | fault (hasProcess : Bool) (id : Option SpaceId) (mine : id = none ∨ id = watch.current)
      (code : Nat) (address : VirtAddr) :
      Step cpu watch (watch.next cpu (watch.ranOn (handleFault cpu hasProcess id code address))
        watch.current watch.activations)

/-- What can be watched from some state of a run on, in which no slot of the processor has
been used. -/
inductive Reachable (cpu : CpuName) : Watch → Prop where
  | start {session : Session} (reachable : session.Reachable)
      (idle : session.machine.tlb cpu = .idle Layout.tlbSlots) :
      Reachable cpu ⟨session, none, 0, fun _ => 0⟩
  | step {watch watch' : Watch} (reachable : Reachable cpu watch) (step : Step cpu watch watch') :
      Reachable cpu watch'

/-! ## The invariant -/

/-- The segments of the current space map a page to a frame. -/
def Maps (watch : Watch) (page : VirtPage) (frame : Frame) : Prop :=
  ∃ space ∈ watch.session.machine.spaces, watch.current = some space.id ∧
    ∃ target, space.segments.translate page.base = .ok (some target) ∧ target.page = frame

/-- What a miss may make of the machine: it is as before, or it has one more mapping of the
current space. -/
def Refilled (watch : Watch) (cpu : CpuName) (machine' : Machine (FrameSupply NoEviction)) :
    Prop :=
  machine' = watch.session.machine ∨ ∃ page frame slot old, watch.Maps page frame ∧
    (watch.tlb cpu).Offers page slot old ∧
    machine' = watch.session.machine.withTlb cpu ((watch.tlb cpu).set slot (.mapping page frame))

/-- The lookaside buffer holds mappings of the current space and no older ones. -/
structure Coherent (cpu : CpuName) (watch : Watch) : Prop where
  atRest : AtRest watch.session.machine watch.session.held watch.session.failed
    watch.session.retried
  lives : ∀ id, watch.current = some id →
    ∃ space ∈ watch.session.machine.spaces, space.id = id
  loaded : ∀ space ∈ watch.session.machine.spaces, watch.current = some space.id →
    space.loaded = true
  filled : (watch.tlb cpu).Filled watch.Maps
  fresh : ∀ (slot : Nat) (entry : TlbEntry), (watch.tlb cpu).slots[slot]? = some entry →
    entry.lo.isValid = true → watch.filled slot = watch.activations

namespace Coherent

/-- As long as no space is made current, whatever a slot gets is fresh. -/
theorem fresh_next (coherent : watch.Coherent cpu) {session : Session}
    {current : Option SpaceId} (slot : Nat) (entry : TlbEntry)
    (found : (session.machine.tlb cpu).slots[slot]? = some entry)
    (isValid : entry.lo.isValid = true) :
    (watch.next cpu session current watch.activations).filled slot = watch.activations := by
  unfold next
  dsimp only
  split
  · next same => exact coherent.fresh slot entry (same ▸ found) isValid
  · rfl

/-- A request that does not destroy the current space leaves its record as it is, and so
what its segments say. -/
theorem request (coherent : watch.Coherent cpu) {context : Context} {request : Request}
    (permitted : watch.session.Permitted request)
    (noPanic : ∀ cause, (watch.session.outcome context request).result ≠ .panic cause)
    (noWrap : watch.session.NoWrap request (watch.session.outcome context request).events)
    (stays : ∀ id, watch.current = some id → request ≠ .destroy id) :
    (watch.next cpu (watch.session.after request (watch.session.outcome context request))
      watch.current watch.activations).Coherent cpu := by
  have step : watch.session.Step _ := .act context request permitted noPanic noWrap
  have others (id : SpaceId) (destroys : request = .destroy id) : id ∉ watch.current.toList :=
    fun inList => stays id (Option.mem_toList.mp inList) destroys
  have retains := Session.retains_after coherent.atRest context others
    fun id inList => coherent.lives id (Option.mem_toList.mp inList)
  have lasting {space : AddressSpace} (inList : space ∈ watch.session.machine.spaces)
      (isCurrent : watch.current = some space.id) :=
    (Session.lasting_of_mem coherent.atRest inList).step (coherent.loaded space inList isCurrent)
      step coherent.atRest
  constructor
  case atRest => exact step.atRest coherent.atRest
  case lives => exact fun id isCurrent => retains.live id (Option.mem_toList.mpr isCurrent)
  case loaded =>
    intro space inList isCurrent
    obtain ⟨old, inListOld, sameId⟩ := coherent.lives space.id isCurrent
    have isOldCurrent : watch.current = some old.id := sameId ▸ isCurrent
    obtain rfl := (lasting inListOld isOldCurrent).only space inList sameId.symm
    exact coherent.loaded space inListOld isCurrent
  case filled =>
    have sameTlb := congrFun retains.tlb cpu
    unfold tlb next
    rw [sameTlb]
    refine coherent.filled.mono ?_
    rintro page frame ⟨space, inList, isCurrent, mapped⟩
    obtain ⟨now, inListNow, sameId⟩ := retains.live space.id (Option.mem_toList.mpr isCurrent)
    obtain rfl := (lasting inList isCurrent).only now inListNow sameId
    exact ⟨now, inListNow, isCurrent, mapped⟩
  case fresh => exact coherent.fresh_next

/-- A space that is made current finds no mapping in the buffer. -/
theorem machine_activate (coherent : watch.Coherent cpu) {space : AddressSpace}
    (inList : space ∈ watch.session.machine.spaces) :
    (watch.ranOn (Machine.activate space.id cpu : Operation VmError _ Unit)).machine =
      watch.session.machine.withTlb cpu (.idle Layout.tlbSlots) := by
  have size : (watch.session.machine.tlb cpu).slots.size = Layout.tlbSlots :=
    coherent.filled.size
  have few : (watch.session.machine.tlb cpu).slots.size ≤ 0x80000 := by
    rw [size]
    decide
  obtain ⟨_, _, _, run, rfl⟩ := Operation.exists_value_of_ends (ε := VmError)
    fun _ => ends_activate coherent.atRest.distinct inList few
  rw [ranOn, run, size]

theorem activate (coherent : watch.Coherent cpu) {space : AddressSpace}
    (inList : space ∈ watch.session.machine.spaces) (isLoaded : space.loaded = true) :
    (watch.next cpu (watch.ranOn (Machine.activate space.id cpu : Operation VmError _ Unit))
      (some space.id) (watch.activations + 1)).Coherent cpu := by
  have emptied := coherent.machine_activate inList
  constructor
  case atRest => exact emptied ▸ coherent.atRest.withTlb cpu _
  case lives =>
    rintro _ ⟨⟩
    refine ⟨space, ?_, rfl⟩
    rwa [next, emptied, spaces_withTlb]
  case loaded =>
    intro other inListOther isCurrent
    rw [next, emptied, spaces_withTlb] at inListOther
    have sameId : other.id = space.id := (Option.some.inj isCurrent).symm
    exact coherent.atRest.distinct other inListOther space inList sameId ▸ isLoaded
  case filled =>
    rw [tlb, next, emptied, tlb_withTlb]
    exact Tlb.filled_idle
  case fresh =>
    intro slot entry found isValid
    rw [tlb, next, emptied, tlb_withTlb] at found
    simp [Tlb.entry_of_idle found, TlbEntry.idle] at isValid

/-- A miss is resolved from the segments of the current space, if at all. -/
theorem refilled_handleFault (coherent : watch.Coherent cpu) {hasProcess : Bool}
    {id : Option SpaceId} (mine : id = none ∨ id = watch.current) (code : Nat)
    (address : VirtAddr) : watch.Refilled cpu (watch.ranOn
      (handleFault cpu hasProcess id code address)).machine := by
  refine Operation.state_of_ends fun left => ?_
  rcases id with _ | id
  · refine ends_handleFault_none.mono ?_ ?_ ?_
    · rintro _ _ _ ⟨_, _, _, _, absent, _⟩
      cases absent
    · exact fun _ _ _ ⟨same, _⟩ => .inl same
    · exact fun _ _ ⟨same, _⟩ => .inl same
  · have isCurrent : watch.current = some id := (mine.resolve_left nofun).symm
    obtain ⟨space, inList, rfl⟩ := coherent.lives id isCurrent
    refine (ends_handleFault_of_mem coherent.atRest.distinct inList).mono ?_ ?_ ?_
    · rintro _ machine' _ ⟨_, target, slot, old, ⟨⟩, translated, rfl, offers, isAfter⟩
      refine .inr ⟨address.page, target.page, slot, old, ?_, offers, isAfter⟩
      exact ⟨space, inList, isCurrent, target, translated, rfl⟩
    · exact fun _ _ _ ⟨same, _⟩ => .inl same
    · exact fun _ _ ⟨same, _⟩ => .inl same

/-- One more mapping of the current space keeps the buffer coherent. -/
theorem of_refilled (coherent : watch.Coherent cpu)
    {machine' : Machine (FrameSupply NoEviction)} (refilled : watch.Refilled cpu machine') :
    (watch.next cpu { watch.session with machine := machine' } watch.current
      watch.activations).Coherent cpu := by
  obtain rfl | ⟨page, frame, slot, old, mapped, offers, rfl⟩ := refilled
  · exact ⟨coherent.atRest, coherent.lives, coherent.loaded, coherent.filled,
      coherent.fresh_next⟩
  · have sameSpaces : (watch.session.machine.withTlb cpu
        ((watch.tlb cpu).set slot (.mapping page frame))).spaces = watch.session.machine.spaces :=
      spaces_withTlb
    refine ⟨coherent.atRest.withTlb cpu _, ?_, ?_, ?_, coherent.fresh_next⟩
    · intro id isCurrent
      exact sameSpaces ▸ coherent.lives id isCurrent
    · intro space inList isCurrent
      exact coherent.loaded space (sameSpaces ▸ inList) isCurrent
    · unfold tlb next
      rw [tlb_withTlb]
      refine (coherent.filled.set offers mapped).mono ?_
      rintro page' frame' ⟨space, inList, rest⟩
      exact ⟨space, sameSpaces.symm ▸ inList, rest⟩

end Coherent

theorem Step.coherent (step : Step cpu watch watch') (coherent : watch.Coherent cpu) :
    watch'.Coherent cpu := by
  cases step with
  | request context request permitted noPanic noWrap stays =>
    exact coherent.request permitted noPanic noWrap stays
  | activate inList isLoaded => exact coherent.activate inList isLoaded
  | fault hasProcess id mine code address =>
    exact coherent.of_refilled (coherent.refilled_handleFault mine code address)

/-- In whatever is watched, the lookaside buffer follows the current space. -/
theorem Reachable.coherent (reachable : Reachable cpu watch) : watch.Coherent cpu := by
  induction reachable with
  | start reachable idle =>
    refine ⟨reachable.atRest, nofun, nofun, ?_, fun slot entry _ _ => rfl⟩
    unfold tlb
    rw [idle]
    exact Tlb.filled_idle
  | step _ step ih => exact step.coherent ih

/-- No two slots name the same page. A valid slot permits stores, holds what it was given
since the current space was made current, and maps its page as that space does. This lasts as
long as no identity of a block or of a space comes round again. -/
theorem tlb_coherent_of_reachable (reachable : Reachable cpu watch) :
    let machine := watch.session.machine
    let slots := (machine.tlb cpu).slots
    slots.size = Layout.tlbSlots ∧
    (∀ (slot slot' : Nat) (entry entry' : TlbEntry), slots[slot]? = some entry →
      slots[slot']? = some entry' → slot ≠ slot' → entry.hi.page ≠ entry'.hi.page) ∧
    ∀ (slot : Nat) (entry : TlbEntry), slots[slot]? = some entry → entry.lo.isValid = true →
      entry.lo.isDirty = true ∧ watch.filled slot = watch.activations ∧
      ∃ space ∈ machine.spaces, watch.current = some space.id ∧
        (lookup space.id entry.hi.page.base : Operation VmError _ _).run machine =
          ⟨.value (some entry.lo.frame), machine, []⟩ := by
  obtain ⟨atRest, _, loaded, filled, fresh⟩ := reachable.coherent
  refine ⟨filled.size, ?_, ?_⟩
  · intro slot slot' entry entry' found found' different
    refine filled.page_ne ?_ found found' different
    rintro page frame ⟨space, inList, isCurrent, target, translated, _⟩
    have isLoaded := loaded space inList isCurrent
    exact (Session.lookup_of_atRest atRest inList isLoaded translated).1
  · intro slot entry found isValid
    obtain ⟨isDirty, space, inList, isCurrent, target, translated, isFrame⟩ :=
      filled.valid found isValid
    have isLoaded := loaded space inList isCurrent
    obtain ⟨_, answers⟩ := Session.lookup_of_atRest atRest inList isLoaded translated
    exact ⟨isDirty, fresh slot entry found isValid, space, inList, isCurrent, isFrame ▸ answers⟩

/-- A miss on a page of a loaded space is resolved as long as a slot is not valid. -/
theorem exists_resolved {machine : Machine (FrameSupply NoEviction)} {held : List VirtAddr}
    {failed retried : List SpaceId} (atRest : AtRest machine held failed retried)
    {space : AddressSpace} (inList : space ∈ machine.spaces) (isLoaded : space.loaded = true)
    {address : VirtAddr} (spans : space.Spans address.page.base) {slot : Nat} {entry : TlbEntry}
    (found : (machine.tlb cpu).slots[slot]? = some entry) (invalid : entry.lo.isValid = false) :
    ∃ frame slot old, (machine.tlb cpu).slots[slot]? = some old ∧
      ((handleFault cpu true (some space.id) 0 address).run machine).state =
        machine.withTlb cpu ((machine.tlb cpu).set slot (.mapping address.page frame)) := by
  have distinct := atRest.distinct
  obtain ⟨answer, translated, isSome⟩ : ∃ answer,
      space.segments.translate address.page.base = .ok answer ∧ answer.isSome = true := by
    obtain ⟨stealer, inner, rfl, settled⟩ := atRest
    have agree := (settled.holds space inList).segmentsAgree settled.ready isLoaded
    obtain ⟨answer, translated, isSome_iff, _⟩ := agree.translate address.page.base
    exact ⟨answer, translated, isSome_iff.mpr spans⟩
  have ends (left : Nat) : (handleFault cpu true (some space.id) 0 address).Ends left machine
      ⟨fun frame machine' _ => ∃ slot old, (machine.tlb cpu).slots[slot]? = some old ∧
          machine' = machine.withTlb cpu
            ((machine.tlb cpu).set slot (.mapping address.page frame)),
        fun _ _ _ => False, fun _ _ => False⟩ := by
    refine (ends_handleFault_of_mem distinct inList).mono ?_ ?_ ?_
    · rintro frame machine' _ ⟨_, _, slot, old, _, _, _, offers, isAfter⟩
      exact ⟨slot, old, offers.found, isAfter⟩
    · rintro e _ _ ⟨_, refuses⟩
      cases refuses with
      | unknownKind unknown => cases unknown
      | noProcess absent => cases absent
      | noSpace absent => cases absent
      | badAddress present outside =>
        cases present
        obtain rfl := Except.ok.inj (translated.symm.trans outside)
        cases isSome
      | tlbFull full =>
        cases invalid.symm.trans (full slot entry found)
    · rintro _ _ ⟨_, isReadOnly | ⟨_, _, ⟨⟩, broken⟩⟩
      · cases isReadOnly
      · cases translated.symm.trans broken
  obtain ⟨frame, _, _, run, slot, old, found, rfl⟩ := Operation.exists_value_of_ends ends
  exact ⟨frame, slot, old, found, by rw [run]⟩

/-- A space can be loaded and made current. -/
theorem exists_activated :
    ∃ watch space, Reachable .first watch ∧ space ∈ watch.session.machine.spaces ∧
      space.loaded = true ∧ watch.current = some space.id ∧ watch.activations = 1 ∧
      watch.session.machine.tlb .first = .idle Layout.tlbSlots := by
  have reachableOpened := Session.reachable_opened.1
  obtain ⟨ready, _, stepReady, loadable⟩ := Session.exists_step_loadable
  have reachableReady := reachableOpened.step stepReady
  obtain ⟨session, space, stepLoaded, _, laden⟩ :=
    loadable.exists_laden reachableReady (by decide)
  have ⟨alone, _, isLoaded, _, _⟩ := laden
  have idle : session.machine.tlb .first = .idle Layout.tlbSlots := by
    rw [stepLoaded.tlb_eq reachableReady.atRest, stepReady.tlb_eq reachableOpened.atRest]
    decide +kernel
  have inList : space ∈ session.machine.spaces := alone ▸ List.mem_singleton_self space
  have started : Reachable .first ⟨session, none, 0, fun _ => 0⟩ :=
    .start (reachableReady.step stepLoaded) idle
  have emptied := started.coherent.machine_activate inList
  refine ⟨_, space, started.step (.activate inList isLoaded), ?_, isLoaded, rfl, rfl, ?_⟩
  · rwa [next, emptied, spaces_withTlb]
  · rw [next, emptied, tlb_withTlb]

/-- A thread in a space that was made current misses the first page of its stack. -/
theorem tlb_coherent_of_reachable_resolved :
    ∃ watch slot entry, Reachable .first watch ∧ watch.activations = 1 ∧
      (watch.tlb .first).slots[slot]? = some entry ∧ entry.hi.page = stackBase ∧
      entry.lo.isValid = true ∧ entry.lo.isDirty = true ∧ watch.filled slot = 1 ∧
      ∃ space ∈ watch.session.machine.spaces, watch.current = some space.id ∧
        (lookup space.id stackBase.base : Operation VmError _ _).run watch.session.machine =
          ⟨.value (some entry.lo.frame), watch.session.machine, []⟩ := by
  obtain ⟨watch, space, reachable, inList, isLoaded, isCurrent, once, idle⟩ := exists_activated
  have spans : space.Spans stackBase.base.page.base :=
    .inr ⟨by decide, by decide⟩
  have unused : (watch.session.machine.tlb .first).slots[0]? = some (.idle 0) := by
    rw [idle]
    rfl
  obtain ⟨frame, slot, old, found, after⟩ := exists_resolved reachable.coherent.atRest inList
    isLoaded spans unused EntryLo.isValid_invalid
  have resolved := reachable.step
    (.fault true (some space.id) (.inr isCurrent.symm) 0 stackBase.base)
  have within := (Array.getElem?_eq_some_iff.mp found).1
  have mapped : ((watch.next .first (watch.ranOn (handleFault .first true (some space.id) 0
      stackBase.base)) watch.current watch.activations).tlb .first).slots[slot]? =
        some (.mapping stackBase frame) := by
    rw [tlb, next, ranOn, after, tlb_withTlb, Page.page_base]
    exact Tlb.getElem?_set_self within
  obtain ⟨_, _, valid⟩ := tlb_coherent_of_reachable resolved
  obtain ⟨isDirty, fresh, answers⟩ := valid slot _ mapped (EntryLo.isValid_writable frame)
  have isStack : (TlbEntry.mapping stackBase frame).hi.page = stackBase :=
    EntryHi.page_ofPage stackBase
  refine ⟨_, slot, _, resolved, once, mapped, isStack, EntryLo.isValid_writable frame, isDirty,
    fresh.trans once, ?_⟩
  rw [isStack] at answers
  exact answers

end Watch

end PagedMemory
