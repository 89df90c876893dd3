import PagedMemory.Proofs.Machine.Loading

/-!
# How loading answers

A space may have pages before it is loaded. Backing a page does not ask where it lies, so it
may be a page of a region or of the stack; and loading does not ask beforehand what is mapped.
It panics when it comes to a page that is, and says which. So a space is loaded only if it had
no such page. In all other cases loading reports that frames have run out, or panics at one.
-/

namespace PagedMemory

open Operation

variable {space : AddressSpace}

/-- How the loading of a space answers that had some pages. -/
inductive LoadAnswer (space : AddressSpace) (pages : VirtPage → Option Frame) :
    Result VmError Unit → Prop where
  /-- It returns only if no page was mapped that a segment is for. -/
  | returned (unmapped : ∀ page : VirtPage, space.Spans page.base → pages page = none) :
      LoadAnswer space pages (.value ())
  | starved (requested : Nat) :
      LoadAnswer space pages (.error (.space (.outOfMemory ⟨requested⟩)))
  /-- It panics only at a page that was mapped and that a segment is for. -/
  | refused (page : VirtPage) (spans : space.Spans page.base) (mapped : pages page ≠ none) :
      LoadAnswer space pages (.panic (.alreadyMapped page))

/-- A space that could be loaded but for one page of its segments, which is mapped, is not
loaded: it panics at that page. -/
theorem ends_prepareLoad_of_mapped {complete : Prop} {mem : Memory (Coremap NoEviction)}
    {context : Option Context} {page : VirtPage} {left wanted : Nat}
    (holds : Holds complete space none mem) (isComplete : complete) (ready : mem.Ready left)
    (unbacked : space.Unbacked) (unloaded : space.loaded = false)
    (tabled : ∀ page : VirtPage, space.Spans page.base →
      mem.ram.table? space.directory (.ofPage page) ≠ none)
    (ample : Coremap.Ample mem.descriptors (space.regions.map Region.pages).sum wanted)
    (regions : ∀ region ∈ space.regions, region.pages ≤ wanted)
    (stack : Layout.stackPages ≤ wanted) (able : Able context mem) (spans : space.Spans page.base)
    (mapped : mem.ram.page? space.directory page ≠ none)
    (only : ∀ other ≠ page, mem.ram.page? space.directory other = none) :
    (AddressSpace.prepareLoad (Coremap.source context)).Ends left ⟨mem, space⟩
      ⟨fun _ _ _ => False, fun _ _ _ => False, fun cause _ => cause = .alreadyMapped page⟩ := by
  refine (ends_prepareLoad_of_tables holds isComplete ready unbacked unloaded tabled ample regions
    stack able).mono ?_ (fun _ _ _ => id) ?_
  · rintro _ building _ ⟨_, prepared⟩
    exact mapped (prepared.page?_of_spans spans)
  · rintro cause building ⟨other, rfl, _, isMapped⟩
    by_contra different
    exact isMapped (only other fun same => different (congrArg Panic.alreadyMapped same))

namespace Machine

variable {stealer : Stealer} {machine : Machine (Coremap NoEviction)} {held : List VirtAddr}
  {failed retried : List SpaceId} {left : Nat}

/-- Loading a space that is not loaded, whatever pages it has. -/
theorem ends_prepareLoad_answers
    (settled : Settled machine.memory machine.spaces held failed retried)
    (ready : machine.memory.Ready left) (inList : space ∈ machine.spaces)
    (unloaded : space.loaded = false) :
    (sourced fun source => prepareLoad source space.id).Ends left (withStealer stealer machine)
      ⟨fun a _ _ => LoadAnswer space (machine.memory.ram.page? space.directory) (.value a),
        fun e _ _ => LoadAnswer space (machine.memory.ram.page? space.directory) (.error e),
        fun cause _ => Able (some machine.context) machine.memory →
          LoadAnswer space (machine.memory.ram.page? space.directory) (.panic cause)⟩ := by
  have found := space?_of_mem settled.distinct inList
  have only {other : AddressSpace} (inListToo : other ∈ machine.spaces)
      (same : other.id = space.id) : other = space :=
    settled.distinct other inListToo space inList same
  refine Request.ends_sourced.mpr (ends_prepareLoadOf settled ready ?_ ?_ ?_ ?_ ?_)
  · intro unknown
    cases found.symm.trans unknown
  · rintro other building left' inListToo same _ _ prepared
    obtain rfl := only inListToo same
    exact .returned fun page => prepared.page?_of_spans
  · rintro other _ inListToo same isLoaded
    obtain rfl := only inListToo same
    cases unloaded.symm.trans isLoaded
  · exact fun _ n _ _ _ _ _ _ _ _ _ => .starved n
  · rintro cause other building inListToo same _ interrupted able
    obtain rfl := only inListToo same
    obtain ⟨page, rfl, spans, mapped⟩ :=
      interrupted.refused.reason.resolve_left fun cannot => cannot able
    exact .refused page spans mapped

theorem answer_of_ends {before : Machine (FrameSupply NoEviction)} {able : Prop}
    {pages : VirtPage → Option Frame}
    {op : Operation VmError (Machine (FrameSupply NoEviction)) Unit}
    (ends : op.Ends (draws (op.run before).events) before
      ⟨fun a _ _ => LoadAnswer space pages (.value a),
        fun e _ _ => LoadAnswer space pages (.error e),
        fun cause _ => able → LoadAnswer space pages (.panic cause)⟩)
    (isAble : able) : LoadAnswer space pages (op.run before).result := by
  have met := ends (Nat.le_refl _)
  generalize op.run before = outcome at met ⊢
  rcases outcome with ⟨a | e | cause, after, shown⟩
  · exact met
  · exact met
  · exact met isAble

end Machine

namespace Session

open Machine

variable {session : Session}

/-- In every state of a run, loading a space that is not loaded returns only if no page was
mapped that the space has a segment for. Else it reports that frames have run out, or it
panics at such a page. No identity of a block or of a space has come round again in a run. -/
theorem loadAnswer_of_reachable (reachable : Reachable session)
    (inList : space ∈ session.machine.spaces) (unloaded : space.loaded = false) :
    ∃ coremap pages tables, session.machine.memory.frames.coremap = some coremap ∧
      session.machine.Charted space.id pages tables ∧
      ∀ context outcome,
        (sourced fun source => prepareLoad source space.id).run
          { session.machine with context := context } = outcome →
        session.NoWrap (.prepareLoad space.id) outcome.events → CanSleep (some context) →
        session.machine.memory.ram.Admits coremap.reservation.frameCount →
        LoadAnswer space pages outcome.result := by
  obtain ⟨stealer, machine, isMachine, settled, inList, isCoremap, charted⟩ :=
    reachable.exists_settled inList
  refine ⟨machine.memory.frames, _, _, isCoremap, charted, ?_⟩
  rintro context _ rfl noWrap canSleep admits
  have ready := settled.ready.of_room (noWrap.blocks _ isCoremap)
  let asked : Machine (Coremap NoEviction) := { machine with context := context }
  have settled : Settled asked.memory asked.spaces _ _ _ := settled
  rw [withContext_eq isMachine] at ready ⊢
  rw [isMachine] at admits
  exact answer_of_ends (ends_prepareLoad_answers settled ready inList unloaded) ⟨canSleep, admits⟩

/-- Where a space is ready to be loaded, it is not loaded after the first page of its stack
was backed. -/
theorem Loadable.exists_alreadyMapped {spent free left : Nat}
    (loadable : session.Loadable space (spent + 1) free left) (reachable : Reachable session)
    (fits : space.regions.length ≤ spent) (enough : 1 ≤ free)
    (room : 2 * spent + (Layout.stackPages + 3) ≤ left) :
    ∃ frame backed shown after shown',
      (sourced fun source => materialize source space.id stackBase.base).run
          { session.machine with context := ⟨1, false⟩ } = ⟨.value frame, backed, shown⟩ ∧
        (sourced fun source => prepareLoad source space.id).run
          { backed with context := ⟨1, false⟩ } =
            ⟨.panic (.alreadyMapped stackBase), after, shown'⟩ := by
  have sole := loadable.toSole
  obtain ⟨⟨⟨alone, notFailed, unbacked, unloaded, beside, stocked⟩, tabled, unmapped⟩, _, ample⟩ :=
    loadable
  obtain ⟨stealer, machine, isMachine, settled, inList, notRetried⟩ :=
    reachable.exists_machine alone notFailed
  have able := stocked.able isMachine
  have ready := stocked.ready isMachine settled
  have holds := settled.holds space inList
  rw [isMachine] at tabled unmapped ample
  have spans : space.Spans stackBase.base := .inr (by decide)
  obtain ⟨table, named⟩ := Option.ne_none_iff_exists'.mp (tabled stackBase spans)
  have one : space.pageNeeds machine.memory.ram stackBase = 1 := if_neg (tabled stackBase spans)
  obtain ⟨frame, mem, shown, run, _, ready', holds', made, _⟩ :=
    stocked.exists_materialize isMachine settled inList notRetried stackBase.base (unmapped _)
      (one.trans_le enough) (by omega)
  obtain ⟨extended, _, pages, _⟩ := made.mapped
  rw [Page.page_base] at pages
  -- The page took its frame and no other, so frames are nearly as ample as before.
  have still (i : Nat) (other : i ≠ frame.number) :
      mem.descriptors[i]? = machine.memory.descriptors[i]? :=
    made.getElem?_of_ne ready ready' holds holds' notRetried named other
  let backed : Machine (Coremap NoEviction) :=
    { machine with memory := mem, context := ⟨1, false⟩ }
  have found : backed.space? space.id = some space := space?_of_mem settled.distinct inList
  have ends : (sourced fun source => prepareLoad source space.id).Ends (left - 2)
      (withStealer stealer backed) ⟨fun _ _ _ => False, fun _ _ _ => False,
        fun cause _ => cause = .alreadyMapped stackBase⟩ := by
    refine Request.ends_sourced.mpr (ends_build_of_found found ?_)
    refine ends_prepareLoad_of_mapped holds' notRetried ready' unbacked unloaded ?_
      (((ample _ rfl).of_taken still).mono (sole.sum_pages ▸ fits)) ?_ (Nat.le_refl _)
      ((extended.confined.able_iff _).mpr able) spans ?_ ?_
    · intro page spans unnamed
      obtain ⟨old, isOld⟩ := Option.ne_none_iff_exists'.mp (tabled page spans)
      cases (extended.tables _ old isOld).symm.trans unnamed
    · intro region inList
      rw [(beside region inList).1]
      decide
    · rw [pages, Function.update_self]
      exact Option.some_ne_none frame
    · intro other different
      rw [pages, Function.update_of_ne different]
      exact unmapped other
  have few : draws ((sourced fun source => prepareLoad source space.id).run
      (withStealer stealer backed)).events ≤ left - 2 :=
    draws_sourced_le stealer ((sole.draws_prepareLoad_le found).trans (by omega))
  obtain ⟨_, after, shown', panics, rfl⟩ := ends.exists_panic few
  exact ⟨frame, _, shown, after, shown', run, panics⟩

/-- In a small run a space is loaded. -/
theorem loadAnswer_of_reachable_loadable :
    ∃ session space coremap pages tables outcome, Reachable session ∧
      space ∈ session.machine.spaces ∧ space.loaded = false ∧
      session.machine.memory.frames.coremap = some coremap ∧
      session.machine.Charted space.id pages tables ∧
      (sourced fun source => prepareLoad source space.id).run
        { session.machine with context := ⟨1, false⟩ } = outcome ∧
      session.NoWrap (.prepareLoad space.id) outcome.events ∧ CanSleep (some ⟨1, false⟩) ∧
      session.machine.memory.ram.Admits coremap.reservation.frameCount ∧
      outcome.result = .value () ∧ LoadAnswer space pages outcome.result := by
  obtain ⟨session, space, reachable, loadable⟩ := exists_loadable
  have inList := loadable.mem_spaces
  obtain ⟨coremap, pages, tables, isCoremap, charted, answers⟩ :=
    loadAnswer_of_reachable reachable inList loadable.unloaded
  obtain ⟨after, shown, run, noWrap⟩ := loadable.exists_prepareLoad reachable (by decide)
  obtain ⟨small, _⟩ := loadable.stocked.stock coremap isCoremap
  have admits : session.machine.memory.ram.Admits coremap.reservation.frameCount :=
    Ram.admits_of_directMap loadable.stocked.window
      (Nat.le_trans (Nat.mul_le_mul_right 4096 small) (by decide))
  exact ⟨session, space, coremap, pages, tables, _, reachable, inList, loadable.unloaded, isCoremap,
    charted, run, noWrap, by decide, admits, rfl,
    answers ⟨1, false⟩ _ run noWrap (by decide) admits⟩

/-- A space is created and walked in, the first page of its stack is backed, and then it is
not loaded but panics. -/
theorem prepareLoad_panics_of_backed :
    ∃ space table walked shown frame backed shown' after shown'',
      opened.machine.spaces = [space] ∧ space.loaded = false ∧ opened.failed = [] ∧
      (sourced fun source => walk source space.id stackBase.base true).run
          { opened.machine with context := ⟨1, false⟩ } = ⟨.value (some table), walked, shown⟩ ∧
      (sourced fun source => materialize source space.id stackBase.base).run
          { walked with context := ⟨1, false⟩ } = ⟨.value frame, backed, shown'⟩ ∧
      (sourced fun source => prepareLoad source space.id).run
          { backed with context := ⟨1, false⟩ } =
            ⟨.panic (.alreadyMapped stackBase), after, shown''⟩ := by
  have none : (opened.machine.spaces.all fun space => decide (space.regions = [])) = true := by
    decide +kernel
  obtain ⟨space, blank⟩ := exists_blank_opened
  simp only [blank.alone, List.all_cons, List.all_nil, Bool.and_true, decide_eq_true_eq] at none
  obtain ⟨table, walked, shown, run, noWrap, loadable⟩ := blank.exists_loadable reachable_opened.1
    (by decide) (by decide) (by decide +kernel : opened.spacious 1 = true)
  have reachable := reachable_opened.1.act_of_sourced (.walk space.id stackBase.base true) trivial
    rfl run noWrap
  obtain ⟨frame, backed, shown', after, shown'', backs, panics⟩ :=
    loadable.exists_alreadyMapped reachable (by rw [none]; decide) (by decide) (by decide)
  exact ⟨space, table, walked, shown, frame, backed, shown', after, shown'', blank.alone,
    blank.unloaded, blank.notFailed, run, backs, panics⟩

end Session

end PagedMemory
