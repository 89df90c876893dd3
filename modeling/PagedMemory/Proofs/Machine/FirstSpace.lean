import PagedMemory.Proofs.Machine.Provision
import PagedMemory.Proofs.Space.Prepared
import PagedMemory.Proofs.Space.Regions

/-!
# The first space of a run

A run can begin with a space and its regions. That space has no frame but its directory. While
frames are left one of its pages can be backed, or the table can be walked to that its segments
need. Then it is loaded if frames are ample for that, and else its loading stops at its stack.
-/

namespace PagedMemory

open Operation

/-- Regions of one page under the same entry of the directory as the stack need no table but that
of the stack. -/
theorem AddressSpace.ofPage_eq_of_spans {space : AddressSpace}
    (beside : ∀ region ∈ space.regions, region.pages = 1 ∧ region.page.number / 1024 = 0x1FF)
    {page : VirtPage} (spans : space.Spans page.base) :
    DirectoryIndex.ofPage page = DirectoryIndex.ofPage stackBase := by
  have sameSlot : page.number / 1024 = stackBase.number / 1024 := by
    rcases (AddressSpace.spans_base_iff page).mp spans with ⟨region, inList, inside⟩ | inside
    · obtain ⟨single, slot⟩ := beside region inList
      rw [Region.interval, single, Set.mem_Ico] at inside
      obtain same : page.number = region.page.number := by omega
      rw [same, slot]
      rfl
    · rw [stackInterval, Set.mem_Ico, stackBase_number, Layout.stackPages] at inside
      rw [stackBase_number]
      omega
  simp only [DirectoryIndex.ofPage, sameSlot]

namespace Session

open Machine

variable {session : Session} {space : AddressSpace} {page : VirtPage} {spent free left : Nat}

/-- There is one space. It is not loaded, its regions are pages under the same entry of the
directory as the stack, and no loading has failed. -/
structure Sole (session : Session) (space : AddressSpace) (free left : Nat) : Prop where
  alone : session.machine.spaces = [space]
  notFailed : session.failed = []
  unbacked : space.Unbacked
  unloaded : space.loaded = false
  beside : ∀ region ∈ space.regions, region.pages = 1 ∧ region.page.number / 1024 = 0x1FF
  stocked : session.Stocked free left

/-- The space has no frame but its directory. -/
structure Blank (session : Session) (space : AddressSpace) (free left : Nat) : Prop
    extends Sole session space free left where
  single : ∀ coremap, session.machine.memory.frames.coremap = some coremap →
    Coremap.countHeldBy coremap.frames space.owner = 1

/-- The space has a page and the table for it besides. -/
structure Paged (session : Session) (space : AddressSpace) (page : VirtPage) (free left : Nat) :
    Prop extends Sole session space free left where
  mapped : session.machine.memory.ram.page? space.directory page ≠ none
  others : ∀ other ≠ page, session.machine.memory.ram.page? space.directory other = none
  held : ∀ coremap, session.machine.memory.frames.coremap = some coremap →
    Coremap.countHeldBy coremap.frames space.owner = 3

/-- The space has all tables that its segments need, and no pages. -/
structure Provided (session : Session) (space : AddressSpace) (free left : Nat) : Prop
    extends Sole session space free left where
  tabled : ∀ page : VirtPage, space.Spans page.base →
    session.machine.memory.ram.table? space.directory (.ofPage page) ≠ none
  unmapped : ∀ page, session.machine.memory.ram.page? space.directory page = none

/-- Whatever frames some pages take, and those of the regions among them, there is a run of free
frames for the stack. -/
structure Loadable (session : Session) (space : AddressSpace) (spent free left : Nat) : Prop
    extends Provided session space free left where
  fits : space.regions.length ≤ spent
  ample : ∀ coremap, session.machine.memory.frames.coremap = some coremap →
    Coremap.Ample coremap.frames spent Layout.stackPages

/-- The space is loaded, and has no pages but those of its segments. -/
structure Laden (session : Session) (space : AddressSpace) (free left : Nat) : Prop where
  alone : session.machine.spaces = [space]
  notFailed : session.failed = []
  isLoaded : space.loaded = true
  mapped : ∀ page, session.machine.memory.ram.page? space.directory page ≠ none →
    space.Spans page.base
  stocked : session.Stocked free left

/-- The only space of a session is held in memory. -/
theorem Reachable.exists_machine (reachable : Reachable session)
    (alone : session.machine.spaces = [space]) (notFailed : session.failed = []) :
    ∃ stealer machine, session.machine = withStealer stealer machine ∧
      Settled machine.memory machine.spaces session.held session.failed session.retried ∧
      space ∈ machine.spaces ∧ space.id ∉ session.retried := by
  obtain ⟨stealer, machine, isMachine, settled⟩ := reachable.atRest
  rw [isMachine] at alone
  have inList : space ∈ machine.spaces := alone ▸ List.mem_singleton_self space
  exact ⟨stealer, machine, isMachine, settled, inList, reachable.not_mem_retried notFailed _⟩

/-- There is still that space when another request has succeeded. -/
theorem Sole.keep (sole : session.Sole space free left) {session' : Session}
    (sameSpaces : session'.machine.spaces = session.machine.spaces)
    (sameFailed : session'.failed = session.failed) {free' left' : Nat}
    (stocked : session'.Stocked free' left') : session'.Sole space free' left' where
  alone := sameSpaces.trans sole.alone
  notFailed := sameFailed.trans sole.notFailed
  unbacked := sole.unbacked
  unloaded := sole.unloaded
  beside := sole.beside
  stocked := stocked

theorem Sole.mem_spaces (sole : session.Sole space free left) :
    space ∈ session.machine.spaces :=
  sole.alone ▸ List.mem_singleton_self space

theorem Laden.mem_spaces (laden : session.Laden space free left) :
    space ∈ session.machine.spaces :=
  laden.alone ▸ List.mem_singleton_self space

theorem Sole.sum_pages (sole : session.Sole space free left) :
    (space.regions.map Region.pages).sum = space.regions.length := by
  rw [List.map_congr_left fun region inList => (sole.beside region inList).1, List.map_const',
    List.sum_replicate, smul_eq_mul, Nat.mul_one]

/-- What its loading draws. -/
theorem Sole.draws_prepareLoad_le (sole : session.Sole space free left)
    {machine : Machine (Coremap NoEviction)} {context : Option Context}
    (found : machine.space? space.id = some space) :
    draws ((prepareLoad (Coremap.source context) space.id).run machine).events ≤
      2 * space.regions.length + (Layout.stackPages + 1) := by
  refine (Machine.draws_prepareLoad_le found).trans ?_
  rw [AddressSpace.drawsOfRegions_eq, sole.sum_pages]
  omega

/-! ## A page of it -/

theorem Blank.unnamed (blank : session.Blank space free left) (reachable : Reachable session)
    (i : DirectoryIndex) : session.machine.memory.ram.table? space.directory i = none := by
  obtain ⟨stealer, machine, isMachine, settled, inList, _⟩ :=
    reachable.exists_machine blank.alone blank.notFailed
  have single := blank.single
  rw [isMachine] at single ⊢
  exact (settled.holds space inList).unnamed_of_countHeldBy settled.ready (single _ rfl) i

/-- A page can be backed if there are two frames, for it and for its table. -/
theorem Blank.exists_paged (blank : session.Blank space free left) (reachable : Reachable session)
    (address : VirtAddr) (enough : 2 ≤ free) (room : 2 ≤ left) :
    ∃ session', Reachable session' ∧ session'.Paged space address.page (free - 2) (left - 2) := by
  have unnamed := blank.unnamed reachable
  have single := blank.single
  obtain ⟨stealer, machine, isMachine, settled, inList, notRetried⟩ :=
    reachable.exists_machine blank.alone blank.notFailed
  rw [isMachine] at unnamed single
  have unmapped (page : VirtPage) : machine.memory.ram.page? space.directory page = none :=
    Ram.page?_eq_none_of_table? (unnamed _)
  have two : space.pageNeeds machine.memory.ram address.page = 2 := if_pos (unnamed _)
  obtain ⟨frame, mem, shown, run, noWrap, _, _, made, count, stocked⟩ :=
    blank.stocked.exists_materialize isMachine settled inList notRetried address (unmapped _)
      (Nat.le_trans (Nat.le_of_eq two) enough) room
  rw [two] at count stocked
  have pages := made.mapped.pages
  refine ⟨_, reachable.act_of_sourced (.materialize space.id address) trivial rfl run noWrap, ?_⟩
  constructor
  case toSole =>
    refine blank.toSole.keep ?_ ?_ (stocked _ rfl)
    · rw [isMachine]
      rfl
    · rfl
  case mapped =>
    change mem.ram.page? space.directory address.page ≠ none
    rw [pages, Function.update_self]
    exact Option.some_ne_none frame
  case others =>
    intro other different
    change mem.ram.page? space.directory other = none
    rw [pages, Function.update_of_ne different]
    exact unmapped other
  case held =>
    rintro _ ⟨⟩
    exact count.trans (congrArg (· + 2) (single _ rfl))

/-! ## Its tables -/

/-- The table of its stack can be walked to if there is a frame for it, which is taken from the
coremap. -/
theorem Blank.exists_provided (blank : session.Blank space free left)
    (reachable : Reachable session) (enough : 0 < free) (room : 0 < left) :
    ∃ table walked shown, (sourced fun source => walk source space.id stackBase.base true).run
        { session.machine with context := ⟨1, false⟩ } = ⟨.value (some table), walked, shown⟩ ∧
      session.NoWrap (.walk space.id stackBase.base true) shown ∧
      (session.after (.walk space.id stackBase.base true)
        ⟨.value none, walked, shown⟩).Provided space (free - 1) (left - 1) ∧
      ∀ coremap, session.machine.memory.frames.coremap = some coremap →
        walked.memory.frames.coremap =
          some ((Coremap.allocate (some ⟨1, false⟩) 1 space.owner).run coremap).state := by
  have unnamed := blank.unnamed reachable
  obtain ⟨stealer, machine, isMachine, settled, inList, notRetried⟩ :=
    reachable.exists_machine blank.alone blank.notFailed
  rw [isMachine] at unnamed
  obtain ⟨table, mem, shown, run, noWrap, frames, named, pages, stocked⟩ :=
    blank.stocked.exists_walk isMachine settled inList notRetried stackBase.base (unnamed _) enough
      room
  rw [DirectoryIndex.ofAddr, Page.page_base] at named
  refine ⟨table, _, shown, run, noWrap, ?_, ?_⟩
  · constructor
    case toSole =>
      refine blank.toSole.keep ?_ ?_ (stocked _ rfl)
      · rw [isMachine]
        rfl
      · rfl
    case tabled =>
      intro page spans
      rw [AddressSpace.ofPage_eq_of_spans blank.beside spans]
      exact fun none => Option.some_ne_none table (named.symm.trans none)
    case unmapped =>
      intro page
      exact (congrFun pages page).trans (Ram.page?_eq_none_of_table? (unnamed _))
  · rw [isMachine]
    rintro _ ⟨⟩
    exact congrArg some frames

/-- Whether a run of free frames is left, when a frame was taken for the only space, that is some
times as long as the stack. -/
def spacious (session : Session) (spent : Nat) : Bool :=
  session.machine.memory.frames.coremap.all fun coremap =>
    session.machine.spaces.all fun space =>
      decide (space.regions.length ≤ spent) &&
      decide (∀ i < (spent + 1) * Layout.stackPages,
        ((Coremap.allocate (some ⟨1, false⟩) 1 space.owner).run coremap).state.frames[8 + i]? =
          some .free)

/-- Then the space can be loaded once its table was walked to. -/
theorem Blank.exists_loadable (blank : session.Blank space free left)
    (reachable : Reachable session) (enough : 0 < free) (room : 0 < left)
    (isSpacious : session.spacious spent = true) :
    ∃ table walked shown, (sourced fun source => walk source space.id stackBase.base true).run
        { session.machine with context := ⟨1, false⟩ } = ⟨.value (some table), walked, shown⟩ ∧
      session.NoWrap (.walk space.id stackBase.base true) shown ∧
      (session.after (.walk space.id stackBase.base true)
        ⟨.value none, walked, shown⟩).Loadable space spent (free - 1) (left - 1) := by
  obtain ⟨table, walked, shown, run, noWrap, provided, frames⟩ :=
    blank.exists_provided reachable enough room
  refine ⟨table, walked, shown, run, noWrap, ?_⟩
  obtain ⟨stealer, machine, isMachine, _⟩ := reachable.exists_machine blank.alone blank.notFailed
  have isCoremap : session.machine.memory.frames.coremap = some machine.memory.frames := by
    rw [isMachine]
    rfl
  simp only [spacious, isCoremap, blank.alone, Option.all_some, List.all_cons, List.all_nil,
    Bool.and_true, Bool.and_eq_true, decide_eq_true_eq] at isSpacious
  obtain ⟨fits, free⟩ := isSpacious
  refine ⟨provided, fits, fun coremap isCoremap' => ?_⟩
  obtain rfl := Option.some.inj ((frames _ isCoremap).symm.trans isCoremap')
  exact Coremap.ample_of_free 8 free

/-! ## Its loading -/

namespace Loadable

/-- The space is loaded. -/
theorem exists_building (loadable : session.Loadable space spent free left)
    (reachable : Reachable session) (room : 2 * spent + (Layout.stackPages + 1) ≤ left) :
    ∃ stealer machine building shown, session.machine = withStealer stealer machine ∧
      (sourced fun source => prepareLoad source space.id).run
        { session.machine with context := ⟨1, false⟩ } = ⟨.value (), withStealer stealer
          (replaceSpace building.space
            { machine with context := ⟨1, false⟩, memory := building.memory }), shown⟩ ∧
      session.NoWrap (.prepareLoad space.id) shown ∧
      Prepared (space.id ∉ session.retried) space machine.memory building ∧
      ∀ session' : Session, session'.machine = withStealer stealer (replaceSpace building.space
          { machine with context := ⟨1, false⟩, memory := building.memory }) →
        session'.Stocked (free - (space.regions.length + Layout.stackPages))
          (left - (2 * spent + (Layout.stackPages + 1))) := by
  have sole := loadable.toSole
  obtain ⟨⟨⟨alone, notFailed, unbacked, unloaded, beside, stocked⟩, tabled, unmapped⟩, fits,
    ample⟩ := loadable
  have sum := sole.sum_pages
  obtain ⟨stealer, machine, isMachine, settled, inList, notRetried⟩ :=
    reachable.exists_machine alone notFailed
  rw [isMachine] at tabled unmapped ample
  have ready := stocked.ready isMachine settled
  have holds := settled.holds space inList
  have small (region : Region) (inList : region ∈ space.regions) :
      region.pages ≤ Layout.stackPages := by
    rw [(beside region inList).1]
    decide
  let asked : Machine (Coremap NoEviction) := { machine with context := ⟨1, false⟩ }
  have found : asked.space? space.id = some space := space?_of_mem settled.distinct inList
  have ends : (sourced fun source => prepareLoad source space.id).Ends left
      (withStealer stealer asked)
      ⟨fun _ outer left' => ∃ building : Building (Coremap NoEviction),
          outer = withStealer stealer
            (replaceSpace building.space { asked with memory := building.memory }) ∧
          building.memory.Ready left' ∧
          Prepared (space.id ∉ session.retried) space machine.memory building,
        fun _ _ _ => False, fun _ _ => False⟩ := by
    refine Request.ends_sourced.mpr (ends_build_of_found found ?_)
    refine (ends_prepareLoad_of_tables holds notRetried ready unbacked unloaded tabled
      ((ample _ rfl).mono (sum ▸ fits)) small (Nat.le_refl _)
      (stocked.able isMachine)).mono ?_ (fun _ _ _ => id) ?_
    · exact fun _ building _ ⟨ready', prepared⟩ => ⟨building, rfl, ready', prepared⟩
    · exact fun _ _ ⟨page, _, _, mapped⟩ => mapped (unmapped page)
  have few : draws ((prepareLoad (Coremap.source (some ⟨1, false⟩)) space.id).run asked).events ≤
      2 * spent + (Layout.stackPages + 1) :=
    (sole.draws_prepareLoad_le found).trans (by omega)
  obtain ⟨_, _, shown, run, ⟨building, rfl, ready', prepared⟩, drawn⟩ :=
    exists_run isMachine ends few room
  refine ⟨stealer, machine, building, shown, isMachine, run, stocked.noWrap (by omega)
    (Nat.le_trans drawn room), prepared, fun session' isMachine' => ?_⟩
  refine stocked.spend isMachine settled isMachine' (ready'.mono (by omega))
    prepared.extended.confined (Nat.sub_le _ _) ?_
  have count := prepared.countHeldBy_eq notRetried holds ready ready' unbacked
  rw [prepared.newSlots_eq_empty tabled, Finset.card_empty, Nat.add_zero, sum] at count
  exact count

/-- The space is loaded by one more request. -/
theorem exists_laden (loadable : session.Loadable space spent free left)
    (reachable : Reachable session) (room : 2 * spent + (Layout.stackPages + 1) ≤ left) :
    ∃ session' space', Step session session' ∧ space.Like space' ∧
      session'.Laden space' (free - (space.regions.length + Layout.stackPages))
        (left - (2 * spent + (Layout.stackPages + 1))) := by
  obtain ⟨stealer, machine, building, shown, isMachine, run, noWrap, prepared, stocked⟩ :=
    loadable.exists_building reachable room
  have like := prepared.like
  have alone := loadable.alone
  have unmapped := loadable.unmapped
  rw [isMachine] at alone unmapped
  refine ⟨_, building.space, .of_sourced (.prepareLoad space.id) trivial rfl run noWrap, like, ?_⟩
  constructor
  case alone => exact spaces_replaceSpace_of_alone alone like.id
  case notFailed => exact loadable.notFailed
  case isLoaded => exact prepared.loaded
  case mapped =>
    intro page mapped
    change building.memory.ram.page? building.space.directory page ≠ none at mapped
    rw [like.directory, prepared.page?_ne_none_iff] at mapped
    exact (like.spans_iff _).mpr (mapped.resolve_left (not_not.mpr (unmapped page)))
  case stocked => exact stocked _ rfl

/-- Loading it returns. -/
theorem exists_prepareLoad (loadable : session.Loadable space spent free left)
    (reachable : Reachable session) (room : 2 * spent + (Layout.stackPages + 1) ≤ left) :
    ∃ after shown, (sourced fun source => prepareLoad source space.id).run
        { session.machine with context := ⟨1, false⟩ } = ⟨.value (), after, shown⟩ ∧
      session.NoWrap (.prepareLoad space.id) shown := by
  obtain ⟨_, _, _, shown, _, run, noWrap, _⟩ := loadable.exists_building reachable room
  exact ⟨_, shown, run, noWrap⟩

end Loadable

/-- A page that no segment is for can be backed as well. -/
theorem Laden.exists_backed (laden : session.Laden space free left) (reachable : Reachable session)
    {address : VirtAddr} (outside : ¬ space.Spans address.page.base) (enough : 2 ≤ free)
    (room : 2 ≤ left) :
    ∃ session' frame, Step session session' ∧ session'.machine.spaces = [space] ∧
      session'.failed = [] ∧
      session'.machine.memory.ram.page? space.directory address.page = some frame ∧
      space.extent? session'.machine.memory.ram (.page address.page) = some (.ofFrame frame) := by
  have notRetried := reachable.not_mem_retried laden.notFailed space.id
  obtain ⟨frame, backed, shown, run, noWrap, sameSpaces, mapped, isPage⟩ :=
    laden.stocked.exists_backed reachable laden.mem_spaces notRetried address
      (not_not.mp (mt (laden.mapped _) outside)) enough room
  exact ⟨_, frame, .of_sourced (.materialize space.id address) trivial rfl run noWrap,
    sameSpaces.trans laden.alone, laden.notFailed, mapped, isPage⟩

/-- Loading a space that has its tables reports that frames have run out if fewer are free than
the stack has pages, but more than the regions have. The regions are backed and mapped then. -/
theorem Provided.exists_halted (provided : session.Provided space free left)
    (reachable : Reachable session) (enough : space.regions.length < free)
    (few : free < Layout.stackPages)
    (room : 2 * space.regions.length + (Layout.stackPages + 1) ≤ left) :
    ∃ session' space', Step session session' ∧ session'.failed = [space'.id] ∧
      session'.retried = [] ∧ session'.machine.spaces = [space'] ∧ space.Like space' ∧
      ∀ region ∈ space'.regions, ∃ frame, region.backing = some frame ∧
        session'.machine.memory.ram.page? space'.directory region.page = some frame := by
  have sole := provided.toSole
  obtain ⟨⟨alone, notFailed, unbacked, unloaded, beside, stocked⟩, tabled, unmapped⟩ := provided
  have sum := sole.sum_pages
  obtain ⟨stealer, machine, isMachine, settled, inList, notRetried⟩ :=
    reachable.exists_machine alone notFailed
  have card := stocked.card_free isMachine
  have ready := stocked.ready isMachine settled
  rw [isMachine] at alone tabled unmapped
  have ample : Coremap.Ample machine.memory.descriptors (space.regions.map Region.pages).sum 1 :=
    Coremap.ample_of_card (by rw [sum, card]; exact enough)
  have starved : Coremap.Starved machine.memory.descriptors Layout.stackPages :=
    Coremap.starved_of_card_lt (by rw [card]; exact few)
  let asked : Machine (Coremap NoEviction) := { machine with context := ⟨1, false⟩ }
  have found : asked.space? space.id = some space := space?_of_mem settled.distinct inList
  have ends : (sourced fun source => prepareLoad source space.id).Ends left
      (withStealer stealer asked)
      ⟨fun _ _ _ => False, fun e outer _ => ∃ building : Building (Coremap NoEviction),
          e = .space (.outOfMemory ⟨Layout.stackPages⟩) ∧ outer = withStealer stealer
            (replaceSpace building.space { asked with memory := building.memory }) ∧
          (∀ region ∈ building.space.regions, region.backing.isSome) ∧
          Filled (space.id ∉ session.retried) (· ≠ .stack) space machine.memory building,
        fun _ _ => False⟩ := by
    refine Request.ends_sourced.mpr (ends_build_of_found found ?_)
    refine (ends_prepareLoad_of_starved (settled.holds space inList) notRetried ready unbacked
      unloaded tabled ample (fun region inList => Nat.le_of_eq (beside region inList).1) starved
      (stocked.able isMachine)).mono (fun _ _ _ => id) ?_ ?_
    · rintro e building _ ⟨rfl, _, _, backed, filled⟩
      exact ⟨building, rfl, rfl, backed, filled⟩
    · rintro cause building ⟨page, _, _, mapped⟩
      exact mapped (unmapped page)
  obtain ⟨_, _, shown, run, ⟨building, rfl, rfl, backed, filled⟩, drawn⟩ :=
    exists_run_error isMachine ends (sole.draws_prepareLoad_le found) room
  have like := filled.like
  refine ⟨_, building.space, .of_sourced_error (.prepareLoad space.id) trivial rfl run
    (stocked.noWrap (by omega) (Nat.le_trans drawn room)), ?_, ?_, ?_, like, ?_⟩
  · change failedBy space.id session.failed (.outOfMemory ⟨Layout.stackPages⟩) = _
    rw [failedBy, notFailed, like.id]
  · change retriedBy space.id session.failed session.retried = []
    rw [retriedBy, notFailed, if_neg List.not_mem_nil]
    exact reachable.retried_eq_nil notFailed
  · exact spaces_replaceSpace_of_alone alone like.id
  · intro region inList
    obtain ⟨i, isRegion⟩ := List.mem_iff_getElem?.mp inList
    obtain ⟨frame, isBacking, found⟩ := exists_segment?_region isRegion (backed region inList)
    have first := filled.mapped (.region i) _ (by simp) found 0
      (filled.holds.shaped.nonempty region inList)
    rw [Page.plus_zero, Page.plus_zero, ← like.directory] at first
    exact ⟨frame, isBacking, first⟩

/-! ## Beginnings -/

/-- Of some frames the coremap has one and the directory of a space another. -/
def inhabited (frames : Nat) : Session :=
  (booted frames).after .create ((booted frames).outcome ⟨1, false⟩ .create)

/-- All frames can be accessed through the direct map. -/
theorem reachable_inhabited {frames : Nat}
    (built : ((bootstrap NoEviction.mk).run (bare frames)).result = .value ())
    (window : (booted frames).machine.memory.ram.window = .directMap)
    (created : ((booted frames).outcome ⟨1, false⟩ .create).result = .value none)
    (noWrap : (booted frames).NoWrap .create ((booted frames).outcome ⟨1, false⟩ .create).events) :
    Reachable (inhabited frames) ∧ (inhabited frames).machine.memory.ram.window = .directMap := by
  have reachable := reachable_booted built
  have permitted : (booted frames).Permitted .create := trivial
  exact ⟨reachable.act permitted created noWrap,
    (window_after reachable.atRest permitted noWrap).trans window⟩

/-- Whether there is a space without any frame but its directory can be computed. -/
def isBlank (session : Session) (free left : Nat) : Bool :=
  decide (session.failed = [] ∧ session.machine.spaces.length = 1 ∧
    session.machine.memory.nextSpace.number + left < 0x100000000) &&
  (session.machine.spaces.all fun space =>
    decide (space.loaded = false ∧ space.stack = none ∧ ∀ region ∈ space.regions,
      region.backing = none ∧ region.pages = 1 ∧ region.page.number / 1024 = 0x1FF)) &&
  session.machine.memory.frames.coremap.all fun coremap =>
    decide (coremap.reservation.frameCount ≤ 64 ∧ (Coremap.countStates coremap.frames).free = free ∧
      coremap.nextBlock.number + left < 0x100000000) &&
    session.machine.spaces.all fun space =>
      decide (Coremap.countHeldBy coremap.frames space.owner = 1)

theorem exists_blank (window : session.machine.memory.ram.window = .directMap)
    (blank : session.isBlank free left = true) : ∃ space, session.Blank space free left := by
  simp only [isBlank, Bool.and_eq_true, decide_eq_true_eq] at blank
  obtain ⟨⟨⟨notFailed, single, names⟩, spaces⟩, stock⟩ := blank
  obtain ⟨space, alone⟩ := List.length_eq_one_iff.mp single
  simp only [alone, List.all_cons, List.all_nil, Bool.and_true, decide_eq_true_eq,
    Option.all_eq_true, Bool.and_eq_true] at spaces stock
  obtain ⟨unloaded, stack, regions⟩ := spaces
  have unbacked : space.Unbacked := ⟨fun region inList => (regions region inList).1, stack⟩
  refine ⟨space, ⟨alone, notFailed, unbacked, unloaded, fun region inList =>
    (regions region inList).2, window, fun coremap isCoremap => (stock coremap isCoremap).1, names⟩,
    fun coremap isCoremap => (stock coremap isCoremap).2⟩

/-- There are frames enough to load the space, twice over. -/
def opened : Session :=
  inhabited 64

theorem reachable_opened :
    Reachable opened ∧ opened.machine.memory.ram.window = .directMap := by
  unfold opened
  exact reachable_inhabited (by decide +kernel) (by decide +kernel) (by decide +kernel)
    (noWrap_of_all (by decide +kernel) (by decide +kernel))

theorem exists_blank_opened : ∃ space, opened.Blank space 62 0x1000000 :=
  exists_blank reachable_opened.2 (by decide +kernel)

theorem exists_step_loadable :
    ∃ session space, Step opened session ∧ session.Loadable space 2 61 0xFFFFFF := by
  obtain ⟨space, blank⟩ := exists_blank_opened
  obtain ⟨_, _, _, run, noWrap, loadable⟩ := blank.exists_loadable reachable_opened.1
    (by decide) (by decide) (by decide +kernel : opened.spacious 2 = true)
  exact ⟨_, space, .of_sourced (.walk space.id stackBase.base true) trivial rfl run noWrap,
    loadable⟩

/-- A run can come to a space that is ready to be loaded. -/
theorem exists_loadable :
    ∃ session space, Reachable session ∧ session.Loadable space 2 61 0xFFFFFF := by
  obtain ⟨session, space, step, loadable⟩ := exists_step_loadable
  exact ⟨session, space, reachable_opened.1.step step, loadable⟩

/-- There is no frame for anything else. -/
def exhausted : Session :=
  inhabited 2

theorem reachable_exhausted :
    Reachable exhausted ∧ exhausted.machine.memory.ram.window = .directMap := by
  unfold exhausted
  exact reachable_inhabited (by decide +kernel) (by decide +kernel) (by decide +kernel)
    (noWrap_of_all (by decide +kernel) (by decide +kernel))

theorem exists_blank_exhausted :
    ∃ space, exhausted.Blank space 0 0x1000000 ∧ space.id = ⟨1⟩ := by
  obtain ⟨space, blank⟩ := exists_blank reachable_exhausted.2
    (by decide +kernel : exhausted.isBlank 0 0x1000000 = true)
  have ids : exhausted.machine.spaces.map AddressSpace.id = [⟨1⟩] := by
    decide +kernel
  rw [blank.alone] at ids
  exact ⟨space, blank, List.singleton_inj.mp ids⟩

/-- A region of one page. -/
def defining (address : VirtAddr) : Request :=
  .define ⟨1⟩ address 0x1000 (.ofBools true true false)

/-- The session after a region of one page was defined by a thread that may sleep. -/
def defined (session : Session) (address : VirtAddr) : Session :=
  session.after (defining address) (session.outcome ⟨1, false⟩ (defining address))

theorem reachable_defined
    (rooted : Reachable session ∧ session.machine.memory.ram.window = .directMap)
    (address : VirtAddr)
    (accepted : (session.outcome ⟨1, false⟩ (defining address)).result = .value none)
    (noWrap : session.NoWrap (defining address)
      (session.outcome ⟨1, false⟩ (defining address)).events) :
    Reachable (session.defined address) ∧
      (session.defined address).machine.memory.ram.window = .directMap := by
  have permitted : session.Permitted (defining address) := trivial
  exact ⟨rooted.1.act permitted accepted noWrap,
    (window_after rooted.1.atRest permitted noWrap).trans rooted.2⟩

/-- The regions of the only space are two pages, and there is a page between them. -/
def apart : Session :=
  (opened.defined (.ofNat 0x7FC10000)).defined (.ofNat 0x7FC20000)

theorem reachable_apart :
    Reachable apart ∧ apart.machine.memory.ram.window = .directMap := by
  unfold apart
  refine reachable_defined (reachable_defined reachable_opened _ ?_ ?_) _ ?_ ?_
  · decide +kernel
  · exact noWrap_of_all (by decide +kernel) (by decide +kernel)
  · decide +kernel
  · exact noWrap_of_all (by decide +kernel) (by decide +kernel)

theorem exists_blank_apart : ∃ space, apart.Blank space 62 0x1000000 :=
  exists_blank reachable_apart.2 (by decide +kernel)

/-- The space with two regions can be loaded. Its segments leave the first page of all alone. -/
theorem exists_laden_apart :
    ∃ session space, Reachable session ∧ session.Laden space 41 0xFFFFE8 ∧
      space.regions.length = 2 ∧ ¬ space.Spans (Address.ofNat 0 : VirtAddr).page.base := by
  have two : (apart.machine.spaces.all fun space => decide (space.regions.length = 2)) = true := by
    decide +kernel
  obtain ⟨space, blank⟩ := exists_blank_apart
  simp only [blank.alone, List.all_cons, List.all_nil, Bool.and_true, decide_eq_true_eq] at two
  obtain ⟨table, walked, shown, run, noWrap, loadable⟩ :=
    blank.exists_loadable reachable_apart.1 (by decide) (by decide)
      (by decide +kernel : apart.spacious 2 = true)
  have reachable := reachable_apart.1.act_of_sourced (.walk space.id stackBase.base true) trivial
    rfl run noWrap
  obtain ⟨session, space', step, like, laden⟩ := loadable.exists_laden reachable (by decide)
  rw [two] at laden
  have sameRegions : space'.regions.length = space.regions.length := by
    simpa using congrArg List.length like.regions
  refine ⟨session, space', reachable.step step, laden, sameRegions.trans two, fun spans => ?_⟩
  have sameTable := AddressSpace.ofPage_eq_of_spans blank.beside ((like.spans_iff _).mp spans)
  exact absurd sameTable (by decide)

end Session

end PagedMemory
