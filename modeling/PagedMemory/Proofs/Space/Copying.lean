import PagedMemory.Proofs.Space.Destroying
import PagedMemory.Proofs.Space.Loading

/-!
# Copying a space

The child gets a table where its parent has one and a page where its parent has
one, and the bytes of each page. Both loops keep what the child has within what
the parent has, and equal to it where no visit is still to come. All of this is
work for the child, so nothing of the parent changes; if it fails, what the
child got is given back.
-/

namespace PagedMemory

variable {mem mem' start : Memory (Coremap NoEviction)} {left : Nat} {context : Option Context}
  {parent child : AddressSpace} {frame own table : Frame} {page : VirtPage} {i : DirectoryIndex}
  {ahead ahead' : DirectoryIndex → Prop} {pending pending' : VirtPage → Prop} {complete : Prop}

open Memory (Extended Mapped)

/-- What the child has of its parent, as the parent was in `start`: every table
but those in `ahead` and every page but those in `pending`, and nothing else. -/
structure Copied (parent child : AddressSpace) (start : Memory (Coremap NoEviction))
    (ahead : DirectoryIndex → Prop) (pending : VirtPage → Prop)
    (mem : Memory (Coremap NoEviction)) : Prop where
  holds : Holds True child none mem
  confined : start.Confined child.owner mem
  tablesOnly : ∀ i, mem.ram.table? child.directory i ≠ none →
    start.ram.table? parent.directory i ≠ none
  pagesOnly : ∀ page, mem.ram.page? child.directory page ≠ none →
    start.ram.page? parent.directory page ≠ none
  tables : ∀ i, ¬ ahead i → start.ram.table? parent.directory i ≠ none →
    mem.ram.table? child.directory i ≠ none
  pages : ∀ page frame, ¬ pending page → start.ram.page? parent.directory page = some frame →
    ∃ own, mem.ram.page? child.directory page = some own ∧ mem.ram.SameBytes own frame

/-- A mapped frame lies in a live block of the space. -/
theorem Holds.exists_live_page {space : AddressSpace} {spare : Option Extent}
    (holds : Holds complete space spare mem)
    (mapped : mem.ram.page? space.directory page = some frame) :
    ∃ b, Live mem.descriptors b ∧ b.owner = space.owner ∧ b.Covers frame.number := by
  obtain ⟨slot, uses, _⟩ := exists_uses_page holds.shaped mapped
  exact holds.exists_live uses

namespace Copied

/-- Fewer tables and pages are still to come. -/
theorem mono (copied : Copied parent child start ahead pending mem)
    (tables : ∀ i, ¬ ahead' i → start.ram.table? parent.directory i ≠ none →
      ¬ ahead i ∨ mem.ram.table? child.directory i ≠ none)
    (pages : ∀ page frame, ¬ pending' page →
      start.ram.page? parent.directory page = some frame → ¬ pending page ∨
        ∃ own, mem.ram.page? child.directory page = some own ∧ mem.ram.SameBytes own frame) :
    Copied parent child start ahead' pending' mem where
  holds := copied.holds
  confined := copied.confined
  tablesOnly := copied.tablesOnly
  pagesOnly := copied.pagesOnly
  tables i behind named := (tables i behind named).elim (fun done => copied.tables i done named) id
  pages page frame behind mapped :=
    (pages page frame behind mapped).elim (fun done => copied.pages page frame done mapped) id

/-- The parent's pages are as they were. -/
theorem same_parent (parentHolds : Holds complete parent none start)
    (others : parent.owner ≠ child.owner) (confined : start.Confined child.owner mem)
    (mapped : start.ram.page? parent.directory page = some frame) :
    Ram.SameFrame frame start.ram mem.ram := by
  obtain ⟨b, live, mine, covers⟩ := parentHolds.exists_live_page mapped
  exact confined.same b live (mine ▸ others) frame covers

/-- The child's tables grow within what the parent has. -/
theorem grow (parentHolds : Holds complete parent none start) (others : parent.owner ≠ child.owner)
    (copied : Copied parent child start ahead pending mem)
    (extended : Extended child.owner child.directory (fun _ => False) mem mem')
    (holds' : Holds True child none mem')
    (tablesOnly : ∀ i, mem'.ram.table? child.directory i ≠ none →
      start.ram.table? parent.directory i ≠ none)
    (pagesOnly : ∀ page, mem'.ram.page? child.directory page ≠ none →
      start.ram.page? parent.directory page ≠ none) :
    Copied parent child start ahead pending mem' where
  holds := holds'
  confined := copied.confined.trans extended.confined
  tablesOnly := tablesOnly
  pagesOnly := pagesOnly
  tables i behind named := by
    obtain ⟨table, isTable⟩ := Option.ne_none_iff_exists'.mp (copied.tables i behind named)
    rw [extended.tables i table isTable]
    exact Option.some_ne_none table
  pages page frame behind mapped := by
    obtain ⟨own, isOwn, equal⟩ := copied.pages page frame behind mapped
    refine ⟨own, extended.pages page own isOwn, equal.of_same ?_ ?_⟩
    · obtain ⟨b, live, _, covers⟩ := copied.holds.exists_live_page isOwn
      apply extended.same b live own covers (copied.holds.page_ne_directory isOwn) _ not_false
      exact fun i named => copied.holds.page_ne_table isOwn named rfl
    · have parentHolds1 := parentHolds.of_confined copied.confined others
      apply same_parent parentHolds1.1 others extended.confined
      rw [parentHolds1.2.2, mapped]

/-- A table for an entry of the parent keeps the child's tables within those of the parent. -/
theorem tablesOnly_of_update (copied : Copied parent child start ahead pending mem)
    {ram : Ram} {gained : Option Frame} (parentNamed : start.ram.table? parent.directory i ≠ none)
    (tables : ram.table? child.directory =
      Function.update (mem.ram.table? child.directory) i gained) (j : DirectoryIndex)
    (present : ram.table? child.directory j ≠ none) :
    start.ram.table? parent.directory j ≠ none := by
  rw [tables] at present
  rcases update_ne_none_iff.mp present with ⟨rfl, _⟩ | ⟨_, old⟩
  · exact parentNamed
  · exact copied.tablesOnly j old

/-- The child gets the table of an entry that its parent has. -/
theorem grow_table (parentHolds : Holds complete parent none start)
    (others : parent.owner ≠ child.owner) (copied : Copied parent child start ahead pending mem)
    (extended : Extended child.owner child.directory (fun _ => False) mem mem')
    (holds' : Holds True child none mem') {gained : Option Frame}
    (tables : mem'.ram.table? child.directory =
      Function.update (mem.ram.table? child.directory) i gained)
    (pages : mem'.ram.page? child.directory = mem.ram.page? child.directory)
    (parentNamed : start.ram.table? parent.directory i ≠ none) :
    Copied parent child start ahead pending mem' := by
  refine copied.grow parentHolds others extended holds'
    (copied.tablesOnly_of_update parentNamed tables) ?_
  rw [pages]
  exact copied.pagesOnly

/-- The child gets a page that its parent has, under an entry that both have. -/
theorem grow_page (parentHolds : Holds complete parent none start)
    (others : parent.owner ≠ child.owner) (copied : Copied parent child start ahead pending mem)
    (gained : Mapped child page own mem mem') (holds' : Holds True child none mem')
    (named : mem.ram.table? child.directory (.ofPage page) ≠ none)
    (mapped : start.ram.page? parent.directory page = some frame) :
    Copied parent child start ahead pending mem' := by
  obtain ⟨_, tables⟩ := gained.tables
  refine copied.grow parentHolds others gained.extended holds'
    (copied.tablesOnly_of_update (copied.tablesOnly _ named) tables) ?_
  intro other present
  rw [gained.pages] at present
  rcases update_ne_none_iff.mp present with ⟨rfl, _⟩ | ⟨_, old⟩
  · rw [mapped]
    exact Option.some_ne_none frame
  · exact copied.pagesOnly other old

/-- No page of the child lies in a frame of the parent. -/
theorem own_ne_frame (parentHolds : Holds complete parent none start)
    (others : parent.owner ≠ child.owner) (copied : Copied parent child start ahead pending mem)
    {other : VirtPage} (isOwn : mem.ram.page? child.directory page = some own)
    (mapped : start.ram.page? parent.directory other = some frame) : own ≠ frame := by
  rintro rfl
  obtain ⟨holds1, _, pages1⟩ := parentHolds.of_confined copied.confined others
  obtain ⟨_, uses, _⟩ := exists_uses_page holds1.shaped (pages1 ▸ mapped)
  obtain ⟨_, ownUses, _⟩ := exists_uses_page copied.holds.shaped isOwn
  exact others (holds1.owner_eq copied.holds uses ownUses)

/-- A page of the child gets the bytes of its parent's. -/
theorem write (parentHolds : Holds complete parent none start)
    (others : parent.owner ≠ child.owner) (copied : Copied parent child start ahead pending mem)
    (isOwn : mem.ram.page? child.directory page = some own)
    (mapped : start.ram.page? parent.directory page = some frame) {ram : Ram}
    (differ : Ram.DifferOn (· = own) mem.ram ram) (equal : ram.SameBytes own frame) :
    Copied parent child start ahead (fun other => pending other ∧ other ≠ page)
      { mem with ram := ram } := by
  obtain ⟨b, live, mine, covers⟩ := copied.holds.exists_live_page isOwn
  obtain ⟨holds', tables, pages⟩ := copied.holds.of_write differ
    (copied.holds.page_ne_directory isOwn).symm
    (fun i named => copied.holds.page_ne_table isOwn named rfl)
  constructor
  case holds => exact holds'
  case confined => exact copied.confined.trans (.of_write live mine covers differ)
  case tablesOnly =>
    rw [tables]
    exact copied.tablesOnly
  case pagesOnly =>
    rw [pages]
    exact copied.pagesOnly
  case tables =>
    rw [tables]
    exact copied.tables
  case pages =>
    intro other otherFrame behind mappedOther
    rw [pages]
    by_cases same : other = page
    · subst same
      obtain rfl := Option.some.inj (mapped.symm.trans mappedOther)
      exact ⟨own, isOwn, equal⟩
    · have done : ¬ pending other := fun isPending => behind ⟨isPending, same⟩
      obtain ⟨otherOwn, isOtherOwn, otherEqual⟩ := copied.pages other otherFrame done mappedOther
      have different : otherOwn ≠ own := by
        rintro rfl
        exact same (copied.holds.page_injective isOtherOwn isOwn)
      have notParent := copied.own_ne_frame parentHolds others isOwn mappedOther
      exact ⟨otherOwn, isOtherOwn,
        otherEqual.of_same (differ.same _ different) (differ.same _ notParent.symm)⟩

end Copied

/-! ## The loops -/

/-- The pages under the entries in `todo`, and those under entry `i` at the places in `entries`. -/
def PagesUnder (i : DirectoryIndex) (entries : List TableIndex) (todo : List DirectoryIndex)
    (page : VirtPage) : Prop :=
  DirectoryIndex.ofPage page ∈ todo ∨
    (DirectoryIndex.ofPage page = i ∧ TableIndex.ofPage page ∈ entries)

section PagesUnder

variable {k : TableIndex} {entries : List TableIndex} {todo : List DirectoryIndex}

theorem pagesUnder_all_iff :
    PagesUnder i TableIndex.all todo page ↔ DirectoryIndex.ofPage page ∈ i :: todo := by
  rw [PagesUnder, and_iff_left (TableIndex.mem_all _), List.mem_cons, or_comm]

theorem pagesUnder_nil_iff :
    PagesUnder i [] todo page ↔ DirectoryIndex.ofPage page ∈ todo := by
  simp [PagesUnder]

theorem pagesUnder_cons_iff :
    PagesUnder i (k :: entries) todo page ↔
      page = VirtPage.ofIndices i k ∨ PagesUnder i entries todo page := by
  rw [VirtPage.eq_ofIndices_iff, PagesUnder, PagesUnder, List.mem_cons]
  tauto

end PagesUnder

namespace Copied

variable {k : TableIndex} {entries : List TableIndex} {todo : List DirectoryIndex}

/-- More pages may be said to be still to come. -/
theorem weaken (copied : Copied parent child start ahead pending mem)
    (more : ∀ page, pending page → pending' page) :
    Copied parent child start ahead pending' mem :=
  copied.mono (fun _ behind _ => .inl behind) fun page _ behind _ => .inl (mt (more page) behind)

/-- An entry that names no table in the parent leaves nothing to copy. -/
theorem skip_table (copied : Copied parent child start (· ∈ i :: todo)
      (fun page => DirectoryIndex.ofPage page ∈ i :: todo) mem)
    (unnamed : start.ram.table? parent.directory i = none) :
    Copied parent child start (· ∈ todo) (fun page => DirectoryIndex.ofPage page ∈ todo) mem := by
  have other {j : DirectoryIndex} (behind : j ∉ todo)
      (named : start.ram.table? parent.directory j ≠ none) : j ∉ i :: todo := by
    rw [List.mem_cons, not_or]
    exact ⟨fun same => named (same ▸ unnamed), behind⟩
  refine copied.mono (fun j behind named => .inl (other behind named)) ?_
  intro page frame behind mapped
  refine .inl (other behind fun isUnnamed => ?_)
  rw [Ram.page?_eq_none_of_table? isUnnamed] at mapped
  cases mapped

/-- Once the child has the table of an entry, the pages under it are to come. -/
theorem enter_table (copied : Copied parent child start (· ∈ i :: todo)
      (fun page => DirectoryIndex.ofPage page ∈ i :: todo) mem)
    (named : mem.ram.table? child.directory i ≠ none) :
    Copied parent child start (· ∈ todo) (PagesUnder i TableIndex.all todo) mem := by
  refine (copied.mono ?_ fun _ _ behind _ => .inl behind).weaken
    fun _ => pagesUnder_all_iff.mpr
  intro j behind _
  by_cases same : j = i
  · subst same
    exact .inr named
  · rw [List.mem_cons, not_or]
    exact .inl ⟨same, behind⟩

/-- A place at which the parent has no page leaves nothing to copy. -/
theorem skip_page (copied : Copied parent child start ahead (PagesUnder i (k :: entries) todo) mem)
    (unmapped : start.ram.page? parent.directory (VirtPage.ofIndices i k) = none) :
    Copied parent child start ahead (PagesUnder i entries todo) mem := by
  refine copied.mono (fun _ behind _ => .inl behind) fun page frame behind mapped => .inl ?_
  rw [pagesUnder_cons_iff, not_or]
  refine ⟨?_, behind⟩
  rintro rfl
  rw [unmapped] at mapped
  cases mapped

/-- A page whose bytes were copied is not to come any more. -/
theorem next_page (copied : Copied parent child start ahead (fun page =>
      PagesUnder i (k :: entries) todo page ∧ page ≠ VirtPage.ofIndices i k) mem) :
    Copied parent child start ahead (PagesUnder i entries todo) mem :=
  copied.weaken fun _ ⟨toCome, other⟩ => (pagesUnder_cons_iff.mp toCome).resolve_left other

end Copied

/-- Copying tables and pages came to an end since no frame is free: what the child has, its
parent has as well, but the child lacks a table or a page. -/
structure Stuck (parent child : AddressSpace) (start mem : Memory (Coremap NoEviction)) :
    Prop where
  copied : Copied parent child start (fun _ => True) (fun _ => True) mem
  starved : Coremap.Starved mem.descriptors 1
  lacking : (∃ i, start.ram.table? parent.directory i ≠ none ∧
      mem.ram.table? child.directory i = none) ∨
    ∃ page, start.ram.page? parent.directory page ≠ none ∧
      mem.ram.page? child.directory page = none

/-- Copying tables and pages reports that there is no frame for one more. -/
def Halted (parent child : AddressSpace) (start : Memory (Coremap NoEviction)) (e : SpaceError)
    (mem : Memory (Coremap NoEviction)) (left : Nat) : Prop :=
  e = .outOfMemory ⟨1⟩ ∧ mem.Ready left ∧ Stuck parent child start mem

/-- What copying leaves of the child when frames ran out. A child that is not to be loaded first
was stopped while tables and pages were copied. -/
structure Abandoned (parent child : AddressSpace) (start : Memory (Coremap NoEviction))
    (e : SpaceError) (mem : Memory (Coremap NoEviction)) (left : Nat) : Prop where
  reason : ∃ n, e = .outOfMemory ⟨n⟩
  ready : mem.Ready left
  holds : Holds True child none mem
  confined : start.Confined child.owner mem
  halted : parent.loaded = false → Halted parent child start e mem left

/-- What copying of tables and pages leaves. -/
theorem Halted.abandoned {e : SpaceError} (halted : Halted parent child start e mem left) :
    Abandoned parent child start e mem left := by
  obtain ⟨isMemory, ready, stuck⟩ := halted
  exact ⟨⟨1, isMemory⟩, ready, stuck.copied.holds, stuck.copied.confined,
    fun _ => ⟨isMemory, ready, stuck⟩⟩

/-- A step that was undone leaves the child stuck. -/
theorem Copied.stuck (copied : Copied parent child start ahead pending mem)
    (restored : Memory.Restored child mem mem') (starved : Coremap.Starved mem.descriptors 1)
    (lacking : (∃ i, start.ram.table? parent.directory i ≠ none ∧
        mem.ram.table? child.directory i = none) ∨
      ∃ page, start.ram.page? parent.directory page ≠ none ∧
        mem.ram.page? child.directory page = none) : Stuck parent child start mem' where
  copied := {
    holds := restored.holds copied.holds
    confined := copied.confined.trans restored.extended.confined
    tablesOnly := by
      rw [restored.tables]
      exact copied.tablesOnly
    pagesOnly := by
      rw [restored.pages]
      exact copied.pagesOnly
    tables := fun _ behind => absurd trivial behind
    pages := fun _ _ behind => absurd trivial behind }
  starved := by
    rw [restored.descriptors]
    exact starved
  lacking := by
    rw [restored.tables, restored.pages]
    exact lacking

namespace Copied

variable {k : TableIndex} {todo : List DirectoryIndex} {childTable : Frame}

theorem ends_copyFrame {ε : Type} {post : Post ε (Memory (Coremap NoEviction)) Unit}
    (parentHolds : Holds complete parent none start) (others : parent.owner ≠ child.owner)
    (ready : mem.Ready left) (copied : Copied parent child start ahead pending mem)
    (isOwn : mem.ram.page? child.directory page = some own)
    (mapped : start.ram.page? parent.directory page = some frame)
    (refused : ∀ cause mem', start.Refused (¬ Able context start) child.owner mem' →
      post.panic cause mem')
    (done : ∀ mem', mem'.Ready left →
      Copied parent child start ahead (fun other => pending other ∧ other ≠ page) mem' →
      mem'.ram.table? child.directory = mem.ram.table? child.directory → post.value () mem' left) :
    (Memory.onRam (Ram.copyFrame own frame)).Ends left mem post := by
  obtain ⟨b, live, mine, covers⟩ := copied.holds.exists_live_page isOwn
  obtain ⟨holds1, _, pages1⟩ := parentHolds.of_confined copied.confined others
  obtain ⟨d, liveParent, _, coversParent⟩ := holds1.exists_live_page (pages1 ▸ mapped)
  refine Memory.ends_onRam.mpr (Ram.ends_copyFrame
    (copied.own_ne_frame parentHolds others isOwn mapped) (ready.within live covers) ?_ ?_)
  · intro denied cause
    refine refused cause mem ⟨copied.confined.not_able fun able => ?_, copied.confined⟩
    rcases denied with denied | denied
    · exact denied (ready.check able live covers)
    · exact denied (ready.check able liveParent coversParent)
  intro ram differ equal
  have written := copied.write parentHolds others isOwn mapped differ equal
  have confined : mem.Confined child.owner { mem with ram := ram } :=
    .of_write live mine covers differ
  apply done _ (confined.ready ready.coremap ready) written
  exact (copied.holds.of_write differ (copied.holds.page_ne_directory isOwn).symm
    (fun i named => copied.holds.page_ne_table isOwn named rfl)).2.1

/-- Copying the page of one entry. -/
theorem ends_copyPage (parentHolds : Holds complete parent none start)
    (others : parent.owner ≠ child.owner) (ready : mem.Ready left)
    (copied : Copied parent child start ahead pending mem)
    (named : mem.ram.table? child.directory i = some childTable)
    (mapped : start.ram.page? parent.directory (VirtPage.ofIndices i k) = some frame) :
    (AddressSpace.copyPage (Coremap.source context) child childTable i k frame).Ends left mem
      ⟨fun _ mem' left => mem'.Ready left ∧
          Copied parent child start ahead
            (fun other => pending other ∧ other ≠ VirtPage.ofIndices i k) mem' ∧
          mem'.ram.table? child.directory i = some childTable,
        Halted parent child start,
        fun _ => start.Refused (¬ Able context start) child.owner⟩ := by
  have ownPage : mem.ram.page? child.directory (VirtPage.ofIndices i k) =
      (mem.ram.tableEntry childTable k).frame? := by
    rw [Ram.page?_ofIndices named, Ram.mapping?]
  refine Operation.ends_bind.mpr (Memory.ends_onRam.mpr (Ram.ends_readTable ?_ ?_))
  · exact fun denied => absurd (copied.holds.tablesAdmitted i childTable named) denied
  rcases entry : (mem.ram.tableEntry childTable k).frame? with _ | own
  · rw [entry] at ownPage
    simp only [entry]
    refine Operation.ends_bind.mpr ((Memory.ends_materialize ready copied.holds).mono ?_ ?_ ?_)
    · rintro own mem1 left1 ⟨ready1, holds1, made⟩
      rw [Page.page_base] at made
      have isOwn : mem1.ram.page? child.directory (VirtPage.ofIndices i k) = some own := by
        rw [made.mapped.pages, Function.update_self]
      have grown : Copied parent child start ahead pending mem1 := by
        refine copied.grow_page parentHolds others made.mapped holds1 ?_ mapped
        rw [DirectoryIndex.ofPage_ofIndices, named]
        exact Option.some_ne_none childTable
      apply ends_copyFrame parentHolds others ready1 grown isOwn mapped
      · exact fun _ _ refused => refused
      · intro mem2 ready2 copied2 tables
        refine ⟨ready2, copied2, ?_⟩
        rw [tables]
        exact made.mapped.extended.tables i childTable named
    · rintro e mem1 left1 ⟨rfl, starved, ready1, restored⟩
      have noFrame : Coremap.Starved mem.descriptors 1 := by
        refine starved.resolve_right ?_
        rintro ⟨unnamed, _⟩
        rw [DirectoryIndex.ofAddr, Page.page_base, DirectoryIndex.ofPage_ofIndices,
          named] at unnamed
        cases unnamed
      refine ⟨rfl, ready1, copied.stuck restored noFrame (.inr ⟨_, ?_, ownPage⟩)⟩
      rw [mapped]
      exact Option.some_ne_none frame
    · refine fun cause mem1 refused => refused.after copied.confined ?_
      rintro (cannot | present)
      · exact copied.confined.not_able cannot
      · rw [Page.page_base, ownPage] at present
        exact absurd rfl present
  · rw [entry] at ownPage
    simp only [entry]
    refine Operation.ends_bind.mpr (Operation.ends_pure.mpr ?_)
    apply ends_copyFrame parentHolds others ready copied ownPage mapped
    · exact fun _ _ refused => refused
    · intro mem2 ready2 copied2 tables
      exact ⟨ready2, copied2, by rw [tables, named]⟩

/-- Copying the pages of one table. -/
theorem ends_copyPages (parentHolds : Holds complete parent none start)
    (others : parent.owner ≠ child.owner) {parentTable : Frame} (ready : mem.Ready left)
    (copied : Copied parent child start (· ∈ todo) (PagesUnder i TableIndex.all todo) mem)
    (named : mem.ram.table? child.directory i = some childTable)
    (parentNamed : start.ram.table? parent.directory i = some parentTable) :
    (AddressSpace.eachMapping parentTable fun k owned =>
      AddressSpace.copyPage (Coremap.source context) child childTable i k owned).Ends left mem
      ⟨fun _ mem' left => mem'.Ready left ∧ Copied parent child start (· ∈ todo)
          (fun page => DirectoryIndex.ofPage page ∈ todo) mem',
        Halted parent child start,
        fun _ => start.Refused (¬ Able context start) child.owner⟩ := by
  -- The parent's table names what it named at the start, as the work is done for the child.
  have parentPage {entries : List TableIndex} {mem : Memory (Coremap NoEviction)}
      (copied : Copied parent child start (· ∈ todo) (PagesUnder i entries todo) mem)
      (k : TableIndex) : start.ram.page? parent.directory (VirtPage.ofIndices i k) =
        mem.ram.mapping? parentTable k := by
    obtain ⟨_, tables, pages⟩ := parentHolds.of_confined copied.confined others
    rw [← pages, Ram.page?_ofIndices ((congrFun tables i).trans parentNamed)]
  apply AddressSpace.ends_eachMapping (fun entries mem left => mem.Ready left ∧
    Copied parent child start (· ∈ todo) (PagesUnder i entries todo) mem ∧
    mem.ram.table? child.directory i = some childTable)
  case start => exact ⟨ready, copied, named⟩
  case refused =>
    rintro entries mem left ⟨_, copied, _⟩ denied
    exact absurd (copied.confined.admitted _ (parentHolds.tablesAdmitted i _ parentNamed)) denied
  case present =>
    rintro k entries mem left frame ⟨ready, copied, named⟩ isMapped
    have mapped := (parentPage copied k).trans isMapped
    refine (ends_copyPage parentHolds others ready copied named mapped).mono ?_
      (fun _ _ _ => id) (fun _ _ => id)
    exact fun _ _ _ ⟨ready', copied', named'⟩ => ⟨ready', copied'.next_page, named'⟩
  case absent =>
    rintro k entries mem left ⟨ready, copied, named⟩ unmapped
    exact ⟨ready, copied.skip_page ((parentPage copied k).trans unmapped), named⟩
  case finish =>
    rintro mem left ⟨ready, copied, _⟩
    exact ⟨ready, copied.weaken fun _ => pagesUnder_nil_iff.mp⟩

theorem ends_copyTables (parentHolds : Holds complete parent none start)
    (others : parent.owner ≠ child.owner) (ready : mem.Ready left)
    (copied : Copied parent child start (fun _ => True) (fun _ => True) mem) :
    (AddressSpace.copyTables (Coremap.source context) parent child).Ends left mem
      ⟨fun _ mem' left => mem'.Ready left ∧
          Copied parent child start (fun _ => False) (fun _ => False) mem',
        Halted parent child start,
        fun _ => start.Refused (¬ Able context start) child.owner⟩ := by
  have parentTable {todo : List DirectoryIndex} {mem : Memory (Coremap NoEviction)}
      (copied : Copied parent child start (· ∈ todo)
        (fun page => DirectoryIndex.ofPage page ∈ todo) mem) :
      start.ram.table? parent.directory = mem.ram.table? parent.directory :=
    (parentHolds.of_confined copied.confined others).2.1.symm
  apply AddressSpace.ends_eachTable (fun todo mem left => mem.Ready left ∧
    Copied parent child start (· ∈ todo) (fun page => DirectoryIndex.ofPage page ∈ todo) mem)
  case start =>
    refine ⟨ready, copied.mono ?_ ?_⟩
    · exact fun i behind _ => absurd (DirectoryIndex.mem_all i) behind
    · exact fun page _ behind _ => absurd (DirectoryIndex.mem_all _) behind
  case refused =>
    rintro todo mem left ⟨_, copied⟩ denied
    exact absurd (copied.confined.admitted _ parentHolds.directoryAdmitted) denied
  case present =>
    rintro i todo mem left table ⟨ready, copied⟩ isNamed
    have parentNamed := (congrFun (parentTable copied) i).trans isNamed
    refine Operation.Ends.bind (Memory.ends_ensureTable ready copied.holds) ?_ ?_ ?_
    · rintro childTable mem1 left1 ⟨ready1, holds1, extended, tables, pages⟩
      rw [DirectoryIndex.ofAddr, Page.page_base, DirectoryIndex.ofPage_ofIndices] at tables
      have named : mem1.ram.table? child.directory i = some childTable := by
        rw [tables, Function.update_self]
      have grown := copied.grow_table parentHolds others extended holds1 tables pages
        (parentNamed ▸ Option.some_ne_none table)
      have entered := grown.enter_table (named ▸ Option.some_ne_none childTable)
      exact ends_copyPages parentHolds others ready1 entered named parentNamed
    · rintro e mem1 left1 ⟨rfl, starved, unnamed, same⟩
      rw [DirectoryIndex.ofAddr, Page.page_base, DirectoryIndex.ofPage_ofIndices] at unnamed
      refine ⟨rfl, same.ready, copied.stuck (same.restored child) starved (.inl ⟨i, ?_, unnamed⟩)⟩
      exact parentNamed ▸ Option.some_ne_none table
    · exact fun _ _ refused => refused.after copied.confined copied.confined.not_able
  case absent =>
    rintro i todo mem left ⟨ready, copied⟩ isUnnamed
    exact ⟨ready, copied.skip_table ((congrFun (parentTable copied) i).trans isUnnamed)⟩
  case finish =>
    rintro mem left ⟨ready, copied⟩
    refine ⟨ready, copied.mono ?_ ?_⟩
    · exact fun _ _ _ => .inl List.not_mem_nil
    · exact fun _ _ _ _ => .inl List.not_mem_nil

end Copied

/-! ## Filling a new child -/

/-- A segment of a space that has the layout of a loaded one lies on the pages of
the segment of that name. -/
theorem exists_segment_of_regions {space space' : AddressSpace} {ram : Ram} {name : SegmentName}
    {g : Segment} (loaded : space.Loaded ram)
    (regions : space'.regions.map Region.unbacked = space.regions.map Region.unbacked)
    (found : space'.segment? name = some g) :
    ∃ g', space.segment? name = some g' ∧ g'.page = g.page ∧ g'.pages = g.pages := by
  cases name with
  | stack =>
    obtain ⟨frame, isFrame⟩ := Option.isSome_iff_exists.mp loaded.stack
    obtain ⟨_, _, rfl⟩ := Option.map_eq_some_iff.mp found
    exact ⟨⟨stackBase, frame, Layout.stackPages⟩, by rw [AddressSpace.segment?, isFrame]; rfl, rfl,
      rfl⟩
  | region i =>
    obtain ⟨region', inList', _, samePage', samePages'⟩ := segment?_region_eq_some_iff.mp found
    have entries := congrArg (fun regions : List Region => regions[i]?) regions
    simp only [List.getElem?_map, inList', Option.map_some] at entries
    obtain ⟨region, inList, same⟩ := Option.map_eq_some_iff.mp entries.symm
    obtain ⟨frame, backed⟩ :=
      Option.isSome_iff_exists.mp (loaded.regions region (List.mem_of_getElem? inList))
    have samePage : region.unbacked.page = region'.unbacked.page := congrArg Region.page same
    have samePages : region.unbacked.pages = region'.unbacked.pages := congrArg Region.pages same
    refine ⟨⟨region.page, frame, region.pages⟩, ?_, samePage.trans samePage',
      samePages.trans samePages'⟩
    rw [AddressSpace.segment?, inList, Option.bind_some, Region.segment?, backed, Option.map_some]

/-- A child without tables has nothing of its parent yet. -/
theorem Copied.of_unnamed (holds : Holds True child none mem)
    (confined : start.Confined child.owner mem)
    (unnamed : ∀ i, mem.ram.table? child.directory i = none) :
    Copied parent child start (fun _ => True) (fun _ => True) mem where
  holds := holds
  confined := confined
  tablesOnly i named := absurd (unnamed i) named
  pagesOnly _ mapped := absurd (Ram.page?_eq_none_of_table? (unnamed _)) mapped
  tables _ behind := absurd trivial behind
  pages _ _ behind := absurd trivial behind

/-- A loaded child has no page that its loaded parent has not. -/
theorem Prepared.copied {building : Building (Coremap NoEviction)}
    (prepared : Prepared True child mem building) (parentLoaded : parent.Loaded start.ram)
    (regions : child.regions = parent.regions.map Region.unbacked)
    (confined : start.Confined child.owner mem)
    (unnamed : ∀ i, mem.ram.table? child.directory i = none) :
    Copied parent building.space start (fun _ => True) (fun _ => True) building.memory := by
  have unmapped (page : VirtPage) : mem.ram.page? child.directory page = none :=
    Ram.page?_eq_none_of_table? (unnamed _)
  have like := prepared.like
  have sameRegions :
      building.space.regions.map Region.unbacked = parent.regions.map Region.unbacked := by
    rw [like.regions, regions, List.map_map]
    rfl
  have inParent {name : SegmentName} {g : Segment} {k : Nat}
      (found : building.space.segment? name = some g) (small : k < g.pages) :
      start.ram.page? parent.directory (g.page.plus k) ≠ none := by
    obtain ⟨g', found', samePage, samePages⟩ :=
      exists_segment_of_regions parentLoaded sameRegions found
    rw [← samePage, parentLoaded.mapped name g' found' k (samePages ▸ small)]
    exact Option.some_ne_none _
  constructor
  case holds => exact prepared.holds
  case confined =>
    rw [like.owner]
    exact confined.trans prepared.extended.confined
  case tablesOnly =>
    intro i named
    rw [like.directory] at named
    rcases prepared.tables i named with old | ⟨name, g, k, _, found, small, rfl⟩
    · exact absurd (unnamed i) old
    · exact fun isUnnamed => inParent found small (Ram.page?_eq_none_of_table? isUnnamed)
  case pagesOnly =>
    intro page mapped
    rw [like.directory] at mapped
    rcases prepared.pages page mapped with old | ⟨name, g, k, _, found, small, rfl⟩
    · exact absurd (unmapped page) old
    · exact inParent found small
  case tables => exact fun _ behind => absurd trivial behind
  case pages => exact fun _ _ behind => absurd trivial behind

theorem ends_copyFrom (parentHolds : Holds complete parent none start)
    (others : parent.owner ≠ child.owner) (ready : mem.Ready left)
    (holds : Holds True child none mem) (unbacked : child.Unbacked)
    (unloaded : child.loaded = false) (regions : child.regions = parent.regions.map Region.unbacked)
    (confined : start.Confined child.owner mem)
    (unnamed : ∀ i, mem.ram.table? child.directory i = none) :
    (AddressSpace.copyFrom (Coremap.source context) parent).Ends left ⟨mem, child⟩
      ⟨fun _ building left => building.memory.Ready left ∧ child.Like building.space ∧
          building.space.loaded = parent.loaded ∧
          (parent.loaded = false → building.space.Unbacked) ∧
          Copied parent building.space start (fun _ => False) (fun _ => False) building.memory,
        fun e building left => child.Like building.space ∧
          (parent.loaded = false → building.space.Unbacked) ∧
          Abandoned parent building.space start e building.memory left,
        fun _ building => start.Refused (¬ Able context start) child.owner building.memory⟩ := by
  unfold AddressSpace.copyFrom
  rcases isLoaded : parent.loaded with _ | _
  · rw [if_neg (by simp)]
    refine Building.ends_inMemory.mpr ?_
    have copied : Copied parent child start _ _ mem := .of_unnamed holds confined unnamed
    refine (Copied.ends_copyTables parentHolds others ready copied).mono ?_ ?_ (fun _ _ => id)
    · exact fun _ _ _ ⟨ready', copied'⟩ =>
        ⟨ready', .refl child, unloaded, fun _ => unbacked, copied'⟩
    · exact fun _ _ _ halted => ⟨.refl child, fun _ => unbacked, halted.abandoned⟩
  · rw [if_pos rfl]
    refine Operation.Ends.bind (ends_prepareLoad holds ready fun _ _ => unbacked) ?_ ?_ ?_
    · rintro ⟨⟩ ⟨mem1, child1⟩ left1 ⟨ready1, _, prepared⟩
      refine Building.ends_inMemory.mpr ?_
      have copied := prepared.copied (parentHolds.loaded isLoaded) regions confined unnamed
      have others1 : parent.owner ≠ child1.owner := prepared.like.owner ▸ others
      refine (Copied.ends_copyTables parentHolds others1 ready1 copied).mono ?_ ?_ ?_
      rotate_right
      · rw [prepared.like.owner]
        exact fun _ _ => id
      · exact fun _ _ _ ⟨ready', copied'⟩ =>
          ⟨ready', prepared.like, prepared.loaded, nofun, copied'⟩
      · exact fun _ _ _ halted => ⟨prepared.like, nofun, halted.abandoned⟩
    · rintro e ⟨mem1, child1⟩ left1 (⟨_, already, _⟩ | ⟨_, ⟨isMemory, ready1, begun, _⟩, _⟩)
      · rw [unloaded] at already
        cases already
      · refine ⟨begun.like, nofun, isMemory, ready1, begun.holds, ?_, ?_⟩
        · exact begun.like.owner ▸ confined.trans begun.extended.confined
        · rw [isLoaded]
          exact nofun
    · refine fun cause building ⟨_, interrupted⟩ => interrupted.refused.after confined ?_
      rintro (cannot | ⟨page, _, _, mapped⟩)
      · exact confined.not_able cannot
      · exact absurd (Ram.page?_eq_none_of_table? (unnamed _)) mapped

/-! ## Copies -/

/-- A space is a copy of another that was in `mem`. -/
structure CopyOf (parent child : AddressSpace) (mem mem' : Memory (Coremap NoEviction)) : Prop where
  id : child.id = mem.nextSpace
  heap : child.heap = parent.heap
  regions : child.regions.map Region.unbacked = parent.regions.map Region.unbacked
  loaded : child.loaded = parent.loaded
  unbacked : parent.loaded = false → child.Unbacked
  copied : Copied parent child mem.named (fun _ => False) (fun _ => False) mem'

theorem CopyOf.whole (isCopy : CopyOf parent child mem mem') : child.Whole := by
  rcases isLoaded : parent.loaded with _ | _
  · exact .inr (isCopy.unbacked isLoaded)
  · exact .inl (isCopy.loaded.trans isLoaded)

theorem unbacked_inherit (isEmpty : child = .empty child.id child.directory) :
    (child.inherit parent).Unbacked where
  regions region inList := by
    obtain ⟨original, _, rfl⟩ := List.mem_map.mp inList
    rfl
  stack := by
    rw [AddressSpace.inherit, isEmpty]
    rfl

/-- A new space may inherit a layout. -/
theorem Holds.inherit (holds : Holds complete child none mem)
    (isEmpty : child = .empty child.id child.directory) (shaped : parent.Shaped) :
    Holds complete (child.inherit parent) none mem := by
  apply holds.of_segments
  · rfl
  · rfl
  · funext name
    rw [(unbacked_inherit isEmpty).segment? name, isEmpty]
    cases name <;> rfl
  · apply shaped.of_regions
    rw [AddressSpace.inherit, List.map_map]
    rfl
  · rw [AddressSpace.inherit, isEmpty]
    rfl

/-- What a child got before its copying failed is given back with the child. -/
theorem Abandoned.ends_destroy {ε : Type} {e : SpaceError}
    (abandoned : Abandoned parent child start e mem left)
    (nothing : ∀ b, Live start.descriptors b → b.owner ≠ child.owner) :
    (child.destroy (Coremap.source context) : Operation ε (Memory (Coremap NoEviction)) Unit).Ends
      left mem
      ⟨fun _ mem' left => mem'.Ready left ∧ start.Confined child.owner mem' ∧
          ∀ b, Live mem'.descriptors b ↔ Live start.descriptors b,
        fun _ _ _ => False, fun _ => start.Refused (¬ Able context start) child.owner⟩ := by
  obtain ⟨_, ready, holds, confined, _⟩ := abandoned
  refine (Memory.ends_destroy ready holds).mono ?_ (fun _ _ _ => id) ?_
  · rintro ⟨⟩ mem' _ ⟨rfl, ready', destroyed⟩
    refine ⟨ready', confined.trans destroyed.confined, fun b => ?_⟩
    rw [destroyed.live_iff trivial b]
    constructor
    · rintro ⟨live, notMine⟩
      exact (confined.live_iff b notMine).mp live
    · intro live
      have notMine := nothing b live
      exact ⟨(confined.live_iff b notMine).mpr live, notMine⟩
  · exact fun _ _ gaveUp => gaveUp.after confined fun cannot able => cannot able.canSleep

/-- A copy of a space that is not loaded was given up for want of a frame, for the directory of
the child or for one more of its tables and pages. -/
def CopyStuck (parent : AddressSpace) (mem : Memory (Coremap NoEviction)) : Prop :=
  Coremap.Starved mem.descriptors 1 ∨ ∃ child mem' left, child.owner = .space mem.nextSpace ∧
    child.Unbacked ∧ mem'.Ready left ∧ Stuck parent child mem.named mem'

theorem Memory.ends_copy (ready : mem.Ready left) (parentHolds : Holds complete parent none mem)
    (nothing : ∀ b, Live mem.descriptors b → b.owner ≠ .space mem.nextSpace)
    (others : parent.id ≠ mem.nextSpace) :
    (parent.copy (Coremap.source context)).Ends left mem
      ⟨fun child mem' left => mem'.Ready left ∧ CopyOf parent child mem mem',
        fun e mem' left => (∃ n, e = .outOfMemory ⟨n⟩) ∧
          (parent.loaded = false → e = .outOfMemory ⟨1⟩ ∧ CopyStuck parent mem) ∧ mem'.Ready left ∧
          mem.named.Confined (.space mem.nextSpace) mem' ∧
          ∀ b, Live mem'.descriptors b ↔ Live mem.descriptors b,
        fun _ => Refused (¬ Able context mem) (.space mem.nextSpace) mem.named⟩ := by
  refine Operation.Ends.bind (ends_create ready nothing) ?_ ?_ (fun _ _ => id)
  · rintro child mem1 left1 ⟨ready1, holds1, created⟩
    have isId : child.id = mem.nextSpace := by rw [created.isEmpty]; rfl
    have isOwner : child.owner = .space mem.nextSpace := congrArg Owner.space isId
    have isEmpty : child = .empty child.id child.directory := by
      rw [isId]
      exact created.isEmpty
    have unloaded : (child.inherit parent).loaded = false := by
      rw [AddressSpace.inherit, isEmpty]
      rfl
    have othersOwner : parent.owner ≠ (child.inherit parent).owner := by
      intro same
      exact others ((Owner.space.inj same).trans isId)
    have startHolds : Holds complete parent none mem.named := parentHolds.renamed _
    have inherited := holds1.inherit isEmpty parentHolds.shaped
    refine Operation.ends_bind.mpr (Building.ends_around.mpr ((ends_copyFrom startHolds othersOwner
      ready1 inherited (unbacked_inherit isEmpty) unloaded rfl created.confined
      created.unnamed).mono ?_ ?_ ?_))
    · rintro ⟨⟩ ⟨mem2, child2⟩ left2 ⟨ready2, like, loaded, unbacked, copied⟩
      refine Operation.ends_bind.mpr (Operation.ends_log.mpr (Operation.ends_pure.mpr ?_))
      refine ⟨ready2, like.id.trans isId, like.heap, ?_, loaded, unbacked, copied⟩
      rw [like.regions, AddressSpace.inherit, List.map_map]
      rfl
    · rintro e ⟨mem2, child2⟩ left2 ⟨like, unbacked, abandoned⟩
      have isOwner2 : child2.owner = .space mem.nextSpace := like.owner.trans isOwner
      refine Operation.ends_bind.mpr (Operation.ends_log.mpr ?_)
      refine Operation.Ends.bind (abandoned.ends_destroy ?_) ?_ (fun _ _ _ => False.elim) ?_
      · exact fun b live => isOwner2 ▸ nothing b live
      · rintro ⟨⟩ mem3 left3 ⟨ready3, confined, sameBlocks⟩
        refine Operation.ends_fail.mpr ⟨abandoned.reason, fun unloaded => ?_, ready3,
          isOwner2 ▸ confined, sameBlocks⟩
        obtain ⟨isMemory, ready2, stuck⟩ := abandoned.halted unloaded
        exact ⟨isMemory, .inr ⟨child2, mem2, left2, isOwner2, unbacked unloaded, ready2, stuck⟩⟩
      · intro _ _ gaveUp
        rw [isOwner2] at gaveUp
        exact ⟨mt able_named_iff.mpr gaveUp.reason, gaveUp.confined⟩
    · intro _ building gaveUp
      rw [← isOwner]
      exact ⟨mt able_named_iff.mpr gaveUp.reason, gaveUp.confined⟩
  · rintro e mem1 left1 ⟨rfl, starved, same⟩
    refine ⟨⟨1, rfl⟩, fun _ => ⟨rfl, .inl starved⟩, same.ready, same.confined _, ?_⟩
    intro b
    rw [same.descriptors]
    rfl

end PagedMemory
