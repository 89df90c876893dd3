import PagedMemory.Proofs.Space.Destroying

/-!
# Two ways to translate an address

The segments of a loaded space translate its addresses by arithmetic, the tables in
RAM by two lookups. What the segments translate are the pages of the regions and of
the stack, and there both ways give the same physical address.
-/

namespace PagedMemory

variable {space : AddressSpace} {mem : Memory (Coremap NoEviction)} {name name' : SegmentName}
  {g g' : Segment} {address : VirtAddr} {frame : Frame} {complete : Prop} {left : Nat}

/-! ## Arithmetic of one segment -/

namespace Segment

theorem contains_iff : g.contains address = true ↔
    g.page.number ≤ address.page.number ∧ address.page.number < g.page.number + g.pages := by
  simp only [contains, Bool.and_eq_true, decide_eq_true_eq]
  simp only [Page.base, Address.page]
  omega

/-- A segment on frames of a 32-bit RAM gives an address that it contains the frame
as far into its block as the page is into its pages. -/
theorem translate_of_contains (within : g.frame.number + g.pages ≤ 0x100000) {k : Nat}
    (small : k < g.pages) (isPage : address.page.number = g.page.number + k) :
    g.translate address = .ok (some ((g.frame.plus k).join address.offset)) := by
  have contained : g.contains address = true := by
    rw [contains_iff]
    omega
  have number : (g.frame.plus k).number = g.frame.number + k :=
    Page.number_ofNumber_of_lt (by omega)
  have sum : g.frame.base.add? (address.toNat - g.page.base.toNat) =
      some ((g.frame.plus k).join address.offset) := by
    rw [Address.add?, Address.ofNat?_eq_some_iff]
    simp only [Page.base, Page.join, Address.offset, Address.page, number] at isPage ⊢
    omega
  rw [translate, if_pos contained, Address.add, sum]
  rfl

end Segment

/-! ## The segments of a space -/

namespace AddressSpace.Shaped

/-- No address lies in two segments. -/
theorem pairwise_not_contains (shaped : space.Shaped) : space.segments.toList.Pairwise
    fun g g' => ∀ address, ¬ (g.contains address = true ∧ g'.contains address = true) := by
  apply shaped.nodup_segments.pairwise_of_forall_ne
  intro g inList g' inList' different address both
  obtain ⟨name, found⟩ := shaped.mem_segments_iff.mp inList
  obtain ⟨name', found'⟩ := shaped.mem_segments_iff.mp inList'
  have apart := shaped.segments_apart found found' fun same =>
    different (Option.some.inj ((same ▸ found).symm.trans found'))
  rw [Segment.contains_iff, Segment.contains_iff] at both
  omega

/-- What the segments translate is a page of a program. -/
theorem page_below (shaped : space.Shaped) {physical : PhysAddr}
    (translated : space.segments.translate address = .ok (some physical)) :
    address.page.number < 0x80000 := by
  rw [SegmentTable.translate] at translated
  rcases isFound : space.segments.find? address with _ | g <;> rw [isFound] at translated
  · cases translated
  · obtain ⟨name, found⟩ := shaped.mem_segments_iff.mp (List.mem_of_find?_eq_some isFound)
    have contains : g.contains address = true := by
      simpa using List.find?_some isFound
    have below := shaped.segment_below found
    have inside := Segment.contains_iff.mp contains
    omega

end AddressSpace.Shaped

/-- No frame lies in two segments. -/
theorem Holds.pairwise_not_backs (holds : Holds complete space none mem) :
    space.segments.toList.Pairwise
      fun g g' => ∀ frame, ¬ (g.backs frame = true ∧ g'.backs frame = true) := by
  apply holds.shaped.nodup_segments.pairwise_of_forall_ne
  intro g inList g' inList' different frame both
  obtain ⟨name, found⟩ := holds.shaped.mem_segments_iff.mp inList
  obtain ⟨name', found'⟩ := holds.shaped.mem_segments_iff.mp inList'
  have same := holds.slot_eq (uses_segment found both.1) (uses_segment found' both.2)
  cases same
  exact different (Option.some.inj (found.symm.trans found'))

/-- The segments of a loaded space contain what they are for. -/
theorem AddressSpace.Loaded.exists_contains_iff {ram : Ram} (loaded : space.Loaded ram) :
    (∃ name g, space.segment? name = some g ∧ g.contains address = true) ↔ space.Spans address := by
  constructor
  · rintro ⟨i | _, g, found, contains⟩ <;> rw [Segment.contains_iff] at contains
    · obtain ⟨region, isRegion, _, samePage, samePages⟩ := segment?_region_eq_some_iff.mp found
      refine .inl ⟨region, List.mem_of_getElem? isRegion, ?_⟩
      rw [samePage, samePages]
      simp only [Page.base, Address.page, Layout.pageSize] at contains ⊢
      omega
    · obtain ⟨_, _, rfl⟩ := Option.map_eq_some_iff.mp found
      right
      simp only [Address.page, stackBase_number, Layout.userStack, Layout.directMapBase,
        Layout.stackPages, Layout.pageSize] at contains ⊢
      omega
  · rintro (⟨region, inList, low, high⟩ | ⟨low, high⟩)
    · obtain ⟨i, isRegion⟩ := List.mem_iff_getElem?.mp inList
      obtain ⟨frame, isBacking⟩ := Option.isSome_iff_exists.mp (loaded.regions region inList)
      refine ⟨.region i, ⟨region.page, frame, region.pages⟩,
        segment?_region_eq_some_iff.mpr ⟨region, isRegion, isBacking, rfl, rfl⟩, ?_⟩
      rw [Segment.contains_iff]
      simp only [Page.base, Address.page, Layout.pageSize] at low high ⊢
      omega
    · obtain ⟨frame, isStack⟩ := Option.isSome_iff_exists.mp loaded.stack
      refine ⟨.stack, ⟨stackBase, frame, Layout.stackPages⟩, by rw [segment?, isStack]; rfl, ?_⟩
      rw [Segment.contains_iff]
      simp only [Address.page, stackBase_number, Layout.userStack, Layout.directMapBase,
        Layout.stackPages, Layout.pageSize] at low high ⊢
      omega

/-- A page that a loaded space has a segment for is one of the segment's pages. -/
theorem AddressSpace.Loaded.exists_segment {ram : Ram} (loaded : space.Loaded ram)
    (shaped : space.Shaped) {page : VirtPage} (spans : space.Spans page.base) :
    ∃ name g k, space.segment? name = some g ∧ k < g.pages ∧ page = g.page.plus k := by
  obtain ⟨name, g, found, contains⟩ := loaded.exists_contains_iff.mpr spans
  obtain ⟨low, high⟩ := Segment.contains_iff.mp contains
  rw [Page.page_base] at low high
  obtain ⟨k, isPage⟩ := Nat.exists_eq_add_of_le low
  have small : k < g.pages := by omega
  exact ⟨name, g, k, found, small,
    Page.ext (isPage.trans (shaped.number_segment_page found small).symm)⟩

/-- The segments of a space all of which are backed are those of its regions and of its
stack. -/
theorem AddressSpace.Loaded.segments_eq {ram : Ram} (loaded : space.Loaded ram)
    (shaped : space.Shaped) :
    space.segments.toList.map (fun g => (g.page, g.pages)) =
      space.regions.map (fun region => (region.page, region.pages)) ++
        [(stackBase, Layout.stackPages)] := by
  obtain ⟨frame, isStack⟩ := Option.isSome_iff_exists.mp loaded.stack
  have backed := loaded.regions
  have few : space.regions.length ≤ 2 := shaped.few
  simp only [AddressSpace.segments, SegmentTable.toList, isStack]
  generalize space.regions = regions at backed few
  rcases regions with _ | ⟨first, _ | ⟨second, _ | ⟨_, _⟩⟩⟩
  · rfl
  · obtain ⟨frame1, isFirst⟩ := Option.isSome_iff_exists.mp (backed first (by simp))
    simp [Region.segment?, isFirst]
  · obtain ⟨frame1, isFirst⟩ := Option.isSome_iff_exists.mp (backed first (by simp))
    obtain ⟨frame2, isSecond⟩ := Option.isSome_iff_exists.mp (backed second (by simp))
    simp [Region.segment?, isFirst, isSecond]
  · simp at few

/-! ## Agreement -/

/-- The segments of a space and its tables in RAM translate alike. -/
structure SegmentsAgree (space : AddressSpace) (ram : Ram) : Prop where
  /-- No address lies in two segments. -/
  contains : space.segments.toList.Pairwise
    fun g g' => ∀ address, ¬ (g.contains address = true ∧ g'.contains address = true)
  /-- No frame lies in two segments. -/
  backs : space.segments.toList.Pairwise
    fun g g' => ∀ frame, ¬ (g.backs frame = true ∧ g'.backs frame = true)
  /-- The segments translate just what they are for, without overflow, and the tables
  agree. -/
  translate : ∀ address, ∃ answer, space.segments.translate address = .ok answer ∧
    (answer.isSome ↔ space.Spans address) ∧ ∀ physical, answer = some physical →
      ram.translate space.directory address = some physical

/-- The segments of a loaded space agree with its tables. -/
theorem Holds.segmentsAgree (holds : Holds complete space none mem) (ready : mem.Ready left)
    (isLoaded : space.loaded = true) : SegmentsAgree space mem.ram := by
  have loaded := holds.loaded isLoaded
  refine ⟨holds.shaped.pairwise_not_contains, holds.pairwise_not_backs, ?_⟩
  intro address
  rw [SegmentTable.translate]
  rcases isFound : space.segments.find? address with _ | g
  · refine ⟨none, rfl, ?_, nofun⟩
    rw [← loaded.exists_contains_iff]
    refine iff_of_false nofun ?_
    rintro ⟨name, g, found, contains⟩
    have inList := holds.shaped.mem_segments_iff.mpr ⟨name, found⟩
    exact List.find?_eq_none.mp isFound g inList contains
  · obtain ⟨name, found⟩ := holds.shaped.mem_segments_iff.mp (List.mem_of_find?_eq_some isFound)
    have contains : g.contains address = true := by
      simpa using List.find?_some isFound
    have spans := loaded.exists_contains_iff.mp ⟨name, g, found, contains⟩
    obtain ⟨low, high⟩ := Segment.contains_iff.mp contains
    obtain ⟨k, isPage⟩ := Nat.exists_eq_add_of_le low
    have small : k < g.pages := by omega
    have numberPage := holds.shaped.number_segment_page found small
    have mapped := loaded.mapped name g found k small
    refine ⟨_, Segment.translate_of_contains (holds.segment_within ready found) small isPage,
      iff_of_true rfl spans, ?_⟩
    rintro physical ⟨⟩
    have samePage : g.page.plus k = address.page := Page.ext (numberPage.trans isPage.symm)
    rw [Ram.translate, Ram.lookup_eq_page?, ← samePage, mapped, Option.map_some]

end PagedMemory
