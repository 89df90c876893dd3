import Mathlib.Order.Bounds.Defs
import PagedMemory.Proofs.Space.Translation
import PagedMemory.Proofs.Tlb.Slots

/-!
# How misses end

What becomes of a miss depends on the code, the context, the address and the slots, and
on nothing else. The code of a store to a read-only page ends in a panic and no other
code does. A miss that passes every check puts one mapping into one slot, and the same
miss again finds that slot and leaves it as it is. A miss that does not is declined by
the first check that fails, and the processor is as before.
-/

namespace PagedMemory

/-- A slot that is valid and names a page. -/
def Tlb.Has (tlb : Tlb) (page : VirtPage) (slot : Nat) : Prop :=
  ∃ entry, tlb.slots[slot]? = some entry ∧ entry.lo.isValid = true ∧ entry.hi.page = page

/-- A slot that is not valid. -/
def Tlb.Vacant (tlb : Tlb) (slot : Nat) : Prop :=
  ∃ entry, tlb.slots[slot]? = some entry ∧ entry.lo.isValid = false

/-- Whether some segment of the current space contains an address. -/
def FaultContext.Covers (context : FaultContext) (address : VirtAddr) : Prop :=
  ∃ segments, context.segments = some segments ∧
    ∃ g ∈ segments.toList, g.contains address = true

namespace FaultError

/-- When an error can be reported of a miss. -/
def Applies (cpu : Cpu) (context : FaultContext) (code : Nat) (address : VirtAddr) :
    FaultError → Prop
  | .unknownKind code' => code' = code ∧ 2 < code
  | .noProcess => context.hasProcess = false
  | .noSpace => context.segments = none
  | .badAddress address' => address' = address ∧ ¬ context.Covers address
  | .tlbFull => ∀ slot, ¬ cpu.tlb.Has address.page slot ∧ ¬ cpu.tlb.Vacant slot

/-- The place of an error in the order in which errors are looked for. -/
def rank : FaultError → Nat
  | .unknownKind _ => 0
  | .noProcess => 1
  | .noSpace => 2
  | .badAddress _ => 3
  | .tlbFull => 4

/-- An error that applies, and none that is looked for before it does. -/
def AppliesFirst (cpu : Cpu) (context : FaultContext) (code : Nat) (address : VirtAddr)
    (e : FaultError) : Prop :=
  e.Applies cpu context code address ∧
    ∀ e' : FaultError, e'.Applies cpu context code address → e.rank ≤ e'.rank

end FaultError

/-! ## The slot for a page -/

namespace Tlb

variable {tlb : Tlb} {wanted : TlbEntry → Bool} {page : VirtPage} {frame : Frame} {slot : Nat}
  {entry : TlbEntry}

theorem find?_eq_some_iff : tlb.find? wanted = some slot ↔
    IsLeast {slot | ∃ entry, tlb.slots[slot]? = some entry ∧ wanted entry = true} slot := by
  have matching (slot : Nat) : tlb.slots[slot]?.any wanted = true ↔
      ∃ entry, tlb.slots[slot]? = some entry ∧ wanted entry = true := by
    cases tlb.slots[slot]? <;> simp
  rw [Tlb.find?, List.find?_range_eq_some]
  constructor
  · rintro ⟨isWanted, _, before⟩
    refine ⟨(matching slot).mp isWanted, fun other found => Nat.le_of_not_lt fun earlier => ?_⟩
    have unwanted := before other earlier
    rw [(matching other).mpr found] at unwanted
    contradiction
  · rintro ⟨found, least⟩
    refine ⟨(matching slot).mpr found, ?_, fun other earlier => ?_⟩
    · obtain ⟨entry, recorded, _⟩ := found
      exact List.mem_range.mpr (Array.getElem?_eq_some_iff.mp recorded).1
    · rw [Bool.not_eq_true', Bool.eq_false_iff, Ne, matching other]
      exact fun found' => Nat.not_lt.mpr (least found') earlier

theorem find?_translates_eq_some_iff :
    (tlb.find? fun entry => entry.translates page) = some slot ↔
      IsLeast {slot | tlb.Has page slot} slot := by
  simp only [find?_eq_some_iff, TlbEntry.translates_iff, Has]

theorem find?_invalid_eq_some_iff :
    (tlb.find? fun entry => !entry.lo.isValid) = some slot ↔
      IsLeast {slot | tlb.Vacant slot} slot := by
  simp only [find?_eq_some_iff, Bool.not_eq_true', Vacant]

theorem find?_translates_eq_none_iff :
    (tlb.find? fun entry => entry.translates page) = none ↔ ∀ slot, ¬ tlb.Has page slot := by
  constructor
  · rintro missed slot ⟨entry, found, names⟩
    have untranslated := find?_eq_none missed found
    rw [TlbEntry.translates_iff.mpr names] at untranslated
    contradiction
  · intro unheld
    rcases probed : tlb.find? fun entry => entry.translates page with _ | slot
    · rfl
    · exact absurd (find?_translates_eq_some_iff.mp probed).1 (unheld slot)

/-- The slot for a page is the first that has it, or else the first that is not valid. -/
theorem slotFor?_eq_some_iff : tlb.slotFor? page = some slot ↔
    IsLeast {slot | tlb.Has page slot} slot ∨
      (∀ other, ¬ tlb.Has page other) ∧ IsLeast {slot | tlb.Vacant slot} slot := by
  rw [slotFor?, Option.or_eq_some_iff, find?_translates_eq_some_iff,
    find?_translates_eq_none_iff, find?_invalid_eq_some_iff]

theorem exists_of_slotFor? (chosen : tlb.slotFor? page = some slot) :
    ∃ slot, tlb.Has page slot ∨ tlb.Vacant slot :=
  ⟨slot, (slotFor?_eq_some_iff.mp chosen).imp (fun held => held.1) fun free => free.2.1⟩

/-- There is no slot for a page if every slot is valid for another page. -/
theorem slotFor?_eq_none_iff : tlb.slotFor? page = none ↔
    ∀ slot, ¬ tlb.Has page slot ∧ ¬ tlb.Vacant slot := by
  constructor
  · intro full slot
    obtain ⟨missed, _⟩ := Option.or_eq_none_iff.mp full
    refine ⟨find?_translates_eq_none_iff.mp missed slot, ?_⟩
    rintro ⟨entry, found, invalid⟩
    rw [isValid_of_slotFor?_eq_none full found] at invalid
    contradiction
  · intro full
    rcases chosen : tlb.slotFor? page with _ | slot
    · rfl
    · rcases slotFor?_eq_some_iff.mp chosen with held | ⟨_, free⟩
      · exact absurd held.1 (full slot).1
      · exact absurd free.1 (full slot).2

/-- Once the slot for a page maps it, it is the slot for the page again. -/
theorem slotFor?_set (chosen : tlb.slotFor? page = some slot) :
    (tlb.set slot (.mapping page frame)).slotFor? page = some slot := by
  have within : slot < tlb.slots.size := by
    obtain ⟨old, offers⟩ := exists_offers_of_slotFor? chosen
    exact (Array.getElem?_eq_some_iff.mp offers.found).1
  have hasNow : (tlb.set slot (.mapping page frame)).Has page slot :=
    ⟨_, getElem?_set_self within, EntryLo.isValid_writable frame, EntryHi.page_ofPage page⟩
  have elsewhere {other : Nat} (different : slot ≠ other)
      (has : (tlb.set slot (.mapping page frame)).Has page other) : tlb.Has page other := by
    rwa [Has, getElem?_set_ne different] at has
  refine slotFor?_eq_some_iff.mpr (.inl ⟨hasNow, fun other has => ?_⟩)
  by_cases same : slot = other
  · exact Nat.le_of_eq same
  · rcases slotFor?_eq_some_iff.mp chosen with ⟨_, least⟩ | ⟨unheld, _⟩
    · exact least (elsewhere same has)
    · exact absurd (elsewhere same has) (unheld other)

theorem set_set : (tlb.set slot entry).set slot entry = tlb.set slot entry := by
  simp [set]

end Tlb

/-! ## The frame for an address -/

theorem Page.join_offset_base {realm realm' : Realm} (p : Page realm) (q : Page realm') :
    p.join q.base.offset = p.base := by
  ext
  simp [Page.join, Page.base, Address.offset]

namespace SegmentTable

variable {segments : SegmentTable} {g : Segment} {address : VirtAddr}

/-- A segment contains an address if it contains the page of the address. -/
theorem find?_base : segments.find? address.page.base = segments.find? address := by
  have samePage (g : Segment) : g.contains address.page.base = g.contains address := by
    rw [Bool.eq_iff_iff, Segment.contains_iff, Segment.contains_iff, Page.page_base]
  simp only [find?, samePage]

theorem find?_eq_none_iff : segments.find? address = none ↔
    ¬ ∃ g ∈ segments.toList, g.contains address = true := by
  simp [find?]

/-- Segments on frames of a 32-bit RAM translate the page of an address by the first
segment that contains the address. -/
theorem translate_base (within : ∀ g ∈ segments.toList, g.frame.number + g.pages ≤ 0x100000) :
    segments.translate address.page.base = .ok ((segments.find? address).map fun g =>
      (g.frame.plus (address.page.number - g.page.number)).base) := by
  rw [translate, find?_base]
  rcases isFound : segments.find? address with _ | g
  · rfl
  · have contains : g.contains address = true := by
      simpa using List.find?_some isFound
    obtain ⟨low, high⟩ := Segment.contains_iff.mp contains
    have translated := Segment.translate_of_contains (within g (List.mem_of_find?_eq_some isFound))
      (show address.page.number - g.page.number < g.pages by omega)
      (show address.page.base.page.number = _ by rw [Page.page_base]; omega)
    rwa [Page.join_offset_base] at translated

end SegmentTable

namespace FaultContext

variable {context : FaultContext} {segments : SegmentTable} {address : VirtAddr}

theorem covers_iff (present : context.segments = some segments) :
    context.Covers address ↔ segments.find? address ≠ none := by
  rw [Ne, SegmentTable.find?_eq_none_iff, not_not, Covers]
  simp only [present, Option.some.injEq, exists_eq_left']

theorem covers_of_find? {g : Segment} (present : context.segments = some segments)
    (isFound : segments.find? address = some g) : context.Covers address := by
  rw [covers_iff present, isFound]
  nofun

end FaultContext

/-! ## Misses -/

namespace FaultKind

variable {code : Nat}

theorem ofCode?_eq_none_iff : ofCode? code = none ↔ 2 < code := by
  rcases code with _ | _ | _ | code <;> simp [ofCode?]

theorem ofCode?_eq_readOnly_iff : ofCode? code = some .readOnly ↔ code = 2 := by
  rcases code with _ | _ | _ | code <;> simp [ofCode?]

end FaultKind

namespace Cpu

open Operation

/-- When a miss is resolved. -/
structure Resolvable (cpu : Cpu) (context : FaultContext) (code : Nat) (address : VirtAddr) :
    Prop where
  known : code = 0 ∨ code = 1
  process : context.hasProcess = true
  covered : context.Covers address
  room : ∃ slot, cpu.tlb.Has address.page slot ∨ cpu.tlb.Vacant slot

/-- What a miss that is resolved leaves: the page of the address on its linear frame, in
one slot. -/
structure Refilled (cpu : Cpu) (context : FaultContext) (address : VirtAddr) (frame : Frame)
    (cpu' : Cpu) (slot : Nat) : Prop where
  /-- The frame is the one for the page in the first segment that contains the address. -/
  linear : ∃ segments g, context.segments = some segments ∧
    (segments.toList.find? fun g => g.contains address) = some g ∧
    frame.number = g.frame.number + (address.page.number - g.page.number)
  /-- The slot is the first that has the page, or else the first that is not valid. -/
  chosen : IsLeast {slot | cpu.tlb.Has address.page slot} slot ∨
    (∀ other, ¬ cpu.tlb.Has address.page other) ∧ IsLeast {slot | cpu.tlb.Vacant slot} slot
  /-- Its words name the page and the frame, permit stores and are valid. -/
  written : ∃ entry, cpu'.tlb.slots[slot]? = some entry ∧
    entry.hi.bits.toNat = address.page.number * 4096 ∧
    entry.lo.bits.toNat = frame.number * 4096 + 0x400 + 0x200
  /-- Every other slot is as before. -/
  kept : ∀ other, other ≠ slot → cpu'.tlb.slots[other]? = cpu.tlb.slots[other]?
  interrupts : cpu'.interrupts = cpu.interrupts
  /-- A miss at the same page right afterwards has the same answer and changes nothing. -/
  again : ∀ code' address', code' = 0 ∨ code' = 1 → address'.page = address.page →
    ∃ shown, (handleFault context code' address').run cpu' = ⟨.value frame, cpu', shown⟩

/-- How a miss ends. -/
structure Handled (cpu : Cpu) (context : FaultContext) (code : Nat) (address : VirtAddr)
    (outcome : Outcome FaultError Cpu Frame) : Prop where
  panics : (∃ cause, outcome.result = .panic cause) ↔ code = 2
  returns : (∃ frame, outcome.result = .value frame) ↔ cpu.Resolvable context code address
  refills : ∀ frame, outcome.result = .value frame →
    ∃ slot, cpu.Refilled context address frame outcome.state slot
  declines : ∀ e, outcome.result = .error e →
    outcome.state = cpu ∧ e.AppliesFirst cpu context code address

variable {cpu : Cpu} {context : FaultContext} {code : Nat} {address : VirtAddr}
  {segments : SegmentTable} {g : Segment} {frame : Frame} {slot : Nat}

/-- Checks are made in the order of the errors. -/
theorem Declines.appliesFirst {e : FaultError}
    (within : ∀ segments, context.segments = some segments →
      ∀ g ∈ segments.toList, g.frame.number + g.pages ≤ 0x100000)
    (declines : Declines context code address cpu.tlb e) :
    e.AppliesFirst cpu context code address := by
  have notUnknown {kind : FaultKind} (known : FaultKind.ofCode? code = some kind) : ¬ 2 < code := by
    rw [← FaultKind.ofCode?_eq_none_iff, known]
    nofun
  have covers_iff {segments : SegmentTable} (present : context.segments = some segments) :
      context.Covers address ↔ segments.translate address.page.base ≠ .ok none := by
    rw [FaultContext.covers_iff present, SegmentTable.translate_base (within segments present)]
    simp
  cases declines with
  | unknownKind unknown =>
    exact ⟨⟨rfl, FaultKind.ofCode?_eq_none_iff.mp unknown⟩, fun _ _ => Nat.zero_le _⟩
  | noProcess known absent =>
    refine ⟨absent, fun e' applies => ?_⟩
    cases e' with
    | unknownKind => exact absurd applies.2 (notUnknown known)
    | _ => simp [FaultError.rank]
  | noSpace known process absent =>
    refine ⟨absent, fun e' applies => ?_⟩
    cases e' with
    | unknownKind => exact absurd applies.2 (notUnknown known)
    | noProcess => simp [FaultError.Applies, process] at applies
    | _ => simp [FaultError.rank]
  | badAddress known process present outside =>
    have uncovered : ¬ context.Covers address := fun covers =>
      (covers_iff present).mp covers outside
    refine ⟨⟨rfl, uncovered⟩, fun e' applies => ?_⟩
    cases e' with
    | unknownKind => exact absurd applies.2 (notUnknown known)
    | noProcess => simp [FaultError.Applies, process] at applies
    | noSpace => simp [FaultError.Applies, present] at applies
    | _ => simp [FaultError.rank]
  | tlbFull known process present inside full =>
    have covers : context.Covers address := (covers_iff present).mpr (by simp [inside])
    refine ⟨Tlb.slotFor?_eq_none_iff.mp full, fun e' applies => ?_⟩
    cases e' with
    | unknownKind => exact absurd applies.2 (notUnknown known)
    | noProcess => simp [FaultError.Applies, process] at applies
    | noSpace => simp [FaultError.Applies, present] at applies
    | badAddress => exact absurd covers applies.2
    | tlbFull => exact Nat.le_refl _

/-- Nothing stands against a miss that can be resolved. -/
theorem Resolvable.not_applies (resolvable : cpu.Resolvable context code address)
    (e : FaultError) : ¬ e.Applies cpu context code address := by
  obtain ⟨known, process, covered, slot, room⟩ := resolvable
  intro applies
  cases e with
  | unknownKind =>
    have beyond := applies.2
    omega
  | noProcess => simp [FaultError.Applies, process] at applies
  | noSpace =>
    obtain ⟨segments, present, _⟩ := covered
    simp [FaultError.Applies, present] at applies
  | badAddress => exact applies.2 covered
  | tlbFull => exact room.elim (applies slot).1 (applies slot).2

/-- A miss that can be resolved, and that passes every check, returns. -/
theorem exists_run_handleFault (resolvable : cpu.Resolvable context code address)
    (within : ∀ segments, context.segments = some segments →
      ∀ g ∈ segments.toList, g.frame.number + g.pages ≤ 0x100000)
    (present : context.segments = some segments) (isFound : segments.find? address = some g)
    (linear : frame = g.frame.plus (address.page.number - g.page.number))
    (chosen : cpu.tlb.slotFor? address.page = some slot) :
    ∃ shown, (handleFault context code address).run cpu = ⟨.value frame,
      { cpu with tlb := cpu.tlb.set slot (.mapping address.page frame) }, shown⟩ := by
  have translated : segments.translate address.page.base = _ :=
    SegmentTable.translate_base (within segments present)
  rw [isFound, Option.map_some, ← linear] at translated
  have returns (left : Nat) : (handleFault context code address).Ends left cpu
      ⟨fun answer cpu' _ => answer = frame ∧
          cpu' = { cpu with tlb := cpu.tlb.set slot (.mapping address.page frame) },
        fun _ _ _ => False, fun _ _ => False⟩ := by
    refine ends_handleFault_checks.mono ?_ ?_ ?_
    · rintro _ cpu' _ ⟨_, segments', target, slot', _, _, _, present', translated', rfl,
        chosen', rfl⟩
      obtain rfl := Option.some.inj (present.symm.trans present')
      obtain rfl := Option.some.inj (Except.ok.inj (translated.symm.trans translated'))
      obtain rfl := Option.some.inj (chosen.symm.trans chosen')
      rw [Page.page_base]
      exact ⟨rfl, rfl⟩
    · rintro e _ _ ⟨_, _, declines⟩
      exact resolvable.not_applies e (declines.appliesFirst within).1
    · rintro cause _ ⟨_, readOnly | ⟨segments', cause', present', broken⟩⟩
      · have known := resolvable.known
        have isTwo := FaultKind.ofCode?_eq_readOnly_iff.mp readOnly
        omega
      · obtain rfl := Option.some.inj (present.symm.trans present')
        simp [translated] at broken
  obtain ⟨_, _, shown, run, rfl, rfl⟩ := exists_value_of_ends returns
  exact ⟨shown, run⟩

/-- What a miss leaves that can be resolved and that passes every check. -/
theorem Resolvable.refilled (resolvable : cpu.Resolvable context code address)
    (within : ∀ segments, context.segments = some segments →
      ∀ g ∈ segments.toList, g.frame.number + g.pages ≤ 0x100000)
    (present : context.segments = some segments) (isFound : segments.find? address = some g)
    (linear : frame = g.frame.plus (address.page.number - g.page.number))
    (chosen : cpu.tlb.slotFor? address.page = some slot) :
    cpu.Refilled context address frame
      { cpu with tlb := cpu.tlb.set slot (.mapping address.page frame) } slot := by
  have contains : g.contains address = true := by
    simpa using List.find?_some isFound
  obtain ⟨low, high⟩ := Segment.contains_iff.mp contains
  have inside : slot < cpu.tlb.slots.size := by
    obtain ⟨old, offers⟩ := Tlb.exists_offers_of_slotFor? chosen
    exact (Array.getElem?_eq_some_iff.mp offers.found).1
  constructor
  case linear =>
    have room := within segments present g (List.mem_of_find?_eq_some isFound)
    refine ⟨segments, g, present, isFound, ?_⟩
    rw [linear]
    exact Page.number_ofNumber_of_lt (by omega)
  case chosen => exact Tlb.slotFor?_eq_some_iff.mp chosen
  case written =>
    exact ⟨_, Tlb.getElem?_set_self inside, EntryHi.toNat_ofPage _, EntryLo.toNat_writable _⟩
  case kept => exact fun other different => Tlb.getElem?_set_ne different.symm
  case interrupts => rfl
  case again =>
    intro code' address' known' samePage
    let cpu' : Cpu := { cpu with tlb := cpu.tlb.set slot (.mapping address.page frame) }
    have settled :
        { cpu' with tlb := cpu'.tlb.set slot (.mapping address'.page frame) } = cpu' := by
      simp only [cpu', samePage, Tlb.set_set]
    have isFound' : segments.find? address' = some g := by
      rw [← SegmentTable.find?_base, samePage, SegmentTable.find?_base, isFound]
    have chosen' : cpu'.tlb.slotFor? address'.page = some slot := by
      rw [samePage]
      exact Tlb.slotFor?_set chosen
    have resolvable' : cpu'.Resolvable context code' address' :=
      ⟨known', resolvable.process, FaultContext.covers_of_find? present isFound',
        Tlb.exists_of_slotFor? chosen'⟩
    rw [← samePage] at linear
    obtain ⟨shown, run⟩ :=
      exists_run_handleFault resolvable' within present isFound' linear chosen'
    rw [settled] at run
    exact ⟨shown, run⟩

/-- Every miss, whatever the buffer holds and however many slots it has, ends in a panic,
a refill or an error just when it has to, as long as the segments lie on frames of a
32-bit RAM. -/
theorem handled_handleFault
    (within : ∀ segments, context.segments = some segments →
      ∀ g ∈ segments.toList, g.frame.number + g.pages ≤ 0x100000) :
    Handled cpu context code address ((handleFault context code address).run cpu) := by
  have ends (left : Nat) : (handleFault context code address).Ends left cpu _ :=
    ends_handleFault_checks
  have met := ends _ (Nat.le_refl _)
  generalize (handleFault context code address).run cpu = outcome at met ⊢
  rcases outcome with ⟨frame | e | cause, cpu', shown⟩
  · obtain ⟨kind, segments, target, slot, isKind, isWritable, process, present, translated, rfl,
      chosen, rfl⟩ := met
    have known : code = 0 ∨ code = 1 := by
      have notUnknown : ¬ 2 < code := mt FaultKind.ofCode?_eq_none_iff.mpr (by simp [isKind])
      have notReadOnly : code ≠ 2 :=
        mt FaultKind.ofCode?_eq_readOnly_iff.mpr (by simp [isKind, isWritable])
      omega
    rw [SegmentTable.translate_base (within segments present)] at translated
    obtain ⟨g, isFound, isTarget⟩ := Option.map_eq_some_iff.mp (Except.ok.inj translated)
    have resolvable : cpu.Resolvable context code address :=
      ⟨known, process, FaultContext.covers_of_find? present isFound,
        Tlb.exists_of_slotFor? chosen⟩
    have linear : target.page = g.frame.plus (address.page.number - g.page.number) := by
      rw [← isTarget, Page.page_base]
    constructor
    case panics => exact iff_of_false nofun (by omega)
    case returns => exact iff_of_true ⟨_, rfl⟩ resolvable
    case refills =>
      rintro _ ⟨⟩
      exact ⟨slot, resolvable.refilled within present isFound linear chosen⟩
    case declines => exact nofun
  · obtain ⟨rfl, notReadOnly, declines⟩ := met
    have first := declines.appliesFirst within
    constructor
    case panics => exact iff_of_false nofun (mt FaultKind.ofCode?_eq_readOnly_iff.mpr notReadOnly)
    case returns => exact iff_of_false nofun fun resolvable => resolvable.not_applies e first.1
    case refills => exact nofun
    case declines =>
      rintro _ ⟨⟩
      exact ⟨rfl, first⟩
  · have isReadOnly : code = 2 := by
      rcases met.2 with readOnly | ⟨segments, cause, present, broken⟩
      · exact FaultKind.ofCode?_eq_readOnly_iff.mp readOnly
      · rw [SegmentTable.translate_base (within segments present)] at broken
        contradiction
    constructor
    case panics => exact iff_of_true ⟨cause, rfl⟩ isReadOnly
    case returns =>
      refine iff_of_false nofun fun resolvable => ?_
      have known := resolvable.known
      omega
    case refills => exact nofun
    case declines => exact nofun

/-- A store to the third page of a region misses in a buffer of two slots that are not
used, and is resolved. -/
theorem handled_handleFault_idle :
    ∃ (cpu : Cpu) (context : FaultContext) (address : VirtAddr),
      (∀ segments, context.segments = some segments →
        ∀ g ∈ segments.toList, g.frame.number + g.pages ≤ 0x100000) ∧
      Handled cpu context 1 address ((handleFault context 1 address).run cpu) ∧
      ((handleFault context 1 address).run cpu).result = .value (.ofNumber 0x12) := by
  let segments : SegmentTable := ⟨some ⟨.ofNumber 0x400, .ofNumber 0x10, 4⟩, none, none⟩
  have within : ∀ segments', some segments = some segments' →
      ∀ g ∈ segments'.toList, g.frame.number + g.pages ≤ 0x100000 := by
    rintro _ ⟨⟩ g inList
    obtain rfl := List.mem_singleton.mp inList
    decide
  refine ⟨⟨⟨true, Interrupts.unmasked⟩, .idle 2⟩, ⟨true, some segments⟩, .ofNat 0x402010, within,
    handled_handleFault within, ?_⟩
  decide

end Cpu

end PagedMemory
