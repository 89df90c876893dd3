import PagedMemory.Fault
import PagedMemory.Proofs.Operation.Ends
import PagedMemory.Proofs.Tlb.Entries

/-!
# Working on the slots of a processor

Slots are searched in order and nothing else is read. A flush leaves every slot
unused. A refill overwrites one slot, the first one that translates the page if there is
such a slot and else the first that is not valid, or it finds no slot and changes
nothing. A miss is resolved or declined by the first check that it does not pass.
Interrupts are as before, however such work ends.
-/

namespace PagedMemory

/-- The first slot whose entry is as wanted. -/
def Tlb.find? (tlb : Tlb) (wanted : TlbEntry → Bool) : Option Nat :=
  (List.range tlb.slots.size).find? fun slot => tlb.slots[slot]?.any wanted

/-- The slot that a refill for a page overwrites: the first that translates the page, or
else the first that is not valid. -/
def Tlb.slotFor? (tlb : Tlb) (page : VirtPage) : Option Nat :=
  (tlb.find? fun entry => entry.translates page).or (tlb.find? fun entry => !entry.lo.isValid)

/-- The buffer with one slot overwritten. -/
def Tlb.set (tlb : Tlb) (slot : Nat) (entry : TlbEntry) : Tlb :=
  ⟨tlb.slots.setIfInBounds slot entry⟩

/-- A slot that a refill for a page may overwrite: one that translates the page, or, if
there is none, one that is not valid. -/
structure Tlb.Offers (tlb : Tlb) (page : VirtPage) (slot : Nat) (old : TlbEntry) : Prop where
  found : tlb.slots[slot]? = some old
  chosen : old.translates page = true ∨ old.lo.isValid = false ∧
    ∀ (other : Nat) (entry : TlbEntry), tlb.slots[other]? = some entry →
      entry.translates page = false

namespace Tlb

variable {tlb : Tlb} {wanted : TlbEntry → Bool} {slot : Nat} {entry : TlbEntry}

theorem find?_eq_some (found : tlb.find? wanted = some slot) :
    ∃ entry, tlb.slots[slot]? = some entry ∧ wanted entry = true := by
  have matching := List.find?_some found
  rcases recorded : tlb.slots[slot]? with _ | entry
  · simp [recorded] at matching
  · exact ⟨entry, rfl, by simpa [recorded] using matching⟩

theorem find?_eq_none (missed : tlb.find? wanted = none) (found : tlb.slots[slot]? = some entry) :
    wanted entry = false := by
  have within := (Array.getElem?_eq_some_iff.mp found).1
  have unwanted := List.find?_eq_none.mp missed slot (List.mem_range.mpr within)
  rw [found] at unwanted
  simpa using unwanted

theorem exists_offers_of_slotFor? {page : VirtPage} (chosen : tlb.slotFor? page = some slot) :
    ∃ old, tlb.Offers page slot old := by
  rcases Option.or_eq_some_iff.mp chosen with held | ⟨missed, free⟩
  · obtain ⟨old, found, translates⟩ := find?_eq_some held
    exact ⟨old, found, .inl translates⟩
  · obtain ⟨old, found, invalid⟩ := find?_eq_some free
    exact ⟨old, found, .inr ⟨by simpa using invalid, fun _ _ => find?_eq_none missed⟩⟩

theorem isValid_of_slotFor?_eq_none {page : VirtPage} (full : tlb.slotFor? page = none)
    (found : tlb.slots[slot]? = some entry) : entry.lo.isValid = true := by
  simpa using find?_eq_none (Option.or_eq_none_iff.mp full).2 found

theorem entry_of_idle {size : Nat} (found : (idle size).slots[slot]? = some entry) :
    entry = .idle slot := by
  simp [idle, Array.getElem?_eq_some_iff] at found
  exact found.2.symm

theorem eq_idle (each : ∀ slot < tlb.slots.size, tlb.slots[slot]? = some (.idle slot)) :
    tlb = idle tlb.slots.size := by
  have same : tlb.slots = (idle tlb.slots.size).slots := by
    apply Array.ext
    · simp [idle]
    · intro slot within _
      have recorded := each slot within
      rw [Array.getElem?_eq_getElem within] at recorded
      simpa [idle] using recorded
  exact congrArg Tlb.mk same

@[simp]
theorem size_set : (tlb.set slot entry).slots.size = tlb.slots.size :=
  Array.size_setIfInBounds

theorem getElem?_set_self (within : slot < tlb.slots.size) :
    (tlb.set slot entry).slots[slot]? = some entry := by
  simp [set, within]

theorem getElem?_set_ne {other : Nat} (different : slot ≠ other) :
    (tlb.set slot entry).slots[other]? = tlb.slots[other]? :=
  Array.getElem?_setIfInBounds_ne different

end Tlb

namespace Cpu

open Operation

variable {ε α : Type} {cpu : Cpu} {left slot : Nat} {entry : TlbEntry}

/-! ## Single slots -/

theorem ends_readSlot {post : Post ε Cpu TlbEntry} (found : cpu.tlb.slots[slot]? = some entry) :
    (readSlot slot).Ends left cpu post ↔ post.value entry cpu left := by
  have none : draws [.slotRead slot] = 0 := by
    simp [draws]
  simp [Ends, Operation.run, readSlot, found, Outcome.Meets, none]

theorem ends_writeSlot {post : Post ε Cpu Unit} (within : slot < cpu.slotCount) :
    (writeSlot slot entry).Ends left cpu post ↔
      post.value () { cpu with tlb := cpu.tlb.set slot entry } left := by
  have none : draws [.slotWritten slot] = 0 := by
    simp [draws]
  simp [Ends, Operation.run, writeSlot, within, Outcome.Meets, none, Tlb.set]

/-! ## Searching -/

theorem ends_firstSlot {wanted : TlbEntry → Bool} {slots : List Nat}
    {post : Post ε Cpu (Option Nat)} (within : ∀ slot ∈ slots, slot < cpu.slotCount) :
    (firstSlot wanted slots).Ends left cpu post ↔
      post.value (slots.find? fun slot => cpu.tlb.slots[slot]?.any wanted) cpu left := by
  induction slots with
  | nil => exact ends_pure
  | cons slot rest ih =>
    have inside : slot < cpu.tlb.slots.size := within slot (List.mem_cons_self ..)
    have found := Array.getElem?_eq_getElem inside
    rw [firstSlot, ends_bind, ends_readSlot found, List.find?_cons, found, Option.any_some]
    by_cases isWanted : wanted cpu.tlb.slots[slot] = true
    · simp [isWanted]
    · simp only [isWanted]
      exact ih fun other inRest => within other (List.mem_cons_of_mem _ inRest)

theorem ends_probe {page : VirtPage} {post : Post ε Cpu (Option Nat)} :
    (probe page).Ends left cpu post ↔
      post.value (cpu.tlb.find? fun entry => entry.translates page) cpu left := by
  rw [probe, ends_bind, ends_read]
  exact ends_firstSlot fun _ => List.mem_range.mp

theorem ends_firstFree {post : Post ε Cpu (Option Nat)} :
    firstFree.Ends left cpu post ↔
      post.value (cpu.tlb.find? fun entry => !entry.lo.isValid) cpu left := by
  rw [firstFree, ends_bind, ends_read]
  exact ends_firstSlot fun _ => List.mem_range.mp

/-! ## Masking -/

/-- The interrupts of a processor while they are masked. -/
def maskedInterrupts (interrupts : Interrupts) : Interrupts :=
  if interrupts.installed then { interrupts with level := Interrupts.high } else interrupts

/-- What runs with interrupts masked may not touch them; afterwards they are as before. -/
theorem ends_masked {body : Operation ε Cpu α} {post : Post ε Cpu α}
    (ends : body.Ends left { cpu with interrupts := maskedInterrupts cpu.interrupts }
      ⟨fun a t left => t.interrupts = maskedInterrupts cpu.interrupts ∧
          post.value a { t with interrupts := cpu.interrupts } left,
        fun e t left => t.interrupts = maskedInterrupts cpu.interrupts ∧
          post.error e { t with interrupts := cpu.interrupts } left,
        fun cause t => t.interrupts = maskedInterrupts cpu.interrupts ∧
          post.panic cause { t with interrupts := cpu.interrupts }⟩) :
    (masked body).Ends left cpu post := by
  rcases cpu with ⟨⟨installed, level⟩, tlb⟩
  have silent : draws [.masked level] = 0 := by
    simp [draws]
  let previous := if installed then some level else none
  have masks {post : Post ε Cpu (Option InterruptLevel)} :
      (onInterrupts Interrupts.mask).Ends left ⟨⟨installed, level⟩, tlb⟩ post ↔
        post.value previous ⟨maskedInterrupts ⟨installed, level⟩, tlb⟩ left := by
    cases installed <;>
      simp [Ends, Operation.run, onInterrupts, onPart, Interrupts.mask, Outcome.Meets, silent,
        previous, maskedInterrupts]
  have restores {left : Nat} {t : Cpu} {post : Post Empty Cpu Unit}
      (kept : t.interrupts = maskedInterrupts ⟨installed, level⟩) :
      (onInterrupts (Interrupts.restore previous)).Ends left t post ↔
        post.value () { t with interrupts := ⟨installed, level⟩ } left := by
    have silent : draws [.restored level] = 0 := by
      simp [draws]
    rcases t with ⟨_, other⟩
    obtain rfl := kept
    cases installed <;>
      simp [Ends, Operation.run, onInterrupts, onPart, Interrupts.restore, Outcome.Meets, silent,
        previous, maskedInterrupts]
  refine ends_bind.mpr (masks.mpr (ends.mono ?_ ?_ ?_).ensuring)
  · exact fun a t left done => (restores done.1).mpr done.2
  · exact fun e t left done => (restores done.1).mpr done.2
  · exact fun cause t done left => (restores done.1).mpr done.2

/-! ## Flushing -/

/-- Slots are made unused one by one. -/
theorem ends_invalidateAll (few : cpu.slotCount ≤ 0x80000) {post : Post ε Cpu Unit}
    (idle : post.value () { cpu with tlb := .idle cpu.slotCount } left) :
    invalidateAll.Ends left cpu post := by
  rw [invalidateAll, ends_bind, ends_read]
  -- The slots that are done are unused, and nothing but slots has changed.
  let invariant (todo : List Nat) (cpu' : Cpu) (left' : Nat) : Prop :=
    left' = left ∧ cpu'.interrupts = cpu.interrupts ∧ cpu'.slotCount = cpu.slotCount ∧
      ∃ done, List.range cpu.slotCount = done ++ todo ∧
        ∀ slot ∈ done, cpu'.tlb.slots[slot]? = some (.idle slot)
  refine Ends.forM invariant ?_ ?_ ⟨rfl, rfl, rfl, [], rfl, nofun⟩
  · rintro slot todo cpu' _ ⟨rfl, interrupts, count, done, split, isIdle⟩
    have inRange : slot ∈ List.range cpu.slotCount := by
      simp [split]
    have within : slot < cpu'.slotCount := count ▸ List.mem_range.mp inRange
    rw [TlbEntry.unused_eq_idle (by omega)]
    refine ends_bind.mpr (ends_pure.mpr ((ends_writeSlot within).mpr ?_))
    refine ⟨rfl, interrupts, Tlb.size_set.trans count, done ++ [slot], by simp [split], ?_⟩
    intro other isDone
    by_cases same : slot = other
    · exact same ▸ Tlb.getElem?_set_self within
    · rw [Tlb.getElem?_set_ne same]
      rcases List.mem_append.mp isDone with before | now
      · exact isIdle other before
      · exact absurd (List.mem_singleton.mp now).symm same
  · rintro cpu' _ ⟨rfl, interrupts, count, done, split, isIdle⟩
    have isUnused : cpu'.tlb = .idle cpu.slotCount := by
      rw [← count]
      refine Tlb.eq_idle fun slot within => isIdle slot ?_
      rw [← List.append_nil done, ← split, ← count]
      exact List.mem_range.mpr within
    rw [← isUnused, ← interrupts] at idle
    exact idle

/-- A flush leaves every slot unused. -/
theorem ends_flush (few : cpu.slotCount ≤ 0x80000) {post : Post ε Cpu Unit}
    (idle : post.value () { cpu with tlb := .idle cpu.slotCount } left) :
    flush.Ends left cpu post := by
  refine ends_masked ?_
  apply ends_invalidateAll
  · exact few
  · exact ⟨rfl, idle⟩

/-! ## Refilling -/

/-- A refill overwrites the slot that there is for its page, or there is none and nothing
changes. -/
theorem ends_refill {address : VirtAddr} {frame : Frame} :
    (refill address frame).Ends left cpu
      ⟨fun _ cpu' _ => ∃ slot, cpu.tlb.slotFor? address.page = some slot ∧
          cpu' = { cpu with tlb := cpu.tlb.set slot (.mapping address.page frame) },
        fun e cpu' _ => e = .tlbFull ∧ cpu' = cpu ∧ cpu.tlb.slotFor? address.page = none,
        fun _ _ => False⟩ := by
  have puts {wanted : TlbEntry → Bool} {slot : Nat} (found : cpu.tlb.find? wanted = some slot) :
      slot < cpu.slotCount := by
    obtain ⟨entry, recorded, _⟩ := Tlb.find?_eq_some found
    exact (Array.getElem?_eq_some_iff.mp recorded).1
  unfold refill
  rw [ends_bind, ends_probe]
  rcases probed : cpu.tlb.find? fun entry => entry.translates address.page with _ | slot
  · dsimp only
    rw [ends_bind, ends_firstFree]
    rcases free : cpu.tlb.find? fun entry => !entry.lo.isValid with _ | slot
    · exact ends_bind.mpr (ends_log.mpr (ends_fail.mpr ⟨rfl, rfl, by simp [Tlb.slotFor?, *]⟩))
    · refine ends_bind.mpr ((ends_writeSlot (puts free)).mpr (ends_log.mpr ?_))
      exact ⟨slot, by simp [Tlb.slotFor?, *], rfl⟩
  · refine ends_bind.mpr (ends_pure.mpr (ends_bind.mpr ((ends_writeSlot (puts probed)).mpr
      (ends_log.mpr ?_))))
    exact ⟨slot, by simp [Tlb.slotFor?, *], rfl⟩

/-! ## Misses -/

/-- Why a miss at an address is not resolved. -/
inductive Refuses (context : FaultContext) (code : Nat) (address : VirtAddr) (tlb : Tlb) :
    FaultError → Prop where
  | unknownKind (unknown : FaultKind.ofCode? code = none) :
      Refuses context code address tlb (.unknownKind code)
  | noProcess (absent : context.hasProcess = false) : Refuses context code address tlb .noProcess
  | noSpace (absent : context.segments = none) : Refuses context code address tlb .noSpace
  | badAddress {segments : SegmentTable} (present : context.segments = some segments)
      (outside : segments.translate address.page.base = .ok none) :
      Refuses context code address tlb (.badAddress address)
  | tlbFull (full : ∀ (slot : Nat) (entry : TlbEntry), tlb.slots[slot]? = some entry →
      entry.lo.isValid = true) : Refuses context code address tlb .tlbFull

/-- Why a miss at an address is not resolved, and that it passed every earlier check. -/
inductive Declines (context : FaultContext) (code : Nat) (address : VirtAddr) (tlb : Tlb) :
    FaultError → Prop where
  | unknownKind (unknown : FaultKind.ofCode? code = none) :
      Declines context code address tlb (.unknownKind code)
  | noProcess {kind : FaultKind} (known : FaultKind.ofCode? code = some kind)
      (absent : context.hasProcess = false) : Declines context code address tlb .noProcess
  | noSpace {kind : FaultKind} (known : FaultKind.ofCode? code = some kind)
      (process : context.hasProcess = true) (absent : context.segments = none) :
      Declines context code address tlb .noSpace
  | badAddress {kind : FaultKind} {segments : SegmentTable}
      (known : FaultKind.ofCode? code = some kind) (process : context.hasProcess = true)
      (present : context.segments = some segments)
      (outside : segments.translate address.page.base = .ok none) :
      Declines context code address tlb (.badAddress address)
  | tlbFull {kind : FaultKind} {segments : SegmentTable} {target : PhysAddr}
      (known : FaultKind.ofCode? code = some kind) (process : context.hasProcess = true)
      (present : context.segments = some segments)
      (inside : segments.translate address.page.base = .ok (some target))
      (full : tlb.slotFor? address.page = none) : Declines context code address tlb .tlbFull

theorem Declines.refuses {context : FaultContext} {code : Nat} {address : VirtAddr} {tlb : Tlb}
    {e : FaultError} (declines : Declines context code address tlb e) :
    Refuses context code address tlb e := by
  cases declines with
  | unknownKind unknown => exact .unknownKind unknown
  | noProcess _ absent => exact .noProcess absent
  | noSpace _ _ absent => exact .noSpace absent
  | badAddress _ _ present outside => exact .badAddress present outside
  | tlbFull _ _ _ _ full => exact .tlbFull fun _ _ => Tlb.isValid_of_slotFor?_eq_none full

/-- A miss that passes every check puts the page and the frame that the segments give for
it into the slot that there is for the page. One that does not leaves the processor as it
was. -/
theorem ends_handleFault_checks {context : FaultContext} {code : Nat} {address : VirtAddr} :
    (handleFault context code address).Ends left cpu
      ⟨fun frame cpu' _ => ∃ kind segments target slot, FaultKind.ofCode? code = some kind ∧
          kind ≠ .readOnly ∧ context.hasProcess = true ∧ context.segments = some segments ∧
          segments.translate address.page.base = .ok (some target) ∧ frame = target.page ∧
          cpu.tlb.slotFor? address.page = some slot ∧
          cpu' = { cpu with tlb := cpu.tlb.set slot (.mapping address.page frame) },
        fun e cpu' _ => cpu' = cpu ∧ FaultKind.ofCode? code ≠ some .readOnly ∧
          Declines context code address cpu.tlb e,
        fun _ cpu' => cpu' = cpu ∧ (FaultKind.ofCode? code = some .readOnly ∨
          ∃ segments cause, context.segments = some segments ∧
            segments.translate address.page.base = .error cause)⟩ := by
  unfold handleFault
  rcases isKind : FaultKind.ofCode? code with _ | kind
  · exact ends_fail.mpr ⟨rfl, nofun, .unknownKind isKind⟩
  refine ends_bind.mpr (ends_log.mpr ?_)
  split
  · next isReadOnly => exact ends_abort.mpr ⟨rfl, .inl (congrArg some isReadOnly)⟩
  next isWritable =>
  have notReadOnly : some kind ≠ some .readOnly := fun same => isWritable (Option.some.inj same)
  split
  · next process =>
    rcases segments? : context.segments with _ | segments
    · exact ends_fail.mpr ⟨rfl, notReadOnly, .noSpace isKind process segments?⟩
    refine ends_bind.mpr (ends_ofExcept.mpr ?_)
    rcases translated : segments.translate address.page.base with cause | _ | target
    · exact ⟨rfl, .inr ⟨segments, cause, rfl, translated⟩⟩
    · exact ends_fail.mpr ⟨rfl, notReadOnly, .badAddress isKind process segments? translated⟩
    · refine ends_bind.mpr (ends_masked (ends_refill.mono ?_ ?_ ?_))
      · rintro _ _ _ ⟨slot, chosen, rfl⟩
        refine ⟨rfl, ends_pure.mpr ?_⟩
        exact ⟨kind, segments, target, slot, rfl, isWritable, process, rfl, translated, rfl,
          chosen, rfl⟩
      · rintro _ _ _ ⟨rfl, rfl, full⟩
        exact ⟨rfl, rfl, notReadOnly, .tlbFull isKind process segments? translated full⟩
      · exact fun _ _ => False.elim
  · next absent =>
    exact ends_fail.mpr
      ⟨rfl, notReadOnly, .noProcess isKind (Bool.eq_false_iff.mpr absent)⟩

/-- A miss that is resolved puts the page and the frame that the segments give for it into
a slot that the buffer offers. One that is not leaves the processor as it was. -/
theorem ends_handleFault {context : FaultContext} {code : Nat} {address : VirtAddr} :
    (handleFault context code address).Ends left cpu
      ⟨fun frame cpu' _ => ∃ segments target slot old, context.segments = some segments ∧
          segments.translate address.page.base = .ok (some target) ∧ frame = target.page ∧
          cpu.tlb.Offers address.page slot old ∧
          cpu' = { cpu with tlb := cpu.tlb.set slot (.mapping address.page frame) },
        fun e cpu' _ => cpu' = cpu ∧ Refuses context code address cpu.tlb e,
        fun _ cpu' => cpu' = cpu ∧ (FaultKind.ofCode? code = some .readOnly ∨
          ∃ segments cause, context.segments = some segments ∧
            segments.translate address.page.base = .error cause)⟩ := by
  refine ends_handleFault_checks.mono ?_ ?_ fun _ _ => id
  · rintro frame cpu' _
      ⟨_, segments, target, slot, _, _, _, present, translated, isFrame, chosen, isRefilled⟩
    obtain ⟨old, offers⟩ := Tlb.exists_offers_of_slotFor? chosen
    exact ⟨segments, target, slot, old, present, translated, isFrame, offers, isRefilled⟩
  · rintro e cpu' _ ⟨isSame, _, declines⟩
    exact ⟨isSame, declines.refuses⟩

end Cpu

end PagedMemory
