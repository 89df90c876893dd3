import PagedMemory.Proofs.Operation.Regime
import PagedMemory.Proofs.Tlb.Slots

/-!
# Work with interrupts masked

Once a controller is installed, a processor reads and overwrites its slots only while
interrupts are masked, in whatever scopes the work is done and however it ends. A scope is
left at the level at which it was entered, also where a panic leaves it, so that what is
shown of the level nests: each scope inside another one sets the level back to what it found,
and until the outermost one is left everything stays masked.
-/

namespace PagedMemory

/-! ## What events say about the level -/

/-- The interrupt level, and the levels to which the open scopes will set it back, the
innermost scope first. -/
structure Levels where
  level : InterruptLevel
  scopes : List InterruptLevel

/-- A slot was read or overwritten. -/
def Event.AccessesSlot : Event → Prop
  | .slotRead _ | .slotWritten _ => True
  | _ => False

/-- The interrupt level was changed. -/
def Event.ChangesLevel : Event → Prop
  | .masked _ | .restored _ => True
  | _ => False

/-- A scope is entered at the level there is, everything is masked inside, and it is left for
the level at which it was entered. Slots are accessed while everything is masked. -/
def masking : Discipline Levels where
  admits levels
    | .masked previous => previous = levels.level
    | .restored level => levels.scopes.head? = some level
    | .slotRead _ | .slotWritten _ => levels.level = Interrupts.high
    | _ => True
  next levels
    | .masked _ => ⟨Interrupts.high, levels.level :: levels.scopes⟩
    | .restored level => ⟨level, levels.scopes.tail⟩
    | _ => levels

/-- The level, and those to be set back, after some events that began at a level. -/
def levelsAfter (level : InterruptLevel) (events : List Event) : Levels :=
  masking.after ⟨level, []⟩ events

/-- Scopes are entered and left in pairs, and each is left for the level at which it was
entered. -/
inductive Bracketed : List Event → Prop where
  | nil : Bracketed []
  | other {event : Event} {rest : List Event} (keeps : ¬ event.ChangesLevel)
      (after : Bracketed rest) : Bracketed (event :: rest)
  | scope (level : InterruptLevel) {shown rest : List Event} (inside : Bracketed shown)
      (after : Bracketed rest) : Bracketed (.masked level :: (shown ++ .restored level :: rest))

theorem Bracketed.append {first more : List Event} (begun : Bracketed first)
    (ended : Bracketed more) : Bracketed (first ++ more) := by
  induction begun with
  | nil => exact ended
  | other keeps _ ih => exact .other keeps ih
  | @scope level shown rest inside _ _ ih =>
    have regrouped : .masked level :: (shown ++ .restored level :: rest) ++ more =
        .masked level :: (shown ++ .restored level :: (rest ++ more)) := by simp
    rw [regrouped]
    exact .scope level inside ih

/-- The level is the topmost of a pile of levels, and all of them but the lowest are high. -/
def Levels.Piled (levels : Levels) : Prop :=
  ∀ level ∈ (levels.level :: levels.scopes).dropLast, level = Interrupts.high

theorem Levels.Piled.next {levels : Levels} {event : Event} (piled : levels.Piled)
    (admits : masking.admits levels event) : (masking.next levels event).Piled := by
  cases event with
  | masked previous =>
    intro level mem
    rcases List.mem_cons.mp mem with rfl | below
    · rfl
    · exact piled level below
  | restored back =>
    obtain ⟨rest, scopes⟩ := List.head?_eq_some_iff.mp admits
    intro level mem
    -- What is set back to lay right below the top, so the pile only loses its top.
    refine piled level ?_
    have inner : level ∈ (back :: rest).dropLast := by simpa [masking, scopes] using mem
    rw [scopes]
    exact List.mem_cons_of_mem _ inner
  | _ => exact piled

theorem Levels.Piled.level_eq_high {levels : Levels} (piled : levels.Piled)
    (isOpen : levels.scopes ≠ []) : levels.level = Interrupts.high := by
  refine piled levels.level ?_
  rw [List.dropLast_cons_of_ne_nil isOpen]
  exact List.mem_cons_self

namespace Cpu

/-! ## Routines -/

/-- Work of a processor that is put together from scopes in which interrupts are masked,
switches to another space and misses. -/
inductive Routine where
  /-- Nothing is left to do. -/
  | done
  /-- The work ends in a panic. -/
  | panic (cause : Panic)
  /-- Another space becomes the current one. -/
  | activate
  /-- A miss is to be resolved; what it reports is handed on. -/
  | miss (context : FaultContext) (code : Nat) (address : VirtAddr)
  /-- One routine after another. -/
  | both (first second : Routine)
  /-- A routine in a scope of its own. -/
  | scope (body : Routine)
  /-- A routine whose error is answered by another one. -/
  | recover (body answer : Routine)
deriving DecidableEq

namespace Routine

/-- Run a routine. -/
def run : Routine → Operation FaultError Cpu Unit
  | done => pure ()
  | panic cause => Operation.abort cause
  | activate => flush
  | miss context code address => do
    let _ ← handleFault context code address
  | both first second => do
    first.run
    second.run
  | scope body => masked body.run
  | recover body answer => do
    match ← body.run.attempt with
    | .ok _ => pure ()
    | .error _ => answer.run

/-- While a routine is run on `start`, a part of it that stands in `depth` scopes is begun on
another state of the processor. -/
inductive Begins : Routine → Cpu → Routine → Nat → Cpu → Prop where
  | whole (routine : Routine) (start : Cpu) : Begins routine start routine 0 start
  | first {first second part : Routine} {start cpu : Cpu} {depth : Nat}
      (inFirst : Begins first start part depth cpu) :
      Begins (.both first second) start part depth cpu
  | second {first second part : Routine} {start middle cpu : Cpu} {depth : Nat}
      {shown : List Event} (returns : first.run.run start = ⟨.value (), middle, shown⟩)
      (inSecond : Begins second middle part depth cpu) :
      Begins (.both first second) start part depth cpu
  | scope {body part : Routine} {start entered cpu : Cpu} {depth : Nat}
      {previous : Option InterruptLevel} {shown : List Event}
      (enters : (onInterrupts Interrupts.mask : Operation FaultError Cpu _).run start =
        ⟨.value previous, entered, shown⟩)
      (inBody : Begins body entered part depth cpu) :
      Begins (.scope body) start part (depth + 1) cpu
  | body {body answer part : Routine} {start cpu : Cpu} {depth : Nat}
      (inBody : Begins body start part depth cpu) :
      Begins (.recover body answer) start part depth cpu
  | answer {body answer part : Routine} {start middle cpu : Cpu} {depth : Nat} {e : FaultError}
      {shown : List Event} (fails : body.run.run start = ⟨.error e, middle, shown⟩)
      (inAnswer : Begins answer middle part depth cpu) :
      Begins (.recover body answer) start part depth cpu

end Routine

/-! ## At a fixed level -/

/-- What work keeps to that is begun at some level in some open scopes: it comes back to the
level, whatever it shows of it. -/
def maskRegime (interrupts : Interrupts) (scopes : List InterruptLevel) : Regime Cpu where
  state cpu := cpu.interrupts = interrupts
  shows events := masking.Closes ⟨interrupts.level, scopes⟩ events ∧ Bracketed events
  panics _ := True
  shows_nil := ⟨Discipline.closes_nil, .nil⟩
  shows_append := fun begun ended => ⟨begun.1.append ended.1, begun.2.append ended.2⟩

variable {ε α : Type} {interrupts : Interrupts} {scopes : List InterruptLevel}

theorem shows_single {event : Event} (admits : masking.admits ⟨interrupts.level, scopes⟩ event)
    (keeps : ¬ event.ChangesLevel) : (maskRegime interrupts scopes).shows [event] := by
  refine ⟨Discipline.closes_single admits ?_, .other keeps .nil⟩
  cases event with
  | masked | restored => exact absurd trivial keeps
  | _ => rfl

theorem keepsTo_log (level : LogLevel) (text : String) :
    (Operation.log level text : Operation ε Cpu Unit).KeepsTo (maskRegime interrupts scopes) :=
  .emit (shows_single trivial id)

theorem keepsTo_readSlot (isHigh : interrupts.level = Interrupts.high) (slot : Nat) :
    (readSlot slot : Operation ε Cpu TlbEntry).KeepsTo (maskRegime interrupts scopes) := by
  intro cpu kept
  unfold Operation.run readSlot
  split
  · exact ⟨kept, shows_single isHigh id, nofun⟩
  · exact ⟨kept, (maskRegime interrupts scopes).shows_nil, fun _ _ => trivial⟩

theorem keepsTo_writeSlot (isHigh : interrupts.level = Interrupts.high) (slot : Nat)
    (entry : TlbEntry) :
    (writeSlot slot entry : Operation ε Cpu Unit).KeepsTo (maskRegime interrupts scopes) := by
  intro cpu kept
  unfold Operation.run writeSlot
  split
  · exact ⟨kept, shows_single isHigh id, nofun⟩
  · exact ⟨kept, (maskRegime interrupts scopes).shows_nil, fun _ _ => trivial⟩

theorem keepsTo_firstSlot (isHigh : interrupts.level = Interrupts.high)
    (wanted : TlbEntry → Bool) (slots : List Nat) :
    (firstSlot wanted slots : Operation ε Cpu (Option Nat)).KeepsTo
      (maskRegime interrupts scopes) := by
  induction slots with
  | nil => exact .pure none
  | cons slot rest ih =>
    refine .bind (keepsTo_readSlot isHigh slot) fun entry => ?_
    split
    · exact .pure _
    · exact ih

theorem keepsTo_invalidateAll (isHigh : interrupts.level = Interrupts.high) :
    (invalidateAll : Operation ε Cpu Unit).KeepsTo (maskRegime interrupts scopes) := by
  refine .bind (.read _) fun size => .forM (fun slot => ?_) _
  exact .bind (.ofExcept fun _ _ => trivial) fun entry => keepsTo_writeSlot isHigh slot entry

theorem keepsTo_refill (isHigh : interrupts.level = Interrupts.high) (address : VirtAddr)
    (frame : Frame) : (refill address frame).KeepsTo (maskRegime interrupts scopes) := by
  have searches (wanted : TlbEntry → Bool) :
      (Operation.read slotCount >>= fun size => firstSlot wanted (List.range size) :
        Operation FaultError Cpu (Option Nat)).KeepsTo (maskRegime interrupts scopes) :=
    .bind (.read _) fun _ => keepsTo_firstSlot isHigh wanted _
  refine .bind (searches _) fun held => ?_
  -- Whichever search names the slot, what is done with it is the same.
  split
  case' h_1 => refine .bind (.pure _) fun slot? => ?_
  case' h_2 => refine .bind (searches _) fun slot? => ?_
  all_goals
    cases slot? with
    | none => exact .bind (keepsTo_log _ _) fun _ => .fail _
    | some slot => exact .bind (keepsTo_writeSlot isHigh _ _) fun _ => keepsTo_log _ _

/-! ## Scopes -/

theorem run_mask {cpu : Cpu} (installed : cpu.interrupts.installed = true) :
    (onInterrupts Interrupts.mask : Operation ε Cpu (Option InterruptLevel)).run cpu =
      ⟨.value (some cpu.interrupts.level),
        { cpu with interrupts := { cpu.interrupts with level := Interrupts.high } },
        [.masked cpu.interrupts.level]⟩ := by
  simp [Operation.run, onInterrupts, Operation.onPart, Interrupts.mask, installed]

theorem run_restore {cpu : Cpu} {level : InterruptLevel}
    (installed : cpu.interrupts.installed = true) :
    (onInterrupts (Interrupts.restore (some level)) : Operation ε Cpu Unit).run cpu =
      ⟨.value (), { cpu with interrupts := { cpu.interrupts with level := level } },
        [.restored level]⟩ := by
  simp [Operation.run, onInterrupts, Operation.onPart, Interrupts.restore, installed]

/-- A scope is entered at some level and left for it, however what is done in it ends. -/
theorem keepsTo_masked {body : Operation ε Cpu α} (installed : interrupts.installed = true)
    (kept : body.KeepsTo
      (maskRegime { interrupts with level := Interrupts.high } (interrupts.level :: scopes))) :
    (masked body).KeepsTo (maskRegime interrupts scopes) := by
  refine .enclosed kept ?_ fun _ => id
  rintro cpu (rfl : cpu.interrupts = interrupts)
  refine ⟨_, _, _, [.restored cpu.interrupts.level], run_mask installed, rfl, ?_, ?_⟩
  · intro u (high : u.interrupts = { cpu.interrupts with level := Interrupts.high })
    refine ⟨_, run_restore (by rw [high]; exact installed), ?_⟩
    rw [high]
    rfl
  · rintro shown ⟨closes, bracketed⟩
    exact ⟨closes.enclosed rfl rfl rfl, .scope _ bracketed .nil⟩

theorem keepsTo_flush (installed : interrupts.installed = true) :
    (flush : Operation ε Cpu Unit).KeepsTo (maskRegime interrupts scopes) :=
  keepsTo_masked installed (keepsTo_invalidateAll rfl)

theorem keepsTo_handleFault (installed : interrupts.installed = true) (context : FaultContext)
    (code : Nat) (address : VirtAddr) :
    (handleFault context code address).KeepsTo (maskRegime interrupts scopes) := by
  unfold handleFault
  split
  · exact .fail _
  · refine .bind (keepsTo_log _ _) fun _ => ?_
    split
    · exact .abort trivial
    · split
      · split
        · exact .fail _
        · refine .bind (.ofExcept fun _ _ => trivial) fun target? => ?_
          split
          · exact .fail _
          · exact .bind (keepsTo_masked installed (keepsTo_refill rfl _ _)) fun _ => .pure _
      · exact .fail _

/-! ## Misses that are refused early -/

/-- Nothing has changed, and nothing is shown of the level or of a slot. -/
structure Untouched (cpu : Cpu) (outcome : Outcome ε Cpu α) : Prop where
  state : outcome.state = cpu
  silent : ∀ event ∈ outcome.events, ¬ event.ChangesLevel ∧ ¬ event.AccessesSlot

/-- An operation that is refused for another reason than want of a slot leaves the slots
alone. -/
def RefusesEarly (op : Operation FaultError Cpu α) : Prop :=
  ∀ cpu, (∀ a, (op.run cpu).result ≠ .value a) → (op.run cpu).result ≠ .error .tlbFull →
    Untouched cpu (op.run cpu)

namespace RefusesEarly

theorem fail (e : FaultError) : RefusesEarly (Operation.fail e : Operation _ Cpu α) :=
  fun _ _ _ => ⟨rfl, nofun⟩

theorem abort (cause : Panic) : RefusesEarly (Operation.abort cause : Operation _ Cpu α) :=
  fun _ _ _ => ⟨rfl, nofun⟩

theorem log_bind {level : LogLevel} {text : String} {next : Unit → Operation FaultError Cpu α}
    (early : RefusesEarly (next ())) : RefusesEarly (Operation.log level text >>= next) := by
  intro cpu unresolved hasRoom
  rw [Operation.run_bind_of_value (Operation.run_log level text cpu)] at unresolved hasRoom ⊢
  obtain ⟨same, silent⟩ := early cpu unresolved hasRoom
  refine ⟨same, fun event mem => ?_⟩
  rcases List.mem_cons.mp mem with rfl | later
  · exact ⟨id, id⟩
  · exact silent event later

theorem ofExcept_bind {β : Type} {result : Except Panic β} {next : β → Operation FaultError Cpu α}
    (early : ∀ b, RefusesEarly (next b)) : RefusesEarly (Operation.ofExcept result >>= next) := by
  cases result with
  | error cause => exact abort cause
  | ok b => exact (Operation.pure_bind b next).symm ▸ early b

/-- A refill either fills a slot or there is none left. -/
theorem masked_refill {address : VirtAddr} {frame : Frame}
    {next : Unit → Operation FaultError Cpu α} (returns : ∀ cpu, ∃ a, ((next ()).run cpu).result = .value a) :
    RefusesEarly (masked (refill address frame) >>= next) := by
  intro cpu unresolved hasRoom
  have ends (left : Nat) : (masked (refill address frame)).Ends left cpu
      ⟨fun _ _ _ => True, fun e _ _ => e = .tlbFull, fun _ _ => False⟩ := by
    refine ends_masked (ends_refill.mono ?_ ?_ fun _ _ => False.elim)
    · rintro _ _ _ ⟨_, _, rfl⟩
      exact ⟨rfl, trivial⟩
    · rintro _ _ _ ⟨full, rfl, _⟩
      exact ⟨rfl, full⟩
  rcases ran : (masked (refill address frame)).run cpu with ⟨_ | e | cause, t, shown⟩
  · rw [Operation.run_bind_of_value ran] at unresolved
    obtain ⟨a, value⟩ := returns t
    exact absurd value (unresolved a)
  · rw [Operation.run_bind_of_error ran] at hasRoom
    exact absurd (congrArg Result.error ((ends _).of_error ran (Nat.le_refl _))) hasRoom
  · exact ((ends _).of_panic ran (Nat.le_refl _)).elim

end RefusesEarly

theorem refusesEarly_handleFault (context : FaultContext) (code : Nat) (address : VirtAddr) :
    RefusesEarly (handleFault context code address) := by
  unfold handleFault
  split
  · exact .fail _
  · refine .log_bind ?_
    split
    · exact .abort _
    · split
      · split
        · exact .fail _
        · refine .ofExcept_bind fun target? => ?_
          split
          · exact .fail _
          · exact .masked_refill fun _ => ⟨_, rfl⟩
      · exact .fail _

/-! ## Whole routines -/

namespace Routine

/-- A routine comes back to the level at which it is begun, in whatever scopes that is. -/
theorem keepsTo_run (routine : Routine) (installed : interrupts.installed = true) :
    routine.run.KeepsTo (maskRegime interrupts scopes) := by
  -- A scope is a routine at another level and in one more scope, so both are general.
  induction routine generalizing interrupts scopes with
  | done => exact .pure ()
  | panic cause => exact .abort trivial
  | activate => exact keepsTo_flush installed
  | miss context code address =>
    exact .bind (keepsTo_handleFault installed _ _ _) fun _ => .pure ()
  | both first second ihFirst ihSecond =>
    exact .bind (ihFirst installed) fun _ => ihSecond installed
  | scope body ih => exact keepsTo_masked installed (ih installed)
  | recover body answer ihBody ihAnswer =>
    refine .bind (.attempt (ihBody installed)) fun ended => ?_
    cases ended with
    | ok => exact .pure ()
    | error => exact ihAnswer installed

theorem interrupts_run (routine : Routine) {cpu : Cpu}
    (installed : cpu.interrupts.installed = true) :
    (routine.run.run cpu).state.interrupts = cpu.interrupts := by
  have kept : routine.run.KeepsTo (maskRegime cpu.interrupts []) := keepsTo_run routine installed
  exact (kept cpu rfl).state

/-- A part of a routine is begun with the controller still installed, and with everything
masked if it stands in a scope. -/
theorem Begins.level {routine part : Routine} {start cpu : Cpu} {depth : Nat}
    (begins : Begins routine start part depth cpu)
    (installed : start.interrupts.installed = true) :
    cpu.interrupts.installed = true ∧
      (0 < depth ∨ start.interrupts.level = Interrupts.high →
        cpu.interrupts.level = Interrupts.high) := by
  induction begins with
  | whole => exact ⟨installed, fun high => high.resolve_left (Nat.lt_irrefl 0)⟩
  | first _ ih => exact ih installed
  | @second first _ _ _ _ _ _ _ returns _ ih =>
    have kept := interrupts_run first installed
    rw [returns] at kept
    exact kept ▸ ih (kept ▸ installed)
  | scope enters _ ih =>
    rw [run_mask installed] at enters
    cases enters
    obtain ⟨still, high⟩ := ih installed
    exact ⟨still, fun _ => high (.inr rfl)⟩
  | body _ ih => exact ih installed
  | @answer body _ _ _ _ _ _ _ _ fails _ ih =>
    have kept := interrupts_run body installed
    rw [fails] at kept
    exact kept ▸ ih (kept ▸ installed)

/-- How a routine treats the interrupt level when it is run on a processor. -/
structure Masks (routine : Routine) (cpu : Cpu) : Prop where
  /-- Every part of the routine, a scope or a call among them, ends at the level at which it
  is begun, however it ends. -/
  restores : ∀ part depth reached, Begins routine cpu part depth reached →
    (part.run.run reached).state.interrupts = reached.interrupts
  /-- What stands in a scope is begun with everything masked. -/
  masks : ∀ part depth reached, Begins routine cpu part depth reached → 0 < depth →
    reached.interrupts.level = Interrupts.high
  /-- A scope is entered at the level that the scopes before it lead to. -/
  enters : ∀ before previous after, (routine.run.run cpu).events =
    before ++ .masked previous :: after → previous = (levelsAfter cpu.interrupts.level before).level
  /-- The level that is set back is the one at which the innermost open scope was entered. -/
  leaves : ∀ before level after, (routine.run.run cpu).events = before ++ .restored level :: after →
    (levelsAfter cpu.interrupts.level before).scopes.head? = some level
  bracketed : Bracketed (routine.run.run cpu).events
  /-- Every scope has been left in the end, and the level is what the scopes lead to. -/
  reached : levelsAfter cpu.interrupts.level (routine.run.run cpu).events =
    ⟨(routine.run.run cpu).state.interrupts.level, []⟩
  /-- While a scope is open everything is masked. -/
  inside : ∀ before after, (routine.run.run cpu).events = before ++ after →
    (levelsAfter cpu.interrupts.level before).scopes ≠ [] →
      (levelsAfter cpu.interrupts.level before).level = Interrupts.high
  /-- A slot is only read or overwritten while everything is masked. -/
  accesses : ∀ before event after, (routine.run.run cpu).events = before ++ event :: after →
    event.AccessesSlot → (levelsAfter cpu.interrupts.level before).level = Interrupts.high
  /-- A miss that is refused before the slots are looked at shows nothing of the level. -/
  refuses : ∀ context code address depth reached,
    Begins routine cpu (.miss context code address) depth reached →
    (∀ frame, ((handleFault context code address).run reached).result ≠ .value frame) →
    ((handleFault context code address).run reached).result ≠ .error .tlbFull →
    Untouched reached ((handleFault context code address).run reached)

/-- Once a controller is installed, every routine masks interrupts where it has to and sets
the level back, at whatever level it is begun and however it ends. -/
theorem masks_of_installed (routine : Routine) (cpu : Cpu)
    (installed : cpu.interrupts.installed = true) : Masks routine cpu := by
  have done : (routine.run.run cpu).KeepsTo (maskRegime cpu.interrupts []) :=
    keepsTo_run routine installed cpu rfl
  obtain ⟨closes, bracketed⟩ := done.shows
  have admitted {before after : List Event} {event : Event}
      (shown : (routine.run.run cpu).events = before ++ event :: after) :
      masking.admits (levelsAfter cpu.interrupts.level before) event :=
    (show masking.Obeyed _ (before ++ event :: after) from shown ▸ closes.obeyed).admits
  constructor
  case restores =>
    intro part depth reached begins
    exact interrupts_run part (begins.level installed).1
  case masks =>
    intro part depth reached begins inside
    exact (begins.level installed).2 (.inl inside)
  case enters => exact fun before previous after shown => admitted shown
  case leaves => exact fun before level after shown => admitted shown
  case bracketed => exact bracketed
  case reached =>
    rw [interrupts_run routine installed]
    exact closes.back
  case inside =>
    intro before after shown isOpen
    have obeyed : masking.Obeyed ⟨cpu.interrupts.level, []⟩ before :=
      (Discipline.obeyed_append.mp (shown ▸ closes.obeyed)).1
    have piled : (levelsAfter cpu.interrupts.level before).Piled :=
      obeyed.keeps (fun _ _ => Levels.Piled.next) nofun
    exact piled.level_eq_high isOpen
  case accesses =>
    intro before event after shown accesses
    have admits := admitted shown
    cases event with
    | slotRead | slotWritten => exact admits
    | _ => exact accesses.elim
  case refuses =>
    exact fun context code address _ reached _ => refusesEarly_handleFault _ _ _ reached

/-- A store to a read-only page panics in the inner one of two scopes, after a switch to
another space in the outer one, and both are left. -/
theorem masks_readOnly_in_scopes :
    let routine := scope (both activate (scope (miss ⟨true, none⟩ 2 ⟨0x400000, by decide⟩)))
    let cpu : Cpu := ⟨⟨true, 5⟩, .idle 1⟩
    (routine.run.run cpu).events =
        [.masked 5, .masked 1, .slotWritten 0, .restored 1, .masked 1,
          .logged .debug "fault: 0x00400000 (ReadOnly)", .restored 1, .restored 5] ∧
      (routine.run.run cpu).result = .panic (.readOnlyFault ⟨0x400000, by decide⟩) ∧
      Masks routine cpu :=
  ⟨by decide +kernel, by decide +kernel, masks_of_installed _ _ rfl⟩

end Routine

end Cpu

end PagedMemory
