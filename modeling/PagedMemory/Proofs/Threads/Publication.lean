import Mathlib.Logic.Function.Basic
import PagedMemory.Lock.SetOnce

/-!
# Threads that race for a cell

Any number of threads set a cell and get its value, each in atomic steps of its own between which
any other thread may run. Whatever the order, the cell is changed by the three steps of a single
call, which reserves it, writes the slot and publishes it. Every other call that would set the cell
hands its own value back and leaves the cell as it is; the value is got by nobody before it has
been published and by everybody afterwards, so that no slot is read that was not written.
-/

namespace PagedMemory.SetOnce

/-! ## The threads and their steps -/

/-- How far a thread has come with a value that it wants to store. -/
inductive Stage (α : Type) where
  /-- It stores no value. -/
  | idle
  /-- It has called for a value to be stored. -/
  | asking (value : α)
  /-- It has reserved the cell and has yet to write the slot. -/
  | reserved (value : α)
  /-- It has written the slot and has yet to publish it. -/
  | written (value : α)
deriving DecidableEq

/-- What a thread does in one atomic step, and what it learns. -/
inductive Move (α : Type) where
  /-- It calls for a value to be stored. -/
  | ask (value : α)
  /-- It reserves the cell. -/
  | reserve (value : α)
  /-- It cannot reserve the cell, and its call hands a value back. -/
  | handBack (value : α)
  /-- It writes the slot. -/
  | write (value : α)
  /-- It publishes the slot, and its call has stored the value. -/
  | publish (value : α)
  /-- It asks for the value and learns whether there is one. -/
  | look (isSet : Bool)
  /-- It reads the slot, having learnt that there is a value. -/
  | follow (found : Option α)
deriving DecidableEq

/-- Whether a thread is between reserving the cell and publishing it. -/
def Stage.isInside {α : Type} : Stage α → Bool
  | .idle | .asking _ => false
  | .reserved _ | .written _ => true

/-- Whether a step changes the cell. -/
def Move.isChange {α : Type} : Move α → Bool
  | .reserve _ | .write _ | .publish _ => true
  | .ask _ | .handBack _ | .look _ | .follow _ => false

/-- Whether a step ends a call that has stored its value. -/
def Move.isPublish {α : Type} : Move α → Bool
  | .publish _ => true
  | _ => false

/-- Threads that share a cell. -/
structure Race (τ α : Type) where
  cell : SetOnce α
  stage : τ → Stage α
  /-- The threads that have learnt that there is a value, and may read the slot from then on. -/
  readers : List τ

variable {τ α : Type} [DecidableEq τ]

/-- The threads before the cell has been touched. -/
def Race.fresh : Race τ α where
  cell := .empty
  stage := fun _ => .idle
  readers := []

/-- One step of one thread. -/
inductive Step (p : Race τ α) : τ × Move α → Race τ α → Prop where
  | ask (thread : τ) (value : α) (idle : p.stage thread = .idle) :
      Step p (thread, .ask value)
        { p with stage := Function.update p.stage thread (.asking value) }
  | reserve (thread : τ) {value : α} {cell : SetOnce α} (asks : p.stage thread = .asking value)
      (reserves : p.cell.reserve = some cell) :
      Step p (thread, .reserve value)
        { p with cell := cell, stage := Function.update p.stage thread (.reserved value) }
  | handBack (thread : τ) {value : α} (asks : p.stage thread = .asking value)
      (fails : p.cell.reserve = none) :
      Step p (thread, .handBack value) { p with stage := Function.update p.stage thread .idle }
  | write (thread : τ) {value : α} (reserved : p.stage thread = .reserved value) :
      Step p (thread, .write value)
        { p with
          cell := p.cell.write value
          stage := Function.update p.stage thread (.written value) }
  | publish (thread : τ) {value : α} (written : p.stage thread = .written value) :
      Step p (thread, .publish value)
        { p with cell := p.cell.publish, stage := Function.update p.stage thread .idle }
  | miss (thread : τ) (idle : p.stage thread = .idle) (isUnset : p.cell.state ≠ .set) :
      Step p (thread, .look false) p
  | find (thread : τ) (idle : p.stage thread = .idle) (isSet : p.cell.state = .set) :
      Step p (thread, .look true) { p with readers := thread :: p.readers }
  | follow (thread : τ) (idle : p.stage thread = .idle) (reads : thread ∈ p.readers) :
      Step p (thread, .follow p.cell.slot) p

/-- What threads can reach, and the steps that lead there, the latest one first. -/
inductive Run (start : Race τ α) : List (τ × Move α) → Race τ α → Prop where
  | start : Run start [] start
  | step {history : List (τ × Move α)} {event : τ × Move α} {p q : Race τ α}
      (run : Run start history p) (next : Step p event q) : Run start (event :: history) q

/-- The steps that changed the cell. -/
def changes (history : List (τ × Move α)) : List (τ × Move α) :=
  history.filter fun event => event.2.isChange

/-- What a thread did last. -/
def lastOf (thread : τ) (history : List (τ × Move α)) : Option (Move α) :=
  (history.find? fun event => event.1 = thread).map Prod.snd

/-! ## The invariant -/

variable {history earlier later : List (τ × Move α)} {event : τ × Move α} {p q start : Race τ α}
  {thread : τ} {value : α} {cell : SetOnce α} {stage : τ → Stage α}
  {changed : List (τ × Move α)}

theorem reserve_eq_some_iff {reserved : SetOnce α} :
    cell.reserve = some reserved ↔
      cell.state = .empty ∧ reserved = { cell with state := .writing } := by
  rw [reserve, Option.ite_none_right_eq_some, Option.some.injEq, eq_comm (a := reserved)]

theorem reserve_eq_none_iff : cell.reserve = none ↔ cell.state ≠ .empty := by
  simp [reserve]

/-- How far the cell has come: what it holds, which thread is between reserving and publishing
it, and which steps have changed it. -/
inductive Phase (cell : SetOnce α) (stage : τ → Stage α) : List (τ × Move α) → Prop where
  | untouched (isCell : cell = .empty) (outside : ∀ thread, (stage thread).isInside = false) :
      Phase cell stage []
  | reserved {winner : τ} {value : α} (isCell : cell = ⟨.writing, none⟩)
      (inside : stage winner = .reserved value)
      (outside : ∀ thread, thread ≠ winner → (stage thread).isInside = false) :
      Phase cell stage [(winner, .reserve value)]
  | written {winner : τ} {value : α} (isCell : cell = ⟨.writing, some value⟩)
      (inside : stage winner = .written value)
      (outside : ∀ thread, thread ≠ winner → (stage thread).isInside = false) :
      Phase cell stage [(winner, .write value), (winner, .reserve value)]
  | published {winner : τ} {value : α} (isCell : cell = ⟨.set, some value⟩)
      (outside : ∀ thread, (stage thread).isInside = false) :
      Phase cell stage [(winner, .publish value), (winner, .write value), (winner, .reserve value)]

namespace Phase

omit [DecidableEq τ] in
/-- A thread that is inside is the one that reserved the cell. -/
theorem eq_of_inside {winner : τ}
    (outside : ∀ other, other ≠ winner → (stage other).isInside = false)
    (inside : (stage thread).isInside = true) : thread = winner := by
  by_contra different
  rw [outside thread different] at inside
  cases inside

theorem outside_update {other : τ} {next : Stage α} (after : next.isInside = false)
    (outside : other ≠ thread → (stage other).isInside = false) :
    (Function.update stage thread next other).isInside = false := by
  by_cases same : other = thread
  · rw [same, Function.update_self]
    exact after
  · rw [Function.update_of_ne same]
    exact outside same

/-- A thread that stays outside leaves the phase as it is. -/
theorem update (phase : Phase cell stage changed) {next : Stage α}
    (before : (stage thread).isInside = false) (after : next.isInside = false) :
    Phase cell (Function.update stage thread next) changed := by
  have other {winner : τ} (inside : (stage winner).isInside = true) : winner ≠ thread := by
    rintro rfl
    rw [before] at inside
    cases inside
  cases phase with
  | untouched isCell outside =>
    exact .untouched isCell fun _ => outside_update after fun _ => outside _
  | reserved isCell inside outside =>
    refine .reserved isCell ?_ fun _ different => outside_update after fun _ => outside _ different
    rw [Function.update_of_ne (other (by rw [inside]; rfl)), inside]
  | written isCell inside outside =>
    refine .written isCell ?_ fun _ different => outside_update after fun _ => outside _ different
    rw [Function.update_of_ne (other (by rw [inside]; rfl)), inside]
  | published isCell outside =>
    exact .published isCell fun _ => outside_update after fun _ => outside _

theorem reserve (phase : Phase cell stage changed) {taken : SetOnce α}
    (reserves : cell.reserve = some taken) :
    Phase taken (Function.update stage thread (.reserved value))
      ((thread, .reserve value) :: changed) := by
  obtain ⟨isEmpty, rfl⟩ := reserve_eq_some_iff.mp reserves
  cases phase with
  | untouched isCell outside =>
    refine .reserved (by rw [isCell]; rfl) (Function.update_self ..) fun other different => ?_
    rw [Function.update_of_ne different]
    exact outside other
  | reserved isCell => simp [isCell] at isEmpty
  | written isCell => simp [isCell] at isEmpty
  | published isCell => simp [isCell] at isEmpty

theorem write (phase : Phase cell stage changed) (isReserved : stage thread = .reserved value) :
    Phase (cell.write value) (Function.update stage thread (.written value))
      ((thread, .write value) :: changed) := by
  have inside : (stage thread).isInside = true := by rw [isReserved]; rfl
  cases phase with
  | untouched _ outside => simp [outside] at inside
  | reserved isCell isStage outside =>
    obtain rfl := eq_of_inside outside inside
    obtain rfl : value = _ := by simpa [isReserved] using isStage
    refine .written (by rw [isCell]; rfl) (Function.update_self ..) fun other different => ?_
    rw [Function.update_of_ne different]
    exact outside other different
  | written _ isStage outside =>
    obtain rfl := eq_of_inside outside inside
    simp [isReserved] at isStage
  | published _ outside => simp [outside] at inside

theorem publish (phase : Phase cell stage changed) (isWritten : stage thread = .written value) :
    Phase cell.publish (Function.update stage thread .idle)
      ((thread, .publish value) :: changed) := by
  have inside : (stage thread).isInside = true := by rw [isWritten]; rfl
  cases phase with
  | untouched _ outside => simp [outside] at inside
  | reserved _ isStage outside =>
    obtain rfl := eq_of_inside outside inside
    simp [isWritten] at isStage
  | written isCell isStage outside =>
    obtain rfl := eq_of_inside outside inside
    obtain rfl : value = _ := by simpa [isWritten] using isStage
    exact .published (by rw [isCell]; rfl) fun _ => outside_update rfl (outside _)
  | published _ outside => simp [outside] at inside

omit [DecidableEq τ] in
/-- The cell is set once its reserver has published it. -/
theorem state_eq_set_iff (phase : Phase cell stage changed) :
    cell.state = .set ↔ ∃ winner value, (winner, .publish value) ∈ changed := by
  cases phase with
  | untouched isCell => simp [isCell, empty]
  | reserved isCell => simp [isCell]
  | written isCell => simp [isCell]
  | published isCell => simp [isCell]

omit [DecidableEq τ] in
theorem get?_eq_some_iff (phase : Phase cell stage changed) :
    cell.get? = some value ↔ ∃ winner, (winner, .publish value) ∈ changed := by
  cases phase with
  | untouched isCell => simp [isCell, empty, get?]
  | reserved isCell => simp [isCell, get?]
  | written isCell => simp [isCell, get?]
  | published isCell => simp [isCell, get?, eq_comm]

omit [DecidableEq τ] in
/-- The cell is not empty once a thread has reserved it. -/
theorem state_ne_empty_iff (phase : Phase cell stage changed) :
    cell.state ≠ .empty ↔ ∃ winner value, (winner, .reserve value) ∈ changed := by
  cases phase with
  | untouched isCell => simp [isCell, empty]
  | reserved isCell => simp [isCell]
  | written isCell => simp [isCell]
  | published isCell => simp [isCell]

omit [DecidableEq τ] in
/-- The steps that have changed the cell are the first ones of a single call. -/
theorem isSuffix (phase : Phase cell stage changed) :
    changed = [] ∨ ∃ winner value, changed <:+
      [(winner, .publish value), (winner, .write value), (winner, .reserve value)] := by
  cases phase with
  | untouched => exact .inl rfl
  | reserved => exact .inr ⟨_, _, List.suffix_append [_, _] [_]⟩
  | written => exact .inr ⟨_, _, List.suffix_cons _ _⟩
  | published => exact .inr ⟨_, _, List.suffix_rfl⟩

omit [DecidableEq τ] in
theorem countP_isPublish_le (phase : Phase cell stage changed) :
    changed.countP (fun event => event.2.isPublish) ≤ 1 := by
  cases phase <;> simp [Move.isPublish]

omit [DecidableEq τ] in
/-- What is in the slot of a cell that is set was written and published. -/
theorem slot_of_set (phase : Phase cell stage changed) (isSet : cell.state = .set) :
    ∃ winner value, cell.slot = some value ∧ (winner, .write value) ∈ changed ∧
      (winner, .publish value) ∈ changed := by
  cases phase with
  | untouched isCell => simp [isCell, empty] at isSet
  | reserved isCell => simp [isCell] at isSet
  | written isCell => simp [isCell] at isSet
  | @published winner value isCell => exact ⟨winner, value, by rw [isCell], by simp, by simp⟩

end Phase

/-- What every step keeps. -/
structure Consistent (history : List (τ × Move α)) (p : Race τ α) : Prop where
  /-- A thread that wants to store a value has done nothing since it called for that. -/
  asked : ∀ thread value, p.stage thread = .asking value →
    lastOf thread history = some (.ask value)
  phase : Phase p.cell p.stage (changes history)
  /-- A thread may read the slot only if the cell is set. -/
  readers : ∀ thread ∈ p.readers, p.cell.state = .set

omit [DecidableEq τ] in
theorem changes_cons_of_isChange {move : Move α} (isChange : move.isChange = true) :
    changes ((thread, move) :: history) = (thread, move) :: changes history :=
  List.filter_cons_of_pos isChange

omit [DecidableEq τ] in
theorem changes_cons_of_not_isChange {move : Move α} (isChange : move.isChange = false) :
    changes ((thread, move) :: history) = changes history :=
  List.filter_cons_of_neg (by simp [isChange])

theorem lastOf_update (asked : ∀ other v, stage other = .asking v →
    lastOf other history = some (.ask v)) {next : Stage α} {move : Move α}
    (own : ∀ v, next = .asking v → move = .ask v) (other : τ) (v : α)
    (asking : Function.update stage thread next other = .asking v) :
    lastOf other ((thread, move) :: history) = some (.ask v) := by
  by_cases same : other = thread
  · subst same
    rw [Function.update_self] at asking
    simp [lastOf, own v asking]
  · rw [Function.update_of_ne same] at asking
    rw [← asked other v asking, lastOf, lastOf, List.find?_cons_of_neg (by simp [Ne.symm same])]

namespace Consistent

theorem fresh : Consistent [] (Race.fresh : Race τ α) where
  asked := by
    intro thread value asking
    cases asking
  phase := .untouched rfl fun _ => rfl
  readers := by simp [Race.fresh]

/-- A step that leaves the thread outside and the cell as it is. -/
theorem quiet (consistent : Consistent history p) {next : Stage α} {move : Move α}
    {readers : List τ} (before : (p.stage thread).isInside = false)
    (after : next.isInside = false) (own : ∀ v, next = .asking v → move = .ask v)
    (isChange : move.isChange = false) (read : ∀ reader ∈ readers, p.cell.state = .set) :
    Consistent ((thread, move) :: history)
      ⟨p.cell, Function.update p.stage thread next, readers⟩ where
  asked := lastOf_update consistent.asked own
  phase := by
    rw [changes_cons_of_not_isChange isChange]
    exact consistent.phase.update before after
  readers := read

/-- A step of an idle thread that changes nothing but who may read the slot. -/
theorem still (consistent : Consistent history p) {move : Move α} {readers : List τ}
    (idle : p.stage thread = .idle) (isChange : move.isChange = false)
    (read : ∀ reader ∈ readers, p.cell.state = .set) :
    Consistent ((thread, move) :: history) ⟨p.cell, p.stage, readers⟩ := by
  have quiet : Consistent ((thread, move) :: history)
      ⟨p.cell, Function.update p.stage thread (p.stage thread), readers⟩ :=
    consistent.quiet (by rw [idle]; rfl) (by rw [idle]; rfl) (by simp [idle]) isChange read
  rwa [Function.update_eq_self] at quiet

theorem step (consistent : Consistent history p) (next : Step p event q) :
    Consistent (event :: history) q := by
  cases next with
  | ask thread value idle =>
    exact consistent.quiet (by rw [idle]; rfl) rfl (by simp) rfl consistent.readers
  | reserve thread asks reserves =>
    refine ⟨lastOf_update consistent.asked (by simp), ?_, ?_⟩
    · rw [changes_cons_of_isChange rfl]
      exact consistent.phase.reserve reserves
    · intro reader reads
      have isEmpty := (reserve_eq_some_iff.mp reserves).1
      simp [consistent.readers reader reads] at isEmpty
  | handBack thread asks fails =>
    exact consistent.quiet (by rw [asks]; rfl) rfl (by simp) rfl consistent.readers
  | write thread reserved =>
    refine ⟨lastOf_update consistent.asked (by simp), ?_, consistent.readers⟩
    rw [changes_cons_of_isChange rfl]
    exact consistent.phase.write reserved
  | publish thread written =>
    refine ⟨lastOf_update consistent.asked (by simp), ?_, fun _ _ => rfl⟩
    rw [changes_cons_of_isChange rfl]
    exact consistent.phase.publish written
  | miss thread idle isUnset => exact consistent.still idle rfl consistent.readers
  | find thread idle isSet => exact consistent.still idle rfl fun _ _ => isSet
  | follow thread idle reads => exact consistent.still idle rfl consistent.readers

theorem of_run (run : Run Race.fresh history p) : Consistent history p := by
  induction run with
  | start => exact fresh
  | step _ next ih => exact ih.step next

end Consistent

/-! ## What a run has done -/

omit [DecidableEq τ] in
theorem mem_changes_iff {move : Move α} (isChange : move.isChange = true) :
    (thread, move) ∈ changes history ↔ (thread, move) ∈ history := by
  simp [changes, isChange]

omit [DecidableEq τ] in
theorem countP_isPublish_changes (history : List (τ × Move α)) :
    (changes history).countP (fun event => event.2.isPublish) =
      history.countP fun event => event.2.isPublish := by
  rw [changes, List.countP_filter]
  refine List.countP_congr fun event _ => ?_
  rcases event with ⟨_, _ | _ | _ | _ | _ | _ | _⟩ <;> simp [Move.isPublish, Move.isChange]

namespace Consistent

theorem state_eq_set_iff (consistent : Consistent history p) :
    p.cell.state = .set ↔ ∃ winner value, (winner, .publish value) ∈ history := by
  rw [consistent.phase.state_eq_set_iff]
  exact exists_congr fun winner => exists_congr fun value => mem_changes_iff rfl

theorem get?_eq_some_iff (consistent : Consistent history p) :
    p.cell.get? = some value ↔ ∃ winner, (winner, .publish value) ∈ history := by
  rw [consistent.phase.get?_eq_some_iff]
  exact exists_congr fun winner => mem_changes_iff rfl

theorem reserve_eq_none_iff (consistent : Consistent history p) :
    p.cell.reserve = none ↔ ∃ winner value, (winner, .reserve value) ∈ history := by
  rw [SetOnce.reserve_eq_none_iff, consistent.phase.state_ne_empty_iff]
  exact exists_congr fun winner => exists_congr fun value => mem_changes_iff rfl

end Consistent

/-- A run is cut at one of its steps. -/
theorem Run.exists_step (run : Run start (later ++ event :: earlier) q) :
    ∃ p p', Run start earlier p ∧ Step p event p' := by
  induction later generalizing q with
  | nil =>
    cases run with
    | step before next => exact ⟨_, _, before, next⟩
  | cons latest later ih =>
    cases run with
    | step before _ => exact ih before

namespace Run

/-- Before each step of a run the invariant holds. -/
theorem cut (run : Run Race.fresh (later ++ event :: earlier) p) :
    ∃ q q', Consistent earlier q ∧ Step q event q' := by
  obtain ⟨q, q', before, next⟩ := run.exists_step
  exact ⟨q, q', .of_run before, next⟩

theorem lastOf_of_reserve (run : Run Race.fresh (later ++ (thread, .reserve value) :: earlier) p) :
    lastOf thread earlier = some (.ask value) := by
  obtain ⟨q, q', before, next⟩ := run.cut
  cases next with
  | reserve _ asks _ => exact before.asked thread value asks

theorem lastOf_of_handBack
    (run : Run Race.fresh (later ++ (thread, .handBack value) :: earlier) p) :
    lastOf thread earlier = some (.ask value) := by
  obtain ⟨q, q', before, next⟩ := run.cut
  cases next with
  | handBack _ asks _ => exact before.asked thread value asks

theorem exists_reserve_of_handBack
    (run : Run Race.fresh (later ++ (thread, .handBack value) :: earlier) p) :
    ∃ winner other, (winner, .reserve other) ∈ earlier := by
  obtain ⟨q, q', before, next⟩ := run.cut
  cases next with
  | handBack _ _ fails => exact before.reserve_eq_none_iff.mp fails

theorem isSet_iff_of_look {isSet : Bool}
    (run : Run Race.fresh (later ++ (thread, .look isSet) :: earlier) p) :
    isSet = true ↔ ∃ winner value, (winner, .publish value) ∈ earlier := by
  obtain ⟨q, q', before, next⟩ := run.cut
  rw [← before.state_eq_set_iff]
  cases next with
  | miss _ _ isUnset => simp [isUnset]
  | find _ _ isSet => simp [isSet]

theorem exists_value_of_follow {found : Option α}
    (run : Run Race.fresh (later ++ (thread, .follow found) :: earlier) p) :
    ∃ winner value, found = some value ∧ (winner, .write value) ∈ earlier ∧
      (winner, .publish value) ∈ earlier := by
  obtain ⟨q, q', before, next⟩ := run.cut
  cases next with
  | follow _ _ reads =>
    obtain ⟨winner, value, isSlot, isWritten, isPublished⟩ :=
      before.phase.slot_of_set (before.readers thread reads)
    exact ⟨winner, value, isSlot, (mem_changes_iff rfl).mp isWritten,
      (mem_changes_iff rfl).mp isPublished⟩

end Run

/-! ## What a step does -/

namespace Step

theorem cell_eq {move : Move α} (next : Step p (thread, move) q)
    (isChange : move.isChange = false) : q.cell = p.cell := by
  cases next with
  | reserve | write | publish => cases isChange
  | ask | handBack | miss | find | follow => rfl

theorem slot_eq {move : Move α} (next : Step p (thread, move) q)
    (other : ∀ value, move ≠ .write value) : q.cell.slot = p.cell.slot := by
  cases next with
  | reserve _ _ reserves =>
    obtain ⟨-, rfl⟩ := reserve_eq_some_iff.mp reserves
    rfl
  | write => exact absurd rfl (other _)
  | publish => rfl
  | ask | handBack | miss | find | follow => rfl

/-- A thread whose call cannot reserve the cell goes on by handing its value back. -/
theorem eq_handBack {move : Move α} (next : Step p (thread, move) q)
    (asks : p.stage thread = .asking value) (fails : p.cell.reserve = none) :
    move = .handBack value := by
  cases next with
  | handBack _ same _ =>
    rw [asks] at same
    cases same
    rfl
  | reserve _ _ reserves =>
    rw [fails] at reserves
    cases reserves
  | ask _ _ other | write _ other | publish _ other | miss _ other _ | find _ other _
  | follow _ other _ =>
    rw [asks] at other
    cases other

end Step

/-! ## Whole calls -/

theorem exists_run_of_set?_eq_some (idle : p.stage thread = .idle)
    (stores : p.cell.set? value = some cell) :
    ∃ q, Run p [(thread, .publish value), (thread, .write value), (thread, .reserve value),
      (thread, .ask value)] q ∧ q.cell = cell := by
  obtain ⟨reserved, reserves, rfl⟩ := Option.map_eq_some_iff.mp stores
  have asked := Run.step .start (.ask thread value idle)
  have taken := asked.step (.reserve thread (Function.update_self ..) reserves)
  have wrote := taken.step (.write thread (Function.update_self ..))
  exact ⟨_, wrote.step (.publish thread (Function.update_self ..)), rfl⟩

theorem exists_run_of_set?_eq_none (idle : p.stage thread = .idle)
    (refuses : p.cell.set? value = none) :
    ∃ q, Run p [(thread, .handBack value), (thread, .ask value)] q ∧ q.cell = p.cell := by
  have asked := Run.step .start (.ask thread value idle)
  have fails : p.cell.reserve = none := Option.map_eq_none_iff.mp refuses
  exact ⟨_, asked.step (.handBack thread (Function.update_self ..) fails), rfl⟩

theorem exists_run_of_get?_eq_some (idle : p.stage thread = .idle)
    (found : p.cell.get? = some value) :
    ∃ q, Run p [(thread, .follow (some value)), (thread, .look true)] q ∧ q.cell = p.cell := by
  obtain ⟨isSet, isSlot⟩ : p.cell.state = .set ∧ p.cell.slot = some value := by
    rwa [get?, Option.ite_none_right_eq_some] at found
  have looked := Run.step .start (.find thread idle isSet)
  have followed := looked.step (.follow thread idle List.mem_cons_self)
  rw [isSlot] at followed
  exact ⟨_, followed, rfl⟩

/-! ## What is promised -/

/-- What threads are promised that race for a cell. -/
structure Settles (history : List (τ × Move α)) (p : Race τ α) : Prop where
  /-- The cell is changed by the three steps of a single call, in their order. -/
  one : changes history = [] ∨ ∃ winner value, changes history <:+
    [(winner, .publish value), (winner, .write value), (winner, .reserve value)]
  /-- At most one call stores its value. -/
  stored : history.countP (fun event => event.2.isPublish) ≤ 1
  /-- A call reserves the cell for the value that it was called with. -/
  reserved : ∀ later earlier thread value, history = later ++ (thread, .reserve value) :: earlier →
    lastOf thread earlier = some (.ask value)
  /-- A call hands back the value that it was called with, and only if another call has reserved
  the cell before. -/
  handedBack : ∀ later earlier thread value,
    history = later ++ (thread, .handBack value) :: earlier →
      lastOf thread earlier = some (.ask value) ∧
        ∃ winner other, (winner, .reserve other) ∈ earlier
  /-- A call that comes after another one has reserved the cell can go on, and it does so by
  handing its value back. -/
  returns : ∀ thread value, p.stage thread = .asking value →
    (∃ winner other, (winner, .reserve other) ∈ history) →
      Step p (thread, .handBack value)
          { p with stage := Function.update p.stage thread .idle } ∧
        ∀ move q, Step p (thread, move) q → move = .handBack value
  /-- All other steps leave the cell as it is, and only one of the three writes the slot. -/
  leaves : ∀ thread move q, Step p (thread, move) q →
    (move.isChange = false → q.cell = p.cell) ∧
      ((∀ value, move ≠ .write value) → q.cell.slot = p.cell.slot)
  /-- The value can be got once it has been published, and nothing can be got before. -/
  got : ∀ value, p.cell.get? = some value ↔ ∃ winner, (winner, .publish value) ∈ history
  /-- A thread that asks for the value learns that there is one if it has been published. -/
  looked : ∀ later earlier thread isSet, history = later ++ (thread, .look isSet) :: earlier →
    (isSet = true ↔ ∃ winner value, (winner, .publish value) ∈ earlier)
  /-- The slot is read after it has been written and published, and what is read is the value. -/
  followed : ∀ later earlier thread found, history = later ++ (thread, .follow found) :: earlier →
    ∃ winner value, found = some value ∧ (winner, .write value) ∈ earlier ∧
      (winner, .publish value) ∈ earlier
  /-- Setting the cell without a pause comes to the steps of a thread. -/
  sets : ∀ thread value, p.stage thread = .idle →
    (∀ cell, p.cell.set? value = some cell →
      ∃ q, Run p [(thread, .publish value), (thread, .write value), (thread, .reserve value),
        (thread, .ask value)] q ∧ q.cell = cell) ∧
    (p.cell.set? value = none →
      ∃ q, Run p [(thread, .handBack value), (thread, .ask value)] q ∧ q.cell = p.cell)
  /-- Getting the value without a pause comes to the steps of a thread. -/
  gets : ∀ thread, p.stage thread = .idle →
    (p.cell.get? = none → Step p (thread, .look false) p) ∧
    ∀ value, p.cell.get? = some value →
      ∃ q, Run p [(thread, .follow (some value)), (thread, .look true)] q ∧ q.cell = p.cell

/-- Whatever threads do that race for a cell, it takes one value for ever. -/
theorem settles_of_run (run : Run Race.fresh history p) : Settles history p := by
  have consistent := Consistent.of_run run
  constructor
  case one => exact consistent.phase.isSuffix
  case stored =>
    rw [← countP_isPublish_changes]
    exact consistent.phase.countP_isPublish_le
  case reserved =>
    rintro later earlier thread value rfl
    exact run.lastOf_of_reserve
  case handedBack =>
    rintro later earlier thread value rfl
    exact ⟨run.lastOf_of_handBack, run.exists_reserve_of_handBack⟩
  case returns =>
    intro thread value asks isReserved
    have fails := consistent.reserve_eq_none_iff.mpr isReserved
    exact ⟨.handBack thread asks fails, fun move q next => next.eq_handBack asks fails⟩
  case leaves =>
    intro thread move q next
    exact ⟨next.cell_eq, next.slot_eq⟩
  case got => exact fun value => consistent.get?_eq_some_iff
  case looked =>
    rintro later earlier thread isSet rfl
    exact run.isSet_iff_of_look
  case followed =>
    rintro later earlier thread found rfl
    exact run.exists_value_of_follow
  case sets =>
    intro thread value idle
    exact ⟨fun _ => exists_run_of_set?_eq_some idle, exists_run_of_set?_eq_none idle⟩
  case gets =>
    intro thread idle
    refine ⟨fun none => ?_, fun _ => exists_run_of_get?_eq_some idle⟩
    refine .miss thread idle fun isSet => ?_
    obtain ⟨winner, value, mem⟩ := consistent.state_eq_set_iff.mp isSet
    rw [consistent.get?_eq_some_iff.mpr ⟨winner, mem⟩] at none
    cases none

/-- Three threads race. The first one stores a number, the second one is handed its number back
twice, before the publication and after it, and the third one gets nothing twice before it gets
the number. -/
theorem settles_of_run_raced :
    let history : List (Nat × Move Nat) := [(2, .follow (some 7)), (1, .handBack 9), (1, .ask 9),
      (2, .look true), (0, .publish 7), (2, .look false), (0, .write 7), (1, .handBack 8),
      (0, .reserve 7), (2, .look false), (1, .ask 8), (0, .ask 7)]
    ∃ p, Run Race.fresh history p ∧ p.cell.get? = some 7 ∧ Settles history p := by
  intro history
  have first : Run Race.fresh [(0, .ask 7)] _ := .step .start (.ask 0 7 rfl)
  have asked := first.step (.ask 1 8 rfl)
  have reserved := (asked.step (.miss 2 rfl (by decide))).step (.reserve 0 rfl rfl)
  have written := (reserved.step (.handBack 1 rfl rfl)).step (.write 0 rfl)
  have published := (written.step (.miss 2 rfl (by decide))).step (.publish 0 rfl)
  have found := (published.step (.find 2 rfl rfl)).step (.ask 1 9 rfl)
  have run := (found.step (.handBack 1 rfl rfl)).step (.follow 2 rfl (by decide))
  exact ⟨_, run, rfl, settles_of_run run⟩

end PagedMemory.SetOnce
