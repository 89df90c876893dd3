import PagedMemory.Operation.Lemmas

/-!
# What an operation keeps to

A regime says on which states an operation may be run, what it may show on the way and how
it may panic. It keeps to the regime if it leaves such a state, whether it returns, reports
an error or panics, and shows nothing else. What may be shown is said of all events
together and carries over from two runs to one after the other, so a sequence keeps to a
regime if its parts do. A section that is entered and left keeps to one regime on the
outside and to another one inside. Where events are to follow one another as something that
is kept account of admits them, a discipline says so, and what leads back to where it began
may be shown under a regime.
-/

namespace PagedMemory

/-- What is asked of an operation in the states that it may be run on. -/
structure Regime (σ : Type) where
  /-- The states that it may be run on and leaves. -/
  state : σ → Prop
  /-- What it may show. -/
  shows : List Event → Prop
  /-- How it may panic. -/
  panics : Panic → Prop
  shows_nil : shows []
  shows_append : ∀ {first more : List Event}, shows first → shows more → shows (first ++ more)

/-- Whether an outcome is one that a regime allows. -/
structure Outcome.KeepsTo {ε σ α : Type} (outcome : Outcome ε σ α) (regime : Regime σ) : Prop where
  state : regime.state outcome.state
  shows : regime.shows outcome.events
  panics : ∀ cause, outcome.result = .panic cause → regime.panics cause

namespace Operation

variable {ε ε' σ α β : Type} {regime inner : Regime σ}

/-- The operation keeps to a regime, on whatever state it may be run. -/
def KeepsTo (op : Operation ε σ α) (regime : Regime σ) : Prop :=
  ∀ s, regime.state s → (op.run s).KeepsTo regime

namespace KeepsTo

theorem pure (a : α) : (Pure.pure a : Operation ε σ α).KeepsTo regime :=
  fun _ allowed => ⟨allowed, regime.shows_nil, nofun⟩

theorem fail (e : ε) : (fail e : Operation ε σ α).KeepsTo regime :=
  fun _ allowed => ⟨allowed, regime.shows_nil, nofun⟩

theorem read (look : σ → α) : (read look : Operation ε σ α).KeepsTo regime :=
  fun _ allowed => ⟨allowed, regime.shows_nil, nofun⟩

theorem change {step : σ → σ} (kept : ∀ s, regime.state s → regime.state (step s)) :
    (change step : Operation ε σ Unit).KeepsTo regime :=
  fun s allowed => ⟨kept s allowed, regime.shows_nil, nofun⟩

theorem emit {event : Event} (shown : regime.shows [event]) :
    (emit event : Operation ε σ Unit).KeepsTo regime :=
  fun _ allowed => ⟨allowed, shown, nofun⟩

theorem abort {cause : Panic} (allowed : regime.panics cause) :
    (abort cause : Operation ε σ α).KeepsTo regime := by
  refine fun _ start => ⟨start, regime.shows_nil, ?_⟩
  rintro _ ⟨⟩
  exact allowed

theorem require {condition : Bool} {cause : Panic} (allowed : regime.panics cause) :
    (require condition cause : Operation ε σ Unit).KeepsTo regime := by
  cases condition
  · exact abort allowed
  · exact pure ()

theorem ofExcept {result : Except Panic α}
    (allowed : ∀ cause, result = .error cause → regime.panics cause) :
    (ofExcept result : Operation ε σ α).KeepsTo regime := by
  cases result with
  | ok a => exact pure a
  | error cause => exact abort (allowed cause rfl)

/-! ## Combinators -/

theorem bind {op : Operation ε σ α} {next : α → Operation ε σ β} (first : op.KeepsTo regime)
    (rest : ∀ a, (next a).KeepsTo regime) : (op >>= next).KeepsTo regime := by
  intro s allowed
  have begun := first s allowed
  rcases ran : op.run s with ⟨a | e | cause, t, shown⟩ <;> rw [ran] at begun
  · have ended := rest a t begun.state
    rw [run_bind_of_value ran]
    exact ⟨ended.state, regime.shows_append begun.shows ended.shows, ended.panics⟩
  · rw [run_bind_of_error ran]
    exact ⟨begun.state, begun.shows, nofun⟩
  · rw [run_bind_of_panic ran]
    refine ⟨begun.state, begun.shows, ?_⟩
    rintro _ ⟨⟩
    exact begun.panics cause rfl

theorem attempt {op : Operation ε σ α} (kept : op.KeepsTo regime) :
    (op.attempt : Operation ε' σ (Except ε α)).KeepsTo regime := by
  intro s allowed
  have done := kept s allowed
  unfold run Operation.attempt
  unfold run at done
  rcases ran : op s with ⟨a | e | cause, t, shown⟩ <;> rw [ran] at done
  · exact ⟨done.state, done.shows, nofun⟩
  · exact ⟨done.state, done.shows, nofun⟩
  · refine ⟨done.state, done.shows, ?_⟩
    rintro _ ⟨⟩
    exact done.panics cause rfl

theorem forM {body : β → Operation ε σ Unit} (kept : ∀ b, (body b).KeepsTo regime)
    (todo : List β) : (todo.forM body).KeepsTo regime := by
  induction todo with
  | nil => exact pure ()
  | cons b todo ih => exact (kept b).bind fun _ => ih

/-- The rule for a section. What its body shows stands between what entering and leaving it
show, and the section is left in the same way however the body ends. -/
theorem enclosed {enter : Operation ε σ β} {body : Operation ε σ α}
    {leave : β → Operation Empty σ Unit} (kept : body.KeepsTo inner)
    (enters : ∀ s, regime.state s → ∃ b t opened closed, enter.run s = ⟨.value b, t, opened⟩ ∧
      inner.state t ∧
      (∀ u, inner.state u → ∃ v, (leave b).run u = ⟨.value (), v, closed⟩ ∧ regime.state v) ∧
      ∀ shown, inner.shows shown → regime.shows (opened ++ (shown ++ closed)))
    (panics : ∀ cause, inner.panics cause → regime.panics cause) :
    (enter >>= fun b => body.ensuring (leave b)).KeepsTo regime := by
  intro s allowed
  obtain ⟨b, t, opened, closed, entered, inside, leaves, shows⟩ := enters s allowed
  have done := kept t inside
  rcases ran : body.run t with ⟨result, u, shown⟩
  rw [ran] at done
  obtain ⟨v, left, outside⟩ := leaves u done.state
  have whole : (body.ensuring (leave b)).run t = ⟨result, v, shown ++ closed⟩ := by
    simp only [run, Operation.ensuring] at ran left ⊢
    rw [ran]
    simp only [left]
  rw [run_bind_of_value entered, whole]
  exact ⟨outside, shows shown done.shows, fun cause ended => panics cause (done.panics cause ended)⟩

end KeepsTo

end Operation

/-! ## Disciplines -/

/-- An account that is kept of events, and the events that it admits. -/
structure Discipline (S : Type) where
  admits : S → Event → Prop
  next : S → Event → S

namespace Discipline

variable {S : Type} (discipline : Discipline S) {s : S} {first more before rest : List Event}
  {event : Event}

/-- The account after some events. -/
def after (s : S) (events : List Event) : S :=
  events.foldl discipline.next s

/-- Each event is admitted by the account of those before it. -/
def Obeyed : S → List Event → Prop
  | _, [] => True
  | s, event :: rest => discipline.admits s event ∧ Obeyed (discipline.next s event) rest

theorem after_append :
    discipline.after s (first ++ more) = discipline.after (discipline.after s first) more :=
  List.foldl_append

variable {discipline}

theorem obeyed_append : discipline.Obeyed s (first ++ more) ↔
    discipline.Obeyed s first ∧ discipline.Obeyed (discipline.after s first) more := by
  induction first generalizing s with
  | nil => exact ⟨fun obeyed => ⟨trivial, obeyed⟩, And.right⟩
  | cons event rest ih =>
    rw [List.cons_append, Obeyed, Obeyed, ih, and_assoc]
    rfl

theorem Obeyed.admits (obeyed : discipline.Obeyed s (before ++ event :: rest)) :
    discipline.admits (discipline.after s before) event :=
  (obeyed_append.mp obeyed).2.1

/-- What each admitted event keeps true of the account is true after all of them. -/
theorem Obeyed.keeps {holds : S → Prop}
    (kept : ∀ s event, holds s → discipline.admits s event → holds (discipline.next s event))
    (obeyed : discipline.Obeyed s first) (start : holds s) :
    holds (discipline.after s first) := by
  induction first generalizing s with
  | nil => exact start
  | cons event rest ih => exact ih obeyed.2 (kept s event start obeyed.1)

variable (discipline)

/-- The events obey the discipline and lead back to the account before them. -/
structure Closes (s : S) (events : List Event) : Prop where
  obeyed : discipline.Obeyed s events
  back : discipline.after s events = s

variable {discipline}

theorem closes_nil : discipline.Closes s [] :=
  ⟨trivial, rfl⟩

theorem Closes.append (begun : discipline.Closes s first) (ended : discipline.Closes s more) :
    discipline.Closes s (first ++ more) where
  obeyed := by
    rw [obeyed_append, begun.back]
    exact ⟨begun.obeyed, ended.obeyed⟩
  back := by rw [after_append, begun.back, ended.back]

/-- An event that the account does not take notice of. -/
theorem closes_single (admits : discipline.admits s event) (kept : discipline.next s event = s) :
    discipline.Closes s [event] :=
  ⟨⟨admits, trivial⟩, kept⟩

/-- What is shown inside a section stands between two events, of which the second one undoes
what the first one does to the account. -/
theorem Closes.enclosed {opening closing : Event} {shown : List Event}
    (inside : discipline.Closes (discipline.next s opening) shown)
    (opens : discipline.admits s opening)
    (closes : discipline.admits (discipline.next s opening) closing)
    (back : discipline.next (discipline.next s opening) closing = s) :
    discipline.Closes s (opening :: (shown ++ [closing])) where
  obeyed := by
    refine ⟨opens, obeyed_append.mpr ⟨inside.obeyed, ?_⟩⟩
    rw [inside.back]
    exact ⟨closes, trivial⟩
  back := by
    change discipline.after (discipline.next s opening) (shown ++ [closing]) = s
    rw [after_append, inside.back]
    exact back

end Discipline

end PagedMemory
