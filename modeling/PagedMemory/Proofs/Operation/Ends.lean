import PagedMemory.Operation.Lemmas
import PagedMemory.Space.Memory

/-!
# What an operation ends in

A postcondition asks one thing of each of the three ways in which an operation
can end. `Ends` says that an operation, run on a state, ends as it is asked to.
It also carries a budget: how many block identities may still be drawn. What an
operation has drawn is read off its events, and the postcondition receives what
is left, so a sequence passes its first part's remainder on to the second.
Nothing is asked of an operation that draws more than it may.

The rules follow the combinators of operations: `ends_bind` for sequences,
`ends_attempt` and `ends_mapError` for errors, `ends_onPart` and its relatives
for parts of a state, and `Ends.forM` for loops with an invariant.
-/

namespace PagedMemory

/-- How many block identities were drawn while some events were shown. -/
def draws (events : List Event) : Nat :=
  events.count (.acquired .identity)

@[simp]
theorem draws_nil : draws [] = 0 :=
  rfl

@[simp]
theorem draws_append (first more : List Event) :
    draws (first ++ more) = draws first + draws more :=
  List.count_append

/-- What is asked of an operation, for each way in which it may end. A value and
an error are judged together with the state reached and with the number of
identities left to draw. -/
structure Post (ε σ α : Type) where
  value : α → σ → Nat → Prop
  error : ε → σ → Nat → Prop
  panic : Panic → σ → Prop

/-- Whether an outcome is as asked for, if `left` identities could be drawn. -/
def Outcome.Meets {ε σ α : Type} (outcome : Outcome ε σ α) (left : Nat) (post : Post ε σ α) :
    Prop :=
  draws outcome.events ≤ left →
    match outcome.result with
    | .value a => post.value a outcome.state (left - draws outcome.events)
    | .error e => post.error e outcome.state (left - draws outcome.events)
    | .panic cause => post.panic cause outcome.state

namespace Operation

variable {ε ε' σ τ ρ α β : Type}

/-- The operation ends as asked for when it is run on `s` and may draw `left`
identities. -/
def Ends (op : Operation ε σ α) (left : Nat) (s : σ) (post : Post ε σ α) : Prop :=
  (op.run s).Meets left post

/-! ## Leaving the logic -/

theorem Ends.of_value {op : Operation ε σ α} {left : Nat} {s t : σ} {post : Post ε σ α} {a : α}
    {shown : List Event} (ends : op.Ends left s post) (run : op.run s = ⟨.value a, t, shown⟩)
    (few : draws shown ≤ left) : post.value a t (left - draws shown) := by
  unfold Ends at ends
  rw [run] at ends
  exact ends few

theorem Ends.of_error {op : Operation ε σ α} {left : Nat} {s t : σ} {post : Post ε σ α} {e : ε}
    {shown : List Event} (ends : op.Ends left s post) (run : op.run s = ⟨.error e, t, shown⟩)
    (few : draws shown ≤ left) : post.error e t (left - draws shown) := by
  unfold Ends at ends
  rw [run] at ends
  exact ends few

theorem Ends.of_panic {op : Operation ε σ α} {left : Nat} {s t : σ} {post : Post ε σ α}
    {cause : Panic} {shown : List Event} (ends : op.Ends left s post)
    (run : op.run s = ⟨.panic cause, t, shown⟩) (few : draws shown ≤ left) :
    post.panic cause t := by
  unfold Ends at ends
  rw [run] at ends
  exact ends few

/-- What holds of the state however an operation ends, holds of its state. -/
theorem state_of_ends {op : Operation ε σ α} {s : σ} {holds : σ → Prop}
    (ends : ∀ left, op.Ends left s ⟨fun _ t _ => holds t, fun _ t _ => holds t, fun _ => holds⟩) :
    holds (op.run s).state := by
  have met := ends (draws (op.run s).events) (Nat.le_refl _)
  generalize op.run s = outcome at met ⊢
  rcases outcome with ⟨_ | _ | _, t, shown⟩ <;> exact met

/-- What holds of the state unless an operation panics, holds of its state if it does not. -/
theorem state_of_goesOn {op : Operation ε σ α} {s : σ} {holds : σ → Prop}
    (ends : ∀ left, op.Ends left s
      ⟨fun _ t _ => holds t, fun _ t _ => holds t, fun _ _ => True⟩)
    (goesOn : ∀ cause, (op.run s).result ≠ .panic cause) : holds (op.run s).state := by
  have met := ends (draws (op.run s).events) (Nat.le_refl _)
  generalize op.run s = outcome at met goesOn ⊢
  rcases outcome with ⟨_ | _ | cause, t, shown⟩
  · exact met
  · exact met
  · exact absurd rfl (goesOn cause)

/-- An operation that neither reports an error nor panics returns. -/
theorem Ends.exists_value {op : Operation ε σ α} {left : Nat} {s : σ} {holds : α → σ → Nat → Prop}
    (ends : op.Ends left s ⟨holds, fun _ _ _ => False, fun _ _ => False⟩)
    (few : draws (op.run s).events ≤ left) :
    ∃ a t shown, op.run s = ⟨.value a, t, shown⟩ ∧ holds a t (left - draws shown) := by
  have met := ends few
  generalize op.run s = outcome at met ⊢
  rcases outcome with ⟨a | _ | _, t, shown⟩
  · exact ⟨a, t, shown, rfl, met⟩
  · exact met.elim
  · exact met.elim

/-- An operation that returns, whatever it may draw. -/
theorem exists_value_of_ends {op : Operation ε σ α} {s : σ} {holds : α → σ → Prop}
    (ends : ∀ left, op.Ends left s
      ⟨fun a t _ => holds a t, fun _ _ _ => False, fun _ _ => False⟩) :
    ∃ a t shown, op.run s = ⟨.value a, t, shown⟩ ∧ holds a t :=
  (ends _).exists_value (Nat.le_refl _)

/-- An operation that returns, whatever it may draw, and draws `most` at most. -/
theorem exists_run_of_ends {op : Operation ε σ α} {s : σ} {holds : α → σ → Prop} {most : Nat}
    (ends : ∀ left, op.Ends left s
      ⟨fun a t left' => left ≤ left' + most ∧ holds a t, fun _ _ _ => False, fun _ _ => False⟩) :
    ∃ a t shown, op.run s = ⟨.value a, t, shown⟩ ∧ draws shown ≤ most ∧ holds a t := by
  obtain ⟨a, t, shown, run, few, held⟩ := (ends _).exists_value (Nat.le_refl _)
  rw [run, Nat.sub_self, Nat.zero_add] at few
  exact ⟨a, t, shown, run, few, held⟩

/-- An operation that neither returns nor panics reports an error. -/
theorem Ends.exists_error {op : Operation ε σ α} {left : Nat} {s : σ} {holds : ε → σ → Nat → Prop}
    (ends : op.Ends left s ⟨fun _ _ _ => False, holds, fun _ _ => False⟩)
    (few : draws (op.run s).events ≤ left) :
    ∃ e t shown, op.run s = ⟨.error e, t, shown⟩ ∧ holds e t (left - draws shown) := by
  have met := ends few
  generalize op.run s = outcome at met ⊢
  rcases outcome with ⟨_ | e | _, t, shown⟩
  · exact met.elim
  · exact ⟨e, t, shown, rfl, met⟩
  · exact met.elim

/-- An operation that neither returns nor reports an error panics. -/
theorem Ends.exists_panic {op : Operation ε σ α} {left : Nat} {s : σ} {holds : Panic → σ → Prop}
    (ends : op.Ends left s ⟨fun _ _ _ => False, fun _ _ _ => False, holds⟩)
    (few : draws (op.run s).events ≤ left) :
    ∃ cause t shown, op.run s = ⟨.panic cause, t, shown⟩ ∧ holds cause t := by
  have met := ends few
  generalize op.run s = outcome at met ⊢
  rcases outcome with ⟨_ | _ | cause, t, shown⟩
  · exact met.elim
  · exact met.elim
  · exact ⟨cause, t, shown, rfl, met⟩

/-- An operation that panics, whatever it may draw. -/
theorem exists_panic_of_ends {op : Operation ε σ α} {s : σ} {holds : Panic → σ → Prop}
    (ends : ∀ left, op.Ends left s ⟨fun _ _ _ => False, fun _ _ _ => False, holds⟩) :
    ∃ cause t shown, op.run s = ⟨.panic cause, t, shown⟩ ∧ holds cause t :=
  (ends _).exists_panic (Nat.le_refl _)

/-- What is said of an operation whose run is known. -/
theorem Ends.of_run {op : Operation ε σ α} {left : Nat} {s t : σ} {post : Post ε σ α} {a : α}
    {shown : List Event} (run : op.run s = ⟨.value a, t, shown⟩)
    (holds : draws shown ≤ left → post.value a t (left - draws shown)) : op.Ends left s post := by
  unfold Ends
  rw [run]
  exact holds

/-! ## Elementary operations -/

theorem ends_of_run_value {op : Operation ε σ α} {left : Nat} {s t : σ} {post : Post ε σ α} {a : α}
    (run : op.run s = ⟨.value a, t, []⟩) : op.Ends left s post ↔ post.value a t left := by
  simp [Ends, Outcome.Meets, run]

@[simp]
theorem ends_pure {a : α} {left : Nat} {s : σ} {post : Post ε σ α} :
    (pure a : Operation ε σ α).Ends left s post ↔ post.value a s left := by
  exact ends_of_run_value (run_pure a s)

@[simp]
theorem ends_fail {e : ε} {left : Nat} {s : σ} {post : Post ε σ α} :
    (fail e : Operation ε σ α).Ends left s post ↔ post.error e s left := by
  simp [Ends, Outcome.Meets]

@[simp]
theorem ends_abort {cause : Panic} {left : Nat} {s : σ} {post : Post ε σ α} :
    (abort cause : Operation ε σ α).Ends left s post ↔ post.panic cause s := by
  simp [Ends, Outcome.Meets]

@[simp]
theorem ends_read {look : σ → α} {left : Nat} {s : σ} {post : Post ε σ α} :
    (read look : Operation ε σ α).Ends left s post ↔ post.value (look s) s left := by
  exact ends_of_run_value (run_read look s)

@[simp]
theorem ends_change {step : σ → σ} {left : Nat} {s : σ} {post : Post ε σ Unit} :
    (change step : Operation ε σ Unit).Ends left s post ↔ post.value () (step s) left := by
  exact ends_of_run_value (run_change step s)

/-- Log records draw no identity. -/
@[simp]
theorem ends_log {level : LogLevel} {text : String} {left : Nat} {s : σ} {post : Post ε σ Unit} :
    (log level text : Operation ε σ Unit).Ends left s post ↔ post.value () s left := by
  have none : draws [.logged level text] = 0 := by
    simp [draws]
  simp [Ends, Outcome.Meets, log, none]

@[simp]
theorem ends_require {condition : Bool} {cause : Panic} {left : Nat} {s : σ}
    {post : Post ε σ Unit} :
    (require condition cause : Operation ε σ Unit).Ends left s post ↔
      if condition then post.value () s left else post.panic cause s := by
  cases condition
  · exact ends_abort
  · exact ends_pure

theorem ends_ofExcept {result : Except Panic α} {left : Nat} {s : σ} {post : Post ε σ α} :
    (ofExcept result : Operation ε σ α).Ends left s post ↔
      match result with
      | .ok a => post.value a s left
      | .error cause => post.panic cause s := by
  cases result
  · exact ends_abort
  · exact ends_pure

/-! ## Sequences -/

theorem ends_bind {op : Operation ε σ α} {next : α → Operation ε σ β} {left : Nat} {s : σ}
    {post : Post ε σ β} :
    (op >>= next).Ends left s post ↔
      op.Ends left s ⟨fun a t left => (next a).Ends left t post, post.error, post.panic⟩ := by
  rcases begun : op.run s with ⟨a | e | cause, t, first⟩
  · rcases ended : (next a).run t with ⟨result, u, more⟩
    have whole : (op >>= next).run s = _ := run_bind_of_value begun
    rw [ended] at whole
    simp only [Ends, Outcome.Meets, whole, begun, ended, draws_append]
    constructor
    · intro meets fewFirst fewMore
      rw [Nat.sub_sub]
      exact meets (by omega)
    · intro meets few
      rw [← Nat.sub_sub]
      exact meets (by omega) (by omega)
  · simp only [Ends, Outcome.Meets, run_bind_of_error begun, begun]
  · simp only [Ends, Outcome.Meets, run_bind_of_panic begun, begun]

/-- A stronger postcondition gives a weaker one. -/
theorem Ends.mono {op : Operation ε σ α} {left : Nat} {s : σ} {post post' : Post ε σ α}
    (ends : op.Ends left s post)
    (value : ∀ a t left, post.value a t left → post'.value a t left)
    (error : ∀ e t left, post.error e t left → post'.error e t left)
    (panic : ∀ cause t, post.panic cause t → post'.panic cause t) :
    op.Ends left s post' := by
  unfold Ends at ends ⊢
  generalize op.run s = outcome at ends ⊢
  rcases outcome with ⟨a | e | cause, t, shown⟩
  · exact fun few => value a t _ (ends few)
  · exact fun few => error e t _ (ends few)
  · exact fun few => panic cause t (ends few)

/-- The rule for sequences, from what is known about the first part. -/
theorem Ends.bind {op : Operation ε σ α} {next : α → Operation ε σ β} {left : Nat} {s : σ}
    {post : Post ε σ β} {middle : Post ε σ α} (first : op.Ends left s middle)
    (value : ∀ a t left, middle.value a t left → (next a).Ends left t post)
    (error : ∀ e t left, middle.error e t left → post.error e t left)
    (panic : ∀ cause t, middle.panic cause t → post.panic cause t) :
    (op >>= next).Ends left s post :=
  ends_bind.mpr (first.mono value error panic)

/-! ## Errors -/

theorem ends_mapError {rename : ε → ε'} {op : Operation ε σ α} {left : Nat} {s : σ}
    {post : Post ε' σ α} :
    (op.mapError rename).Ends left s post ↔
      op.Ends left s ⟨post.value, fun e => post.error (rename e), post.panic⟩ := by
  simp only [Ends, mapError, run]
  rcases op s with ⟨a | e | cause, t, shown⟩ <;> rfl

theorem ends_attempt {op : Operation ε σ α} {left : Nat} {s : σ}
    {post : Post ε' σ (Except ε α)} :
    (op.attempt : Operation ε' σ (Except ε α)).Ends left s post ↔
      op.Ends left s
        ⟨fun a => post.value (.ok a), fun e => post.value (.error e), post.panic⟩ := by
  simp only [Ends, attempt, run]
  rcases op s with ⟨a | e | cause, t, shown⟩ <;> rfl

/-- The rule for a cleanup, which runs in whatever state the operation leaves. -/
theorem Ends.ensuring {op : Operation ε σ α} {cleanup : Operation Empty σ Unit} {left : Nat}
    {s : σ} {post : Post ε σ α}
    (ends : op.Ends left s
      ⟨fun a t left => cleanup.Ends left t ⟨fun _ => post.value a, nofun, post.panic⟩,
        fun e t left => cleanup.Ends left t ⟨fun _ => post.error e, nofun, post.panic⟩,
        fun cause t => ∀ left, cleanup.Ends left t
          ⟨fun _ u _ => post.panic cause u, nofun, fun _ => post.panic cause⟩⟩) :
    (op.ensuring cleanup).Ends left s post := by
  simp only [Ends, Operation.run, Operation.ensuring, Outcome.Meets] at ends ⊢
  generalize op s = outcome at ends ⊢
  rcases outcome with ⟨result, t, shown⟩
  simp only at ends ⊢
  rcases cleaned : cleanup t with ⟨⟨⟩ | e | cause, u, more⟩
  · cases result with
    | panic cause =>
      simp only [cleaned, draws_append] at ends ⊢
      exact fun few => ends (by omega) (left - draws shown) (by omega)
    | _ =>
      simp only [cleaned, draws_append, ← Nat.sub_sub] at ends ⊢
      exact fun few => ends (by omega) (by omega)
  · cases e
  · cases result with
    | panic cause =>
      simp only [cleaned, draws_append] at ends ⊢
      exact fun few => ends (by omega) (left - draws shown) (by omega)
    | _ =>
      simp only [cleaned, draws_append] at ends ⊢
      exact fun few => ends (by omega) (by omega)

/-! ## Parts of a state -/

theorem ends_onPart {split : τ → σ × ρ} {join : σ → ρ → τ} {op : Operation ε σ α} {left : Nat}
    {s : τ} {post : Post ε τ α} :
    (op.onPart split join).Ends left s post ↔
      op.Ends left (split s).1
        ⟨fun a t => post.value a (join t (split s).2),
          fun e t => post.error e (join t (split s).2),
          fun cause t => post.panic cause (join t (split s).2)⟩ := by
  simp only [Ends, onPart, run]
  rcases split s with ⟨part, rest⟩
  rcases op part with ⟨a | e | cause, t, shown⟩ <;> rfl

/-! ## Loops -/

/-- A loop over a list keeps an invariant of what is still to be done. -/
theorem Ends.forM {body : β → Operation ε σ Unit} {post : Post ε σ Unit}
    (invariant : List β → σ → Nat → Prop)
    (step : ∀ b todo s left, invariant (b :: todo) s left →
      (body b).Ends left s ⟨fun _ t left' => invariant todo t left', post.error, post.panic⟩)
    (finish : ∀ s left, invariant [] s left → post.value () s left)
    {todo : List β} {left : Nat} {s : σ} (start : invariant todo s left) :
    (todo.forM body).Ends left s post := by
  induction todo generalizing s left with
  | nil => exact ends_pure.mpr (finish s left start)
  | cons b todo ih =>
    refine Ends.bind (step b todo s left start) ?_ (fun _ _ _ => id) (fun _ _ => id)
    intro _ t left kept
    exact ih kept

end Operation

/-! ## Memory and spaces under construction -/

namespace Memory

variable {ε σ α : Type}

theorem ends_onRam {op : Operation ε Ram α} {left : Nat} {memory : Memory σ}
    {post : Post ε (Memory σ) α} :
    (onRam op).Ends left memory post ↔
      op.Ends left memory.ram
        ⟨fun a ram => post.value a { memory with ram := ram },
          fun e ram => post.error e { memory with ram := ram },
          fun cause ram => post.panic cause { memory with ram := ram }⟩ :=
  Operation.ends_onPart

theorem ends_onFrames {op : Operation ε σ α} {left : Nat} {memory : Memory σ}
    {post : Post ε (Memory σ) α} :
    (onFrames op).Ends left memory post ↔
      op.Ends left memory.frames
        ⟨fun a frames => post.value a { memory with frames := frames },
          fun e frames => post.error e { memory with frames := frames },
          fun cause frames => post.panic cause { memory with frames := frames }⟩ :=
  Operation.ends_onPart

end Memory

namespace Building

variable {ε ε' σ α : Type}

theorem ends_inMemory {op : AddressSpace → Operation ε (Memory σ) α} {left : Nat}
    {building : Building σ} {post : Post ε (Building σ) α} :
    (inMemory op).Ends left building post ↔
      (op building.space).Ends left building.memory
        ⟨fun a memory => post.value a { building with memory := memory },
          fun e memory => post.error e { building with memory := memory },
          fun cause memory => post.panic cause { building with memory := memory }⟩ := by
  rcases building with ⟨memory, space⟩
  simp only [Operation.Ends, inMemory, Operation.run]
  rcases op space memory with ⟨a | e | cause, t, shown⟩ <;> rfl

theorem ends_around {space : AddressSpace} {op : Operation ε (Building σ) α} {left : Nat}
    {memory : Memory σ} {post : Post ε' (Memory σ) (Except ε α × AddressSpace)} :
    (around space op : Operation ε' (Memory σ) _).Ends left memory post ↔
      op.Ends left ⟨memory, space⟩
        ⟨fun a building => post.value (.ok a, building.space) building.memory,
          fun e building => post.value (.error e, building.space) building.memory,
          fun cause building => post.panic cause building.memory⟩ := by
  simp only [Operation.Ends, around, Operation.run]
  rcases op ⟨memory, space⟩ with ⟨a | e | cause, ⟨t, space'⟩, shown⟩ <;> rfl

end Building

end PagedMemory
