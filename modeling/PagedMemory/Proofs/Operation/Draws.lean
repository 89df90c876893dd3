import PagedMemory.Proofs.Operation.Ends

/-!
# How many identities an operation draws

An upper bound on the block identities that an operation draws, from whichever
state it is run and however it ends. Bounds follow the combinators: those of a
sequence add up, and what is built around an operation draws what the operation
draws.
-/

namespace PagedMemory

namespace Operation

variable {ε ε' σ τ ρ α β : Type} {m n : Nat}

/-- The operation draws no more than `most` identities. -/
def DrawsAtMost (op : Operation ε σ α) (most : Nat) : Prop :=
  ∀ s, draws (op.run s).events ≤ most

/-- What a sequence draws that is run on one state. -/
theorem draws_bind_le {op : Operation ε σ α} {next : α → Operation ε σ β} {s : σ}
    (first : draws (op.run s).events ≤ m) (rest : ∀ a, (next a).DrawsAtMost n) :
    draws ((op >>= next).run s).events ≤ m + n := by
  rcases begun : op.run s with ⟨a | e | cause, t, shown⟩ <;> rw [begun] at first
  · rw [run_bind_of_value begun, draws_append]
    exact Nat.add_le_add first (rest a t)
  · rw [run_bind_of_error begun]
    exact Nat.le_trans first (Nat.le_add_right m n)
  · rw [run_bind_of_panic begun]
    exact Nat.le_trans first (Nat.le_add_right m n)

namespace DrawsAtMost

theorem mono {op : Operation ε σ α} (bound : op.DrawsAtMost m) (le : m ≤ n) : op.DrawsAtMost n :=
  fun s => Nat.le_trans (bound s) le

/-- What shows nothing draws nothing. -/
theorem silent {op : Operation ε σ α} (noEvents : ∀ s, (op.run s).events = []) :
    op.DrawsAtMost 0 := by
  intro s
  exact Nat.le_of_eq (congrArg draws (noEvents s))

/-- An operation that always shows what another one does has the other's bound. -/
theorem around {op : Operation ε σ α} {op' : Operation ε' τ β} (bound : op'.DrawsAtMost m)
    (same : ∀ s, ∃ t, (op.run s).events = (op'.run t).events) : op.DrawsAtMost m := by
  intro s
  obtain ⟨t, equal⟩ := same s
  rw [equal]
  exact bound t

theorem pure (a : α) : (Pure.pure a : Operation ε σ α).DrawsAtMost 0 :=
  silent fun _ => rfl

theorem fail (e : ε) : (fail e : Operation ε σ α).DrawsAtMost 0 :=
  silent fun _ => rfl

theorem abort (cause : Panic) : (abort cause : Operation ε σ α).DrawsAtMost 0 :=
  silent fun _ => rfl

theorem read (look : σ → α) : (read look : Operation ε σ α).DrawsAtMost 0 :=
  silent fun _ => rfl

theorem change (step : σ → σ) : (change step : Operation ε σ Unit).DrawsAtMost 0 :=
  silent fun _ => rfl

theorem log (level : LogLevel) (text : String) :
    (log level text : Operation ε σ Unit).DrawsAtMost 0 := by
  intro s
  simp [Operation.log, draws]

theorem require (condition : Bool) (cause : Panic) :
    (require condition cause : Operation ε σ Unit).DrawsAtMost 0 := by
  cases condition
  · exact abort cause
  · exact pure ()

/-! ## Combinators -/

theorem bind {op : Operation ε σ α} {next : α → Operation ε σ β} (first : op.DrawsAtMost m)
    (rest : ∀ a, (next a).DrawsAtMost n) : (op >>= next).DrawsAtMost (m + n) :=
  fun s => draws_bind_le (first s) rest

/-- A first part that draws nothing does not count. -/
theorem andThen {op : Operation ε σ α} {next : α → Operation ε σ β} (first : op.DrawsAtMost 0)
    (rest : ∀ a, (next a).DrawsAtMost n) : (op >>= next).DrawsAtMost n :=
  (first.bind rest).mono (Nat.le_of_eq (Nat.zero_add n))

/-- A loop draws in each turn. -/
theorem forM {body : β → Operation ε σ Unit} (bound : ∀ b, (body b).DrawsAtMost n)
    (todo : List β) : (todo.forM body).DrawsAtMost (todo.length * n) := by
  induction todo with
  | nil => exact (pure ()).mono (Nat.zero_le _)
  | cons b todo ih =>
    refine ((bound b).bind fun _ => ih).mono (Nat.le_of_eq ?_)
    rw [List.length_cons, Nat.succ_mul, Nat.add_comm]

theorem mapError {rename : ε → ε'} {op : Operation ε σ α} (bound : op.DrawsAtMost m) :
    (op.mapError rename).DrawsAtMost m := by
  refine bound.around fun s => ⟨s, ?_⟩
  simp only [Operation.mapError, run]
  rcases op s with ⟨_ | _ | _, t, shown⟩ <;> rfl

theorem attempt {op : Operation ε σ α} (bound : op.DrawsAtMost m) :
    (op.attempt : Operation ε' σ (Except ε α)).DrawsAtMost m := by
  refine bound.around fun s => ⟨s, ?_⟩
  simp only [Operation.attempt, run]
  rcases op s with ⟨_ | _ | _, t, shown⟩ <;> rfl

theorem ensuring {op : Operation ε σ α} {cleanup : Operation Empty σ Unit}
    (bound : op.DrawsAtMost m) (boundCleanup : cleanup.DrawsAtMost n) :
    (op.ensuring cleanup).DrawsAtMost (m + n) := by
  intro s
  have few := bound s
  simp only [run, Operation.ensuring] at few ⊢
  generalize op s = outcome at few ⊢
  rcases outcome with ⟨result, t, shown⟩
  have fewCleanup := boundCleanup t
  simp only [run] at fewCleanup ⊢
  generalize cleanup t = cleaned at fewCleanup ⊢
  rcases cleaned with ⟨_ | e | cause, u, more⟩
  · rw [draws_append]
    exact Nat.add_le_add few fewCleanup
  · cases e
  · cases result <;> rw [draws_append] <;> exact Nat.add_le_add few fewCleanup

theorem onPart {split : τ → σ × ρ} {join : σ → ρ → τ} {op : Operation ε σ α}
    (bound : op.DrawsAtMost m) : (op.onPart split join).DrawsAtMost m := by
  refine bound.around fun s => ⟨(split s).1, ?_⟩
  simp only [Operation.onPart, run]

end DrawsAtMost

end Operation

end PagedMemory
