import PagedMemory.Operation

/-!
# Laws of operations

Sequencing is associative and returning a value is its unit, so operations may
be regrouped freely. A sequence returns a value exactly when both of its parts
do, and it then shows what the first part showed, followed by what the second
showed.
-/

namespace PagedMemory.Operation

variable {ε σ α β γ : Type}

/-! ## Running elementary operations -/

@[simp]
theorem run_pure (a : α) (s : σ) :
    (pure a : Operation ε σ α).run s = ⟨.value a, s, []⟩ :=
  rfl

@[simp]
theorem run_fail (e : ε) (s : σ) : (fail e : Operation ε σ α).run s = ⟨.error e, s, []⟩ :=
  rfl

@[simp]
theorem run_abort (cause : Panic) (s : σ) :
    (abort cause : Operation ε σ α).run s = ⟨.panic cause, s, []⟩ :=
  rfl

@[simp]
theorem run_read (look : σ → α) (s : σ) :
    (read look : Operation ε σ α).run s = ⟨.value (look s), s, []⟩ :=
  rfl

@[simp]
theorem run_change (step : σ → σ) (s : σ) :
    (change step : Operation ε σ Unit).run s = ⟨.value (), step s, []⟩ :=
  rfl

@[simp]
theorem run_emit (event : Event) (s : σ) :
    (emit event : Operation ε σ Unit).run s = ⟨.value (), s, [event]⟩ :=
  rfl

theorem run_log (level : LogLevel) (text : String) (s : σ) :
    (log level text : Operation ε σ Unit).run s = ⟨.value (), s, [.logged level text]⟩ :=
  rfl

theorem run_eq_of_result_of_state {op : Operation ε σ α} {s t : σ} {result : Result ε α}
    (ended : (op.run s).result = result) (reached : (op.run s).state = t) :
    op.run s = ⟨result, t, (op.run s).events⟩ := by
  rw [← ended, ← reached]

/-! ## Sequences -/

theorem run_bind_of_value {op : Operation ε σ α} {next : α → Operation ε σ β} {s t : σ} {a : α}
    {shown : List Event} (first : op.run s = ⟨.value a, t, shown⟩) :
    (op >>= next).run s =
      ⟨((next a).run t).result, ((next a).run t).state, shown ++ ((next a).run t).events⟩ := by
  change Operation.bind op next s = _
  unfold run at first
  rw [Operation.bind, first]
  rfl

theorem run_bind_of_error {op : Operation ε σ α} {next : α → Operation ε σ β} {s t : σ} {e : ε}
    {shown : List Event} (first : op.run s = ⟨.error e, t, shown⟩) :
    (op >>= next).run s = ⟨.error e, t, shown⟩ := by
  change Operation.bind op next s = _
  unfold run at first
  rw [Operation.bind, first]

theorem run_bind_of_panic {op : Operation ε σ α} {next : α → Operation ε σ β} {s t : σ}
    {cause : Panic} {shown : List Event} (first : op.run s = ⟨.panic cause, t, shown⟩) :
    (op >>= next).run s = ⟨.panic cause, t, shown⟩ := by
  change Operation.bind op next s = _
  unfold run at first
  rw [Operation.bind, first]

/-- A sequence returns exactly when its first part returns and the second part
returns on the value and in the state of the first. -/
theorem run_bind_eq_value_iff {op : Operation ε σ α} {next : α → Operation ε σ β} {s u : σ}
    {b : β} {shown : List Event} :
    (op >>= next).run s = ⟨.value b, u, shown⟩ ↔
      ∃ a t first more, op.run s = ⟨.value a, t, first⟩ ∧
        (next a).run t = ⟨.value b, u, more⟩ ∧ shown = first ++ more := by
  constructor
  · intro whole
    rcases begun : op.run s with ⟨a | e | cause, t, first⟩
    · rw [run_bind_of_value begun] at whole
      rcases ended : (next a).run t with ⟨result, v, more⟩
      rw [ended] at whole
      cases whole
      exact ⟨a, t, first, more, rfl, ended, rfl⟩
    · rw [run_bind_of_error begun] at whole
      cases whole
    · rw [run_bind_of_panic begun] at whole
      cases whole
  · rintro ⟨a, t, first, more, begun, ended, rfl⟩
    rw [run_bind_of_value begun, ended]

/-! ## Sequences that begin with an elementary operation -/

@[simp]
theorem run_read_bind (look : σ → α) (next : α → Operation ε σ β) (s : σ) :
    (read look >>= next).run s = (next (look s)).run s := by
  rw [run_bind_of_value (run_read look s), List.nil_append]

@[simp]
theorem run_change_bind (step : σ → σ) (next : Unit → Operation ε σ β) (s : σ) :
    (change step >>= next).run s = (next ()).run (step s) := by
  rw [run_bind_of_value (run_change step s), List.nil_append]

@[simp]
theorem run_require_bind (condition : Bool) (cause : Panic) (next : Unit → Operation ε σ β)
    (s : σ) :
    (require condition cause >>= next).run s =
      if condition then (next ()).run s else ⟨.panic cause, s, []⟩ := by
  cases condition
  · exact run_bind_of_panic (run_abort cause s)
  · rw [require, if_pos rfl, if_pos rfl]
    exact (run_bind_of_value (run_pure () s)).trans (by rw [List.nil_append])

/-! ## The laws -/

protected theorem bind_pure (op : Operation ε σ α) : op >>= pure = op := by
  funext s
  change (op >>= pure).run s = op.run s
  rcases begun : op.run s with ⟨a | e | cause, t, shown⟩
  · rw [run_bind_of_value begun, run_pure, List.append_nil]
  · rw [run_bind_of_error begun]
  · rw [run_bind_of_panic begun]

protected theorem pure_bind (a : α) (next : α → Operation ε σ β) : pure a >>= next = next a := by
  funext s
  change (pure a >>= next).run s = (next a).run s
  rw [run_bind_of_value (run_pure a s), List.nil_append]

protected theorem bind_assoc (op : Operation ε σ α) (next : α → Operation ε σ β)
    (last : β → Operation ε σ γ) :
    op >>= next >>= last = op >>= fun a => next a >>= last := by
  funext s
  change (op >>= next >>= last).run s = (op >>= fun a => next a >>= last).run s
  rcases begun : op.run s with ⟨a | e | cause, t, shown⟩
  · have inner : (op >>= next).run s = _ := run_bind_of_value begun
    rw [run_bind_of_value begun]
    rcases middle : (next a).run t with ⟨b | e | cause, u, more⟩
    · rw [middle] at inner
      rw [run_bind_of_value inner, run_bind_of_value middle, List.append_assoc]
    · rw [middle] at inner
      rw [run_bind_of_error inner, run_bind_of_error middle]
    · rw [middle] at inner
      rw [run_bind_of_panic inner, run_bind_of_panic middle]
  · rw [run_bind_of_error begun, run_bind_of_error (run_bind_of_error begun)]
  · rw [run_bind_of_panic begun, run_bind_of_panic (run_bind_of_panic begun)]

instance : LawfulMonad (Operation ε σ) :=
  LawfulMonad.mk' _ Operation.bind_pure Operation.pure_bind Operation.bind_assoc

end PagedMemory.Operation
