import PagedMemory.Proofs.Operation.Ends

/-!
# What an operation preserves

A property of states is preserved by an operation if it holds of the state that
is reached whenever it holds of the state that the operation is run on, whether
the operation returns, reports an error or panics. Nothing is said of values
and nothing of how many identities are drawn, so the rules follow the
combinators without side conditions: a sequence preserves what its parts do.
-/

namespace PagedMemory

namespace Operation

variable {ε ε' σ τ ρ α β : Type} {inv : σ → Prop}

/-- The operation keeps `inv`, however it ends. -/
def Preserves (op : Operation ε σ α) (inv : σ → Prop) : Prop :=
  ∀ s, inv s → inv (op.run s).state

/-- What holds in every end that an operation can have is preserved by it. -/
theorem preserves_of_ends {op : Operation ε σ α}
    (ends : ∀ s, inv s → ∀ left,
      op.Ends left s ⟨fun _ t _ => inv t, fun _ t _ => inv t, fun _ => inv⟩) :
    op.Preserves inv :=
  fun s holds => state_of_ends (ends s holds)

/-- Where something is asked of values alone, all that counts of a sequence is its last
part. -/
theorem ends_bind_last {op : Operation ε σ α} {next : α → Operation ε σ β} {left : Nat} {s : σ}
    {value : β → σ → Nat → Prop}
    (last : ∀ a t left, (next a).Ends left t ⟨value, fun _ _ _ => True, fun _ _ => True⟩) :
    (op >>= next).Ends left s ⟨value, fun _ _ _ => True, fun _ _ => True⟩ := by
  rw [ends_bind, Ends]
  generalize op.run s = outcome
  rcases outcome with ⟨a | e | cause, t, shown⟩
  · exact fun _ => last a t _
  · exact fun _ => trivial
  · exact fun _ => trivial

namespace Preserves

/-- A preserved property holds in every end. -/
theorem ends {op : Operation ε σ α} (kept : op.Preserves inv) {s : σ} (holds : inv s)
    {left : Nat} :
    op.Ends left s ⟨fun _ t _ => inv t, fun _ t _ => inv t, fun _ => inv⟩ := by
  have after := kept s holds
  unfold Ends
  generalize op.run s = outcome at after ⊢
  rcases outcome with ⟨_ | _ | _, t, shown⟩ <;> exact fun _ => after

/-- An operation that never changes the state preserves everything. -/
theorem still {op : Operation ε σ α} (same : ∀ s, (op.run s).state = s) : op.Preserves inv := by
  intro s holds
  rw [same s]
  exact holds

theorem pure (a : α) : (Pure.pure a : Operation ε σ α).Preserves inv :=
  still fun _ => rfl

theorem fail (e : ε) : (fail e : Operation ε σ α).Preserves inv :=
  still fun _ => rfl

theorem abort (cause : Panic) : (abort cause : Operation ε σ α).Preserves inv :=
  still fun _ => rfl

theorem read (look : σ → α) : (read look : Operation ε σ α).Preserves inv :=
  still fun _ => rfl

theorem log (level : LogLevel) (text : String) :
    (log level text : Operation ε σ Unit).Preserves inv :=
  still fun _ => rfl

theorem change {step : σ → σ} (kept : ∀ s, inv s → inv (step s)) :
    (change step : Operation ε σ Unit).Preserves inv :=
  kept

theorem require (condition : Bool) (cause : Panic) :
    (require condition cause : Operation ε σ Unit).Preserves inv := by
  cases condition
  · exact abort cause
  · exact pure ()

theorem ofExcept (result : Except Panic α) :
    (ofExcept result : Operation ε σ α).Preserves inv := by
  cases result with
  | ok a => exact pure a
  | error cause => exact abort cause

/-! ## Combinators -/

/-- What follows may rely on the first part having returned. -/
theorem bind_of_run {op : Operation ε σ α} {next : α → Operation ε σ β} (first : op.Preserves inv)
    (rest : ∀ s a t shown, inv s → op.run s = ⟨.value a, t, shown⟩ → inv t →
      inv ((next a).run t).state) : (op >>= next).Preserves inv := by
  intro s holds
  have middle := first s holds
  rcases begun : op.run s with ⟨a | e | cause, t, shown⟩ <;> rw [begun] at middle
  · rw [run_bind_of_value begun]
    exact rest s a t shown holds begun middle
  · rw [run_bind_of_error begun]
    exact middle
  · rw [run_bind_of_panic begun]
    exact middle

theorem bind {op : Operation ε σ α} {next : α → Operation ε σ β} (first : op.Preserves inv)
    (rest : ∀ a, (next a).Preserves inv) : (op >>= next).Preserves inv :=
  first.bind_of_run fun _ a t _ _ _ => rest a t

theorem mapError {rename : ε → ε'} {op : Operation ε σ α} (kept : op.Preserves inv) :
    (op.mapError rename).Preserves inv := by
  intro s holds
  have after := kept s holds
  simp only [run, Operation.mapError] at after ⊢
  generalize op s = outcome at after ⊢
  rcases outcome with ⟨_ | _ | _, t, shown⟩ <;> exact after

theorem attempt {op : Operation ε σ α} (kept : op.Preserves inv) :
    (op.attempt : Operation ε' σ (Except ε α)).Preserves inv := by
  intro s holds
  have after := kept s holds
  simp only [run, Operation.attempt] at after ⊢
  generalize op s = outcome at after ⊢
  rcases outcome with ⟨_ | _ | _, t, shown⟩ <;> exact after

/-- An operation on a part of the state preserves what it preserves of the part. -/
theorem onPart {split : τ → σ × ρ} {join : σ → ρ → τ} {op : Operation ε σ α} {outer : τ → Prop}
    (kept : op.Preserves inv) (enter : ∀ s, outer s → inv (split s).1)
    (leave : ∀ s, outer s → ∀ part, inv part → outer (join part (split s).2)) :
    (op.onPart split join).Preserves outer := by
  intro s holds
  exact leave s holds _ (kept _ (enter s holds))

theorem forM {body : β → Operation ε σ Unit} (kept : ∀ b, (body b).Preserves inv)
    (todo : List β) : (todo.forM body).Preserves inv := by
  induction todo with
  | nil => exact pure ()
  | cons b todo ih => exact (kept b).bind fun _ => ih

end Preserves

end Operation

/-! ## Memory and spaces under construction -/

namespace Memory

open Operation

variable {ε σ α : Type} {inv : σ → Prop}

/-- What is asked of the frame source is no matter of the RAM. -/
theorem preserves_onRam {op : Operation ε Ram α} :
    (onRam op).Preserves fun memory : Memory σ => inv memory.frames := by
  have anything : op.Preserves fun _ => True := fun _ _ => trivial
  exact anything.onPart (fun _ _ => trivial) fun _ holds _ _ => holds

theorem preserves_onFrames {op : Operation ε σ α} (kept : op.Preserves inv) :
    (onFrames op).Preserves fun memory => inv memory.frames :=
  kept.onPart (fun _ => id) fun _ _ _ => id

end Memory

namespace Building

open Operation

variable {ε ε' σ α : Type} {inv : σ → Prop}

theorem preserves_inMemory {op : AddressSpace → Operation ε (Memory σ) α}
    (kept : ∀ space, (op space).Preserves fun memory => inv memory.frames) :
    (inMemory op).Preserves fun building => inv building.memory.frames := by
  rintro ⟨memory, space⟩ holds
  exact kept space memory holds

theorem preserves_updateSpace (step : AddressSpace → AddressSpace) :
    (updateSpace step : Operation ε (Building σ) Unit).Preserves
      fun building => inv building.memory.frames :=
  .change fun _ => id

theorem preserves_around {space : AddressSpace} {op : Operation ε (Building σ) α}
    (kept : op.Preserves fun building => inv building.memory.frames) :
    (around space op : Operation ε' (Memory σ) _).Preserves fun memory => inv memory.frames := by
  intro memory holds
  have after := kept ⟨memory, space⟩ holds
  simp only [run, around] at after ⊢
  generalize op ⟨memory, space⟩ = outcome at after ⊢
  rcases outcome with ⟨_ | _ | _, ⟨t, grown⟩, shown⟩ <;> exact after

/-- Work on the memory is no matter of the space. -/
theorem preserves_space_inMemory {op : AddressSpace → Operation ε (Memory σ) α}
    {inv : AddressSpace → Prop} : (inMemory op).Preserves fun building => inv building.space :=
  fun _ => id

theorem preserves_space_updateSpace {step : AddressSpace → AddressSpace} {inv : AddressSpace → Prop}
    (kept : ∀ space, inv space → inv (step space)) :
    (updateSpace step : Operation ε (Building σ) Unit).Preserves
      fun building => inv building.space :=
  .change fun building => kept building.space

end Building

end PagedMemory
