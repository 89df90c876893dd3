import PagedMemory.Event
import PagedMemory.Panic

/-!
# Operations

An operation runs on a state and ends in one of three ways: with a value, with
an error that its caller handles, or with a panic. Whichever it is, the state
that was reached and the events shown on the way are kept; nothing is rolled
back. Sequencing stops at the first error or panic.
-/

namespace PagedMemory

/-- How an operation ends. -/
inductive Result (ε α : Type) where
  /-- It returns. -/
  | value (a : α)
  /-- It reports an error to its caller. -/
  | error (e : ε)
  /-- It is ended. -/
  | panic (cause : Panic)
deriving DecidableEq

/-- How an operation ends, in which state, and what it showed. -/
structure Outcome (ε σ α : Type) where
  result : Result ε α
  state : σ
  events : List Event
deriving DecidableEq

/-- A step of the machine on a state of type `σ`. -/
def Operation (ε σ α : Type) : Type :=
  σ → Outcome ε σ α

namespace Operation

variable {ε ε' σ τ α β : Type}

/-- Run an operation on a state. -/
def run (op : Operation ε σ α) (s : σ) : Outcome ε σ α :=
  op s

/-- Return a value and do nothing. -/
protected def pure (a : α) : Operation ε σ α := fun s =>
  ⟨.value a, s, []⟩

/-- Run `op`, then what its value calls for. -/
protected def bind (op : Operation ε σ α) (next : α → Operation ε σ β) : Operation ε σ β := fun s =>
  match op s with
  | ⟨.value a, t, shown⟩ =>
    match next a t with
    | ⟨result, u, more⟩ => ⟨result, u, shown ++ more⟩
  | ⟨.error e, t, shown⟩ => ⟨.error e, t, shown⟩
  | ⟨.panic cause, t, shown⟩ => ⟨.panic cause, t, shown⟩

instance : Monad (Operation ε σ) where
  pure := Operation.pure
  bind := Operation.bind

/-! ## Elementary operations -/

/-- Report an error. -/
def fail (e : ε) : Operation ε σ α := fun s =>
  ⟨.error e, s, []⟩

/-- End in a panic. -/
def abort (cause : Panic) : Operation ε σ α := fun s =>
  ⟨.panic cause, s, []⟩

/-- Look at the state. -/
def read (look : σ → α) : Operation ε σ α := fun s =>
  ⟨.value (look s), s, []⟩

/-- Change the state. -/
def change (step : σ → σ) : Operation ε σ Unit := fun s =>
  ⟨.value (), step s, []⟩

/-- Show an event. -/
def emit (event : Event) : Operation ε σ Unit := fun s =>
  ⟨.value (), s, [event]⟩

/-- Write a log record. -/
def log (level : LogLevel) (text : String) : Operation ε σ Unit :=
  emit (.logged level text)

/-- Go on with the value of a computation that may panic. -/
def ofExcept : Except Panic α → Operation ε σ α
  | .ok a => Operation.pure a
  | .error cause => abort cause

/-- Panic with `cause` unless `condition` holds. -/
def require (condition : Bool) (cause : Panic) : Operation ε σ Unit :=
  if condition then Operation.pure () else abort cause

/-! ## Operations built around another -/

/-- Report errors under another name. -/
def mapError (rename : ε → ε') (op : Operation ε σ α) : Operation ε' σ α := fun s =>
  match op s with
  | ⟨.value a, t, shown⟩ => ⟨.value a, t, shown⟩
  | ⟨.error e, t, shown⟩ => ⟨.error (rename e), t, shown⟩
  | ⟨.panic cause, t, shown⟩ => ⟨.panic cause, t, shown⟩

/-- Hand errors over as values; a panic stays a panic. -/
def attempt (op : Operation ε σ α) : Operation ε' σ (Except ε α) := fun s =>
  match op s with
  | ⟨.value a, t, shown⟩ => ⟨.value (.ok a), t, shown⟩
  | ⟨.error e, t, shown⟩ => ⟨.value (.error e), t, shown⟩
  | ⟨.panic cause, t, shown⟩ => ⟨.panic cause, t, shown⟩

/-- Run `cleanup` after `op`, however `op` ends. A panic of `cleanup` takes the
place of a value or an error of `op`, and not of a panic. -/
def ensuring (op : Operation ε σ α) (cleanup : Operation Empty σ Unit) : Operation ε σ α := fun s =>
  match op s with
  | ⟨result, t, shown⟩ =>
    match cleanup t with
    | ⟨.value _, u, more⟩ => ⟨result, u, shown ++ more⟩
    | ⟨.panic cause, u, more⟩ =>
      match result with
      | .panic first => ⟨.panic first, u, shown ++ more⟩
      | _ => ⟨.panic cause, u, shown ++ more⟩

/-- Run an operation on a part of the state: `split` takes the part out and
`join` puts it back. -/
def onPart {ρ : Type} (split : τ → σ × ρ) (join : σ → ρ → τ) (op : Operation ε σ α) :
    Operation ε τ α := fun s =>
  match split s with
  | (part, rest) =>
    match op part with
    | ⟨result, part, shown⟩ => ⟨result, join part rest, shown⟩

end Operation

end PagedMemory
