import LinkedNotes.Fault

/-!
# Actions

Steps that change a state and may fail. What was done before the failure stays done.
-/

namespace LinkedNotes

/-- A step on a state that yields a value or a fault. -/
abbrev Action (σ α : Type) : Type := EStateM Fault σ α

namespace Action

variable {σ τ α : Type}

/-- The outcome of an action, as a value. -/
def attempt (action : Action σ α) : Action σ (Except Fault α) := fun s =>
  match action s with
  | .ok a s => .ok (.ok a) s
  | .error e s => .ok (.error e) s

/-- The action whose outcome is given. -/
def ofExcept : Except Fault α → Action σ α
  | .ok a => pure a
  | .error e => throw e

/-- An action on a part of the state. -/
def within (get : σ → τ) (set : τ → σ → σ) (action : Action τ α) : Action σ α := fun s =>
  match action (get s) with
  | .ok a t => .ok a (set t s)
  | .error e t => .error e (set t s)

/-- Take a value from the state and leave the rest. -/
def extract (split : σ → α × σ) : Action σ α := fun s => .ok (split s).1 (split s).2

/-- The outcome and the state after it. -/
def outcome (action : Action σ α) (s : σ) : Except Fault α × σ :=
  match action s with
  | .ok a s => (.ok a, s)
  | .error e s => (.error e, s)

end Action

end LinkedNotes
