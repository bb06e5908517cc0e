import LinkedNotes.Transaction.UnitOfWork

/-!
# Transactions on a database

Controllers for two stores kept in databases. Both hold a transaction in the context while it is
open. The relational one opens it when the operation begins, the graph when a call first needs it.
Committing and rolling back take the transaction out, so without one there is nothing to do.
-/

namespace LinkedNotes.Database

open Transaction

/-- What opens transactions `τ`, and ends and checks them. -/
structure Source (ω τ : Type) where
  acquire : Action ω τ
  commit : τ → Action ω Unit
  rollback : τ → Action ω Unit
  /-- Check the constraints that were put off. -/
  check : τ → Action ω Unit

/-- What a context holds: a transaction, or something that is none. -/
inductive Held (τ : Type) where
  | transaction (t : τ)
  | number (n : Nat)

/-- The transactions among what a context holds. -/
def Held.transactionKind {τ : Type} : HandleKind (Held τ) τ where
  wrap := .transaction
  unwrap? | .transaction t => some t | .number _ => none
  unwrap?_wrap _ := rfl

variable {ω τ : Type}

/-- Open the transaction of a backend, unless it has been started before. -/
def start (source : Source ω τ) (key : String) : Action (Scene ω (Held τ)) Unit := do
  if !(← get).handles.isStarted key then
    let t ← Scene.onWorld source.acquire
    Scene.onHandles fun handles => (handles.set key (.transaction t)).markStarted key

/-- The transaction of a backend, opened if needed. -/
def transaction (source : Source ω τ) (key : String) : Action (Scene ω (Held τ)) τ := do
  start source key
  Scene.handle Held.transactionKind key

/-- Take the transaction of a backend out of the context and end it. -/
def finish (key : String) (conclude : τ → Action ω Unit) : Action (Scene ω (Held τ)) Unit := do
  match ← Scene.take Held.transactionKind key with
  | some t => Scene.onWorld (conclude t)
  | none => pure ()

/-- The controller of the relational store. Its connection goes back when the transaction ends, so
there is nothing to close. -/
def relationalController (source : Source ω τ) : Controller ω (Held τ) where
  key := "sql"
  begin := start source "sql"
  ensureStarted := start source "sql"
  commit := finish "sql" source.commit
  rollback := finish "sql" source.rollback
  close := pure ()
  flush? := some do
    let t ← transaction source "sql"
    Scene.onWorld (source.check t)

/-- The controller of the graph. -/
def graphController (source : Source ω τ) : Controller ω (Held τ) where
  key := "graph"
  begin := pure ()
  ensureStarted := start source "graph"
  commit := finish "graph" source.commit
  rollback := finish "graph" source.rollback
  close := Scene.onHandles (·.remove "graph")

/-- Units of work over two databases, the relational one first. -/
def coordinator (relational graph : Source ω τ) : Coordinator ω (Held τ) :=
  { controllers := [relationalController relational, graphController graph] }

end LinkedNotes.Database
