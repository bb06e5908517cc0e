import LinkedNotes.Transaction.Bench

/-!
# Snapshots

A backend that keeps what is committed in the world and gives each operation a copy of it. A commit
publishes the copy, a rollback drops it. An operation has one copy at most: once that is gone, a
further use fails.
-/

namespace LinkedNotes.Store

open Transaction

/-- A backend whose committed state `α` is a part of the world. -/
structure Snapshot (σ η α : Type) where
  key : String
  /-- Start when the operation begins, and flush. Otherwise start when first used. -/
  eager : Bool
  kind : HandleKind η α
  /-- What is committed. -/
  committed : σ → α
  publish : α → σ → σ

namespace Snapshot

variable {σ η α β : Type}

/-- Take a copy for the operation, unless it has been started before. -/
def start (snapshot : Snapshot σ η α) : Action (Scene (Bench σ) η) Unit := do
  if !(← get).handles.isStarted snapshot.key then
    Bench.record "start" snapshot.key
    let copy := snapshot.committed (← get).world.store
    Scene.onHandles fun handles =>
      (handles.set snapshot.key (snapshot.kind.wrap copy)).markStarted snapshot.key

/-- The copy of the operation. -/
def copy (snapshot : Snapshot σ η α) : Action (Scene (Bench σ) η) α := do
  snapshot.start
  Scene.handle snapshot.kind snapshot.key

/-- Write the copy of the operation back. -/
def put (snapshot : Snapshot σ η α) (copy : α) : Action (Scene (Bench σ) η) Unit :=
  Scene.onHandles (·.set snapshot.key (snapshot.kind.wrap copy))

/-- Look something up in the copy. -/
def read (snapshot : Snapshot σ η α) (look : α → β) : Action (Scene (Bench σ) η) β := do
  pure (look (← snapshot.copy))

/-- Change the copy. -/
def change (snapshot : Snapshot σ η α) (step : α → α) : Action (Scene (Bench σ) η) Unit := do
  snapshot.put (step (← snapshot.copy))

/-- Change the copy, or fail and leave it. -/
def tryChange (snapshot : Snapshot σ η α) (step : α → Except Fault α) :
    Action (Scene (Bench σ) η) Unit := do
  snapshot.put (← Action.ofExcept (step (← snapshot.copy)))

/-- The controller of the backend. -/
def controller (snapshot : Snapshot σ η α) : Controller (Bench σ) η where
  key := snapshot.key
  begin := do
    Bench.record "begin" snapshot.key
    if snapshot.eager then snapshot.start
  ensureStarted := snapshot.start
  commit := do
    Bench.record "commit" snapshot.key
    match ← Scene.take snapshot.kind snapshot.key with
    | none => pure ()
    | some copy =>
      modify fun scene =>
        { scene with world := { scene.world with
          store := snapshot.publish copy scene.world.store } }
  rollback := do
    Bench.record "rollback" snapshot.key
    Scene.onHandles (·.remove snapshot.key)
  close := do
    Bench.record "close" snapshot.key
    Scene.onHandles (·.remove snapshot.key)
  flush? :=
    if snapshot.eager then some do
      Bench.record "flush" snapshot.key
      snapshot.start
    else none

end Snapshot

end LinkedNotes.Store
