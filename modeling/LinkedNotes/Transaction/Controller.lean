import LinkedNotes.Transaction.Action
import LinkedNotes.Transaction.Context

/-!
# Controllers

A controller drives the transaction of one backend. It works on the world outside the operation,
where the backend keeps what is committed, and on the handles of the operation. It neither reads nor
sets the flags that say how the operation ended: only the unit of work and its caller do.
-/

namespace LinkedNotes.Transaction

/-- What a controller works on: the world and, of the context of an operation, the handles with the
keys that are marked as started. The flags of the context are out of its reach, and so is clearing
it as a whole, so what is proved about the flags holds of controllers that leave them alone. -/
structure Scene (ω η : Type) where
  world : ω
  handles : Handles η

/-- The transaction of one backend. -/
structure Controller (ω η : Type) where
  key : String
  /-- Done once when a unit of work is entered. -/
  begin : Action (Scene ω η) Unit
  /-- Start the transaction unless the handles say that it has been started. -/
  ensureStarted : Action (Scene ω η) Unit
  commit : Action (Scene ω η) Unit
  rollback : Action (Scene ω η) Unit
  /-- Let go of what the handles hold. -/
  close : Action (Scene ω η) Unit
  /-- Make what was written so far take effect within the transaction, where the backend can. -/
  flush? : Option (Action (Scene ω η) Unit) := none

/-- Flush the backend if it can. -/
def Controller.flush {ω η : Type} (controller : Controller ω η) : Action (Scene ω η) Unit :=
  controller.flush?.getD (pure ())

namespace Scene

variable {ω η α : Type}

/-- Change the handles. -/
def onHandles (change : Handles η → Handles η) : Action (Scene ω η) Unit :=
  modify fun scene => { scene with handles := change scene.handles }

/-- An action on the world. -/
def onWorld (action : Action ω α) : Action (Scene ω η) α :=
  action.within (·.world) fun world scene => { scene with world }

/-- Take out the handle under a key, if it is of the kind. -/
def take (kind : HandleKind η α) (key : String) : Action (Scene ω η) (Option α) :=
  Action.extract fun scene =>
    let taken := scene.handles.take kind key
    (taken.1, { scene with handles := taken.2 })

/-- The handle of a backend that has been started. It is missing once the transaction ended. -/
def handle (kind : HandleKind η α) (key : String) : Action (Scene ω η) α := do
  match (← get).handles.get? kind key with
  | some a => pure a
  | none => throw (.missingHandle key)

end Scene

end LinkedNotes.Transaction
