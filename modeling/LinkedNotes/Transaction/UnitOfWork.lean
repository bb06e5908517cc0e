import LinkedNotes.Transaction.Controller

/-!
# Units of work

One operation on several backends. Backends begin and commit in the order in which they are
registered; they roll back and close in the reverse order. There is no transaction across backends:
when one fails to commit, those before it stay committed, and the fault says so.
-/

namespace LinkedNotes.Transaction

/-- How far a unit of work has come. -/
inductive Phase where
  /-- Not entered yet. -/
  | ready
  | active
  | committed
  | rolledBack
  deriving DecidableEq, Repr

namespace Phase

/-- The word for a phase. -/
def toText : Phase → String
  | ready => "Open"
  | active => "Active"
  | committed => "Committed"
  | rolledBack => "RolledBack"

end Phase

/-- One operation. -/
structure UnitOfWork (η : Type) where
  phase : Phase := .ready
  context : Context η := {}

/-- An operation and the world it works on. -/
structure Session (ω η : Type) where
  world : ω
  work : UnitOfWork η := {}

namespace Session

variable {ω η α : Type}

/-- What the controllers see of a session. -/
def scene (session : Session ω η) : Scene ω η := ⟨session.world, session.work.context.handles⟩

/-- The session after controllers have worked on it. -/
def withScene (scene : Scene ω η) (session : Session ω η) : Session ω η :=
  ⟨scene.world, { session.work with
    context := { session.work.context with handles := scene.handles } }⟩

/-- An action of controllers. -/
def onScene (action : Action (Scene ω η) α) : Action (Session ω η) α :=
  action.within scene withScene

/-- Change the context. -/
def onContext (change : Context η → Context η) : Action (Session ω η) Unit :=
  modify fun session =>
    { session with work := { session.work with context := change session.work.context } }

/-- Pass to a phase. -/
def setPhase (phase : Phase) : Action (Session ω η) Unit :=
  modify fun session => { session with work := { session.work with phase } }

/-- The phase the unit of work is in. -/
def phase : Action (Session ω η) Phase := do pure (← get).work.phase

end Session

/-- The backends of a unit of work, and the one that is asked to flush. -/
structure Coordinator (ω η : Type) where
  controllers : List (Controller ω η)
  flushKey : String := "sql"

namespace Coordinator

variable {ω η α : Type}

/-! ## All controllers -/

/-- Begin in order, up to the first failure. -/
def beginAll : List (Controller ω η) → Action (Scene ω η) Unit
  | [] => pure ()
  | controller :: rest => do
    controller.begin
    beginAll rest

/-- Commit in order, up to the first failure: the keys of those that committed, and the failure
with the key of the one that failed. -/
def commitAll : List (Controller ω η) →
    Action (Scene ω η) (List String × Option (String × Fault))
  | [] => pure ([], none)
  | controller :: rest => do
    match ← controller.commit.attempt with
    | .error fault => pure ([], some (controller.key, fault))
    | .ok () =>
      let (keys, failure) ← commitAll rest
      pure (controller.key :: keys, failure)

/-- Do the same with every controller, whichever fail, and keep the first fault. -/
def sweep (step : Controller ω η → Action (Scene ω η) Unit) :
    List (Controller ω η) → Action (Scene ω η) (Option Fault)
  | [] => pure none
  | controller :: rest => do
    match ← (step controller).attempt with
    | .ok () => sweep step rest
    | .error fault =>
      discard (sweep step rest)
      pure (some fault)

/-- Close all in reverse order and keep the first fault. -/
def closeAll (coordinator : Coordinator ω η) : Action (Scene ω η) (Option Fault) :=
  sweep (·.close) coordinator.controllers.reverse

/-- Roll back all in reverse order and keep the first fault. -/
def rollbackAll (coordinator : Coordinator ω η) : Action (Scene ω η) (Option Fault) :=
  sweep (·.rollback) coordinator.controllers.reverse

/-- Succeed unless there is a fault. -/
def settle : Option Fault → Action (Session ω η) Unit
  | none => pure ()
  | some fault => throw fault

/-! ## The course of a unit of work -/

/-- Forget an earlier operation and begin. -/
def enter (coordinator : Coordinator ω η) : Action (Session ω η) Unit := do
  Session.onContext fun _ => .empty
  Session.setPhase .active
  Session.onScene (beginAll coordinator.controllers)

/-- Commit an active unit of work and close it. It stays active if a backend fails to commit. -/
def commitActive (coordinator : Coordinator ω η) : Action (Session ω η) Unit := do
  let (keys, failure) ← Session.onScene (commitAll coordinator.controllers)
  let closing ← Session.onScene coordinator.closeAll
  match failure with
  | some (failed, fault) =>
    if keys = [] then throw fault else throw (.partialCommit keys failed fault)
  | none =>
    Session.setPhase .committed
    Session.onContext Context.markCommitted
    settle closing

/-- Commit every backend. A unit of work that has ended is left alone. -/
def commit (coordinator : Coordinator ω η) : Action (Session ω η) Unit := do
  match ← Session.phase with
  | .committed | .rolledBack => pure ()
  | .ready => throw (.unitOfWork "commit called before the unit of work was entered")
  | .active => coordinator.commitActive

/-- Roll back an active unit of work and close it. -/
def rollbackActive (coordinator : Coordinator ω η) : Action (Session ω η) Unit := do
  let undoing ← Session.onScene coordinator.rollbackAll
  let closing ← Session.onScene coordinator.closeAll
  Session.setPhase .rolledBack
  Session.onContext Context.markRolledBack
  settle (undoing <|> closing)

/-- Roll back every backend. A unit of work that has ended is left alone. -/
def rollback (coordinator : Coordinator ω η) : Action (Session ω η) Unit := do
  match ← Session.phase with
  | .committed | .rolledBack => pure ()
  | .ready => throw (.unitOfWork "rollback called before the unit of work was entered")
  | .active => coordinator.rollbackActive

/-- Flush the backend that is asked to, if it can. -/
def flush (coordinator : Coordinator ω η) : Action (Session ω η) Unit :=
  match Keyed.find? (·.key) coordinator.flushKey coordinator.controllers with
  | none => throw (.unknownBackend coordinator.flushKey)
  | some controller => Session.onScene controller.flush

/-- Roll back what failed while it was active, whether or not that works. -/
def undoFailed (coordinator : Coordinator ω η) (result : Except Fault α) :
    Action (Session ω η) Unit := do
  match result, ← Session.phase with
  | .error _, .active => discard coordinator.rollback.attempt
  | _, _ => pure ()

/-- End the operation with its result. A failed one is rolled back if it is still active; its own
fault is the result even if that fails too. -/
def exit (coordinator : Coordinator ω η) (result : Except Fault α) : Action (Session ω η) α := do
  coordinator.undoFailed result
  Session.onContext fun _ => .empty
  Action.ofExcept result

/-- Commit if the result is good, and end the operation. -/
def complete (coordinator : Coordinator ω η) (result : Except Fault α) :
    Action (Session ω η) α := do
  match result with
  | .error fault => coordinator.exit (.error fault)
  | .ok a =>
    let committed ← coordinator.commit.attempt
    coordinator.exit (committed.map fun _ => a)

/-! ## Whole operations -/

/-- Enter, do something, and commit it if it succeeds. -/
def perform (coordinator : Coordinator ω η) (body : Action (Session ω η) α) :
    Action (Session ω η) α := do
  match ← coordinator.enter.attempt with
  | .error fault => coordinator.exit (.error fault)
  | .ok () => coordinator.complete (← body.attempt)

/-- Enter and do something that is not to be committed. -/
def observe (coordinator : Coordinator ω η) (body : Action (Session ω η) α) :
    Action (Session ω η) α := do
  match ← coordinator.enter.attempt with
  | .error fault => coordinator.exit (.error fault)
  | .ok () => coordinator.exit (← body.attempt)

/-- Run a session of its own from its start to its end. -/
def alone (action : Action (Session ω η) α) : Action ω α := fun world =>
  match action { world } with
  | .ok a session => .ok a session.world
  | .error fault session => .error fault session.world

/-- A unit of work in words. -/
def describe (coordinator : Coordinator ω η) (work : UnitOfWork η) : String :=
  "CompositeUnitOfWork \x7b controllers: " ++
    Text.quoteList (coordinator.controllers.map (·.key)) ++
    ", primary_flush_key: " ++ Text.quote coordinator.flushKey ++
    ", state: " ++ work.phase.toText ++
    ", ctx: " ++ work.context.describe ++ " \x7d"

end Coordinator

end LinkedNotes.Transaction
