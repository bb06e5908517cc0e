import LinkedNotes.Transaction.UnitOfWork

/-!
# Test benches

A world that writes down the calls of its backends, and in which calls can be told to fail. A call
is spelled as its name, a colon and the key of the backend. There are three sorts of controllers
for it: one that only writes down its calls, one that does nothing, and one that lets another one
fail.
-/

namespace LinkedNotes.Transaction

/-- A world with a log of calls. -/
structure Bench (σ : Type) where
  /-- The calls so far, the latest last. -/
  calls : List String := []
  /-- The calls that are told to fail. -/
  failing : List String := []
  store : σ

namespace Bench

variable {σ η : Type}

/-- The spelling of a call. -/
def spell (call key : String) : String := call ++ ":" ++ key

/-- Write down a call. -/
def record (call key : String) : Action (Scene (Bench σ) η) Unit :=
  modify fun scene => { scene with
    world := { scene.world with calls := scene.world.calls ++ [spell call key] } }

/-- The keys of the backends that got a call, in the order of the calls. -/
def keysOf (call : String) (bench : Bench σ) : List String :=
  let front := (spell call "").toList
  bench.calls.filterMap fun entry =>
    if front.isPrefixOf entry.toList then
      some (String.ofList (entry.toList.drop front.length))
    else none

/-- Tell a call to fail, or no longer. -/
def setFailing (call : String) (fails : Bool) (bench : Bench σ) : Bench σ :=
  let others := bench.failing.filter (· ≠ call)
  { bench with failing := if fails then others ++ [call] else others }

/-- The fault of a call that was told to fail. -/
def refusal (call key : String) : Fault := .internal (key ++ " " ++ call ++ " failed")

/-- Fail if the call was told to. -/
def refuse (call key : String) : Action (Scene (Bench σ) η) Unit := do
  if spell call key ∈ (← get).world.failing then throw (refusal call key)

end Bench

namespace Controller

variable {σ η : Type}

/-- A controller that does nothing and cannot flush. -/
def silent (key : String) : Controller (Bench σ) η where
  key := key
  begin := pure ()
  ensureStarted := pure ()
  commit := pure ()
  rollback := pure ()
  close := pure ()

/-- A controller that writes down its calls and holds an empty handle while it is started. The
calls in `fails` fail. -/
def recording (kind : HandleKind η Unit) (key : String) (canFlush : Bool) (fails : List String) :
    Controller (Bench σ) η :=
  let failIfTold := fun call =>
    if call ∈ fails then throw (Bench.refusal call key) else pure ()
  let start := Scene.onHandles fun handles => (handles.set key (kind.wrap ())).markStarted key
  { key := key
    begin := do
      Bench.record "begin" key
      failIfTold "begin"
      start
    ensureStarted := do
      Bench.record "ensure_started" key
      if !(← get).handles.isStarted key then start
    commit := do
      Bench.record "commit" key
      failIfTold "commit"
    rollback := do
      Bench.record "rollback" key
      failIfTold "rollback"
    close := do
      Bench.record "close" key
      Scene.onHandles (·.remove key)
    flush? := if canFlush then some (Bench.record "flush" key) else none }

/-- The controller, where calls fail that the bench tells to. They do not reach the controller,
except that it is closed first. -/
def refusing (controller : Controller (Bench σ) η) : Controller (Bench σ) η :=
  let key := controller.key
  { controller with
    begin := do
      Bench.refuse "begin" key
      controller.begin
    commit := do
      Bench.refuse "commit" key
      controller.commit
    rollback := do
      Bench.refuse "rollback" key
      controller.rollback
    close := do
      controller.close
      Bench.refuse "close" key
    flush? := controller.flush?.map fun flush => do
      Bench.refuse "flush" key
      flush }

end Controller

end LinkedNotes.Transaction
