import LinkedNotes.Proofs.Transaction.Watched

/-!
# Keepers of transactions

What backends have in common that hold a transaction for an operation. A keeper opens one when it is
needed, keeps it among the handles, and takes it out again to end it. A keeper that is watched
writes down when it opens a transaction and when it ends one, and does the same otherwise
(`Errand.matches_run`).
-/

namespace LinkedNotes.Transaction

open LinkedNotes.Action (Matches)
open Watched (SceneSees)

variable {ω η α β : Type}

/-! ## Keepers -/

/-- What opens the transactions of a backend and ends them, and where they are kept. -/
structure Keeper (ω η α : Type) where
  key : String
  kind : HandleKind η α
  acquire : Action ω α
  commit : α → Action ω Unit
  rollback : α → Action ω Unit

/-- What is done with a transaction, if it is there. -/
inductive Task (ω α : Type) where
  | look (work : α → Action ω Unit)
  /-- Put another one in its place, or fail and leave it. -/
  | change (step : α → Except Fault α)
  | commit
  | rollback
  /-- Let go of it without ending it. -/
  | drop

/-- The task needs the transaction. -/
def Task.isAccess : Task ω α → Bool
  | look _ | change _ => true
  | commit | rollback | drop => false

namespace Keeper

/-- Open a transaction and keep it. -/
def enroll (keeper : Keeper ω η α) : Action (Scene ω η) Unit := do
  let a ← Scene.onWorld keeper.acquire
  Scene.onHandles fun handles =>
    (handles.set keeper.key (keeper.kind.wrap a)).markStarted keeper.key

/-- Open a transaction, unless one has been opened before. -/
def start (keeper : Keeper ω η α) : Action (Scene ω η) Unit := do
  if !(← get).handles.isStarted keeper.key then keeper.enroll

/-- Take the transaction out and end it. -/
def finish (keeper : Keeper ω η α) (conclude : α → Action ω Unit) : Action (Scene ω η) Unit := do
  match ← Scene.take keeper.kind keeper.key with
  | some a => Scene.onWorld (conclude a)
  | none => pure ()

/-- Do one task. -/
def run (keeper : Keeper ω η α) : Task ω α → Action (Scene ω η) Unit
  | .look work => do Scene.onWorld (work (← Scene.handle keeper.kind keeper.key))
  | .change step => do
    let a ← Action.ofExcept (step (← Scene.handle keeper.kind keeper.key))
    Scene.onHandles (·.set keeper.key (keeper.kind.wrap a))
  | .commit => keeper.finish keeper.commit
  | .rollback => keeper.finish keeper.rollback
  | .drop => Scene.onHandles (·.remove keeper.key)

/-- Do tasks in order, up to the first failure. -/
def runAll (keeper : Keeper ω η α) : List (Task ω α) → Action (Scene ω η) Unit
  | [] => pure ()
  | task :: rest => do
    keeper.run task
    keeper.runAll rest

end Keeper

/-- What a keeper is asked to do in one call. -/
structure Errand (ω η : Type) where
  {α : Type}
  keeper : Keeper ω η α
  /-- What is done in the world before the keeper has its turn. -/
  prelude : Action ω Unit := pure ()
  /-- The transaction is needed. -/
  starts : Bool := false
  tasks : List (Task ω α) := []

namespace Errand

/-- See to it that the transaction is there if it is needed. -/
def ready (errand : Errand ω η) : Action (Scene ω η) Unit :=
  if errand.starts then errand.keeper.start else pure ()

/-- Run an errand. -/
def run (errand : Errand ω η) : Action (Scene ω η) Unit := do
  Scene.onWorld errand.prelude
  errand.ready
  errand.keeper.runAll errand.tasks

end Errand

/-! ## Watched keepers -/

namespace Watched

/-- Do something in the world. -/
def lift (x : Action ω α) : Action (Watched ω) α :=
  x.within (·.world) fun world watched => { watched with world }

/-- Do something in the world, and write down a call and what came of it. -/
def tell (duty : Duty) (key : String) (x : Action ω α) : Action (Watched ω) α := fun watched =>
  match x watched.world with
  | .ok a world => .ok a ⟨world, watched.log ++ [⟨duty, key, none⟩]⟩
  | .error fault world => .error fault ⟨world, watched.log ++ [⟨duty, key, some fault⟩]⟩

/-- The world without its log is the other one. -/
def WorldSees (watched : Watched ω) (world : ω) : Prop := watched.world = world

end Watched

open Watched (WorldSees)

/-- The keeper, where it is written down when a transaction is opened, as a call to start it, and
when it is ended. -/
def Keeper.watched (keeper : Keeper ω η α) : Keeper (Watched ω) η α where
  key := keeper.key
  kind := keeper.kind
  acquire := Watched.tell .ensureStarted keeper.key keeper.acquire
  commit a := Watched.tell .commit keeper.key (keeper.commit a)
  rollback a := Watched.tell .rollback keeper.key (keeper.rollback a)

/-- The same task in a world with a log. -/
def Task.watched : Task ω α → Task (Watched ω) α
  | .look work => .look fun a => Watched.lift (work a)
  | .change step => .change step
  | .commit => .commit
  | .rollback => .rollback
  | .drop => .drop

/-- The errand, where it is written down when a transaction is opened and ended. -/
def Errand.watched (errand : Errand ω η) : Errand (Watched ω) η where
  keeper := errand.keeper.watched
  prelude := Watched.lift errand.prelude
  starts := errand.starts
  tasks := errand.tasks.map Task.watched

/-! ## Outcomes -/

namespace Keeper

variable (keeper : Keeper ω η α) {scene : Scene ω η}

lemma outcome_start_of_started (h : scene.handles.isStarted keeper.key = true) :
    keeper.start.outcome scene = (.ok (), scene) := by
  rw [start, Action.outcome_get_bind, h]
  rfl

lemma outcome_start_of_not_started (h : scene.handles.isStarted keeper.key = false) :
    keeper.start.outcome scene = keeper.enroll.outcome scene := by
  rw [start, Action.outcome_get_bind, h]
  rfl

/-- Without a transaction there is nothing to end. -/
lemma outcome_finish_none (conclude : α → Action ω Unit)
    (h : scene.handles.get? keeper.kind keeper.key = none) :
    (keeper.finish conclude).outcome scene = (.ok (), scene) := by
  have htake : (Scene.take keeper.kind keeper.key).outcome scene = (.ok none, scene) := by
    show (Except.ok (scene.handles.take keeper.kind keeper.key).1,
      (⟨scene.world, (scene.handles.take keeper.kind keeper.key).2⟩ : Scene ω η)) = _
    rw [Handles.take, h]
  rw [finish, Action.outcome_bind_ok htake]
  rfl

/-- A transaction is gone when it is ended, even if that fails. -/
lemma outcome_finish_some (conclude : α → Action ω Unit) {a : α}
    (h : scene.handles.get? keeper.kind keeper.key = some a) :
    (keeper.finish conclude).outcome scene =
      (Scene.onWorld (conclude a)).outcome ⟨scene.world, scene.handles.remove keeper.key⟩ := by
  have htake : (Scene.take keeper.kind keeper.key).outcome scene =
      (.ok (some a), ⟨scene.world, scene.handles.remove keeper.key⟩) := by
    show (Except.ok (scene.handles.take keeper.kind keeper.key).1,
      (⟨scene.world, (scene.handles.take keeper.kind keeper.key).2⟩ : Scene ω η)) = _
    rw [Handles.take, h]
  rw [finish, Action.outcome_bind_ok htake]

/-- A transaction that is not there cannot be looked at, nor changed. -/
lemma outcome_run_missing {task : Task ω α} (htask : task.isAccess = true)
    (h : scene.handles.get? keeper.kind keeper.key = none) :
    (keeper.run task).outcome scene = (.error (.missingHandle keeper.key), scene) := by
  have hhandle := Scene.outcome_handle_none h
  cases task with
  | look work => exact Action.outcome_bind_error hhandle
  | change step => exact Action.outcome_bind_error hhandle
  | _ => cases htask

lemma outcome_run_change (step : α → Except Fault α) {a : α}
    (h : scene.handles.get? keeper.kind keeper.key = some a) :
    (keeper.run (.change step)).outcome scene =
      match step a with
      | .ok b => (.ok (), ⟨scene.world, scene.handles.set keeper.key (keeper.kind.wrap b)⟩)
      | .error fault => (.error fault, scene) := by
  rw [run, Action.outcome_bind_ok (Scene.outcome_handle_some h)]
  cases step a <;> rfl

end Keeper

/-! ## What is watched is what is done -/

namespace Watched

lemma matches_lift (x : Action ω α) : Matches WorldSees (lift x) x := by
  rintro watched _ rfl
  rw [lift, Action.outcome_within]
  exact ⟨rfl, rfl⟩

lemma matches_tell (duty : Duty) (key : String) (x : Action ω α) :
    Matches WorldSees (tell duty key x) x := by
  rintro watched _ rfl
  simp only [Action.outcome, tell]
  cases x watched.world <;> exact ⟨rfl, rfl⟩

lemma matches_onWorld {x : Action (Watched ω) α} {y : Action ω α} (h : Matches WorldSees x y) :
    Matches (SceneSees (η := η)) (Scene.onWorld x) (Scene.onWorld y) := by
  rintro scene _ rfl
  obtain ⟨hvalue, hworld⟩ := h scene.world scene.world.world rfl
  rw [Scene.outcome_onWorld, Scene.outcome_onWorld]
  refine ⟨hvalue, ?_⟩
  show Scene.mk (x.outcome scene.world).2.world scene.handles = _
  rw [show (x.outcome scene.world).2.world = _ from hworld]
  rfl

lemma matches_onHandles (change : Handles η → Handles η) :
    Matches (SceneSees (ω := ω)) (Scene.onHandles change) (Scene.onHandles change) := by
  rintro scene _ rfl
  exact ⟨rfl, rfl⟩

lemma matches_take (kind : HandleKind η α) (key : String) :
    Matches (SceneSees (ω := ω)) (Scene.take kind key) (Scene.take kind key) := by
  rintro scene _ rfl
  exact ⟨rfl, rfl⟩

lemma matches_handle (kind : HandleKind η α) (key : String) :
    Matches (SceneSees (ω := ω)) (Scene.handle kind key) (Scene.handle kind key) := by
  rintro scene _ rfl
  cases h : scene.handles.get? kind key with
  | none =>
    have h' : (unwatch scene).handles.get? kind key = none := h
    rw [Scene.outcome_handle_none h, Scene.outcome_handle_none h']
    exact ⟨rfl, rfl⟩
  | some a =>
    have h' : (unwatch scene).handles.get? kind key = some a := h
    rw [Scene.outcome_handle_some h, Scene.outcome_handle_some h']
    exact ⟨rfl, rfl⟩

end Watched

namespace Keeper

open Watched

lemma matches_enroll (keeper : Keeper ω η α) :
    Matches SceneSees keeper.watched.enroll keeper.enroll :=
  (matches_onWorld (matches_tell _ _ _)).bind fun _ => matches_onHandles _

lemma matches_start (keeper : Keeper ω η α) :
    Matches SceneSees keeper.watched.start keeper.start := by
  rintro scene _ rfl
  cases h : scene.handles.isStarted keeper.key with
  | true =>
    have h' : (unwatch scene).handles.isStarted keeper.key = true := h
    rw [keeper.watched.outcome_start_of_started h, keeper.outcome_start_of_started h']
    exact ⟨rfl, rfl⟩
  | false =>
    have h' : (unwatch scene).handles.isStarted keeper.key = false := h
    rw [keeper.watched.outcome_start_of_not_started h, keeper.outcome_start_of_not_started h']
    exact keeper.matches_enroll scene _ rfl

lemma matches_finish (keeper : Keeper ω η α) {conclude : α → Action (Watched ω) Unit}
    {conclude' : α → Action ω Unit} (h : ∀ a, Matches WorldSees (conclude a) (conclude' a)) :
    Matches SceneSees (keeper.watched.finish conclude) (keeper.finish conclude') := by
  refine (matches_take keeper.kind keeper.key).bind fun taken => ?_
  cases taken with
  | some a => exact matches_onWorld (h a)
  | none => exact .pure ()

lemma matches_run (keeper : Keeper ω η α) (task : Task ω α) :
    Matches SceneSees (keeper.watched.run task.watched) (keeper.run task) := by
  cases task with
  | look work =>
    exact (matches_handle keeper.kind keeper.key).bind fun a => matches_onWorld (matches_lift _)
  | change step =>
    refine (matches_handle keeper.kind keeper.key).bind fun a => Matches.bind ?_ fun b =>
      matches_onHandles _
    cases step a with
    | ok b => exact .pure b
    | error fault => exact .throw fault
  | commit => exact keeper.matches_finish fun a => matches_tell _ _ _
  | rollback => exact keeper.matches_finish fun a => matches_tell _ _ _
  | drop => exact matches_onHandles fun handles => handles.remove keeper.key

lemma matches_runAll (keeper : Keeper ω η α) (tasks : List (Task ω α)) :
    Matches SceneSees (keeper.watched.runAll (tasks.map Task.watched)) (keeper.runAll tasks) := by
  induction tasks with
  | nil => exact .pure ()
  | cons task rest ih => exact (keeper.matches_run task).bind fun _ => ih

end Keeper

/-- An errand that is watched does what the errand does. -/
theorem Errand.matches_run (errand : Errand ω η) :
    Matches SceneSees errand.watched.run errand.run :=
  (Watched.matches_onWorld (Watched.matches_lift _)).bind fun _ =>
    (errand.keeper.matches_start.ite (.pure ())).bind fun _ =>
      errand.keeper.matches_runAll errand.tasks

end LinkedNotes.Transaction
