import LinkedNotes.Database.Connection
import LinkedNotes.Proofs.Transaction.Errand
import LinkedNotes.Store.Snapshot
import Mathlib.Data.List.Induction

/-!
# The tenure of transactions

The two stores in databases and the backends with snapshots, visited in any order on one context.
Under each key one transaction is opened at most, and one commit or rollback reaches it. Once its
handle is gone, it is missed and not opened anew (`tenure_account`).
-/

namespace LinkedNotes.Transaction

open LinkedNotes.Action (Matches)
open Database (Source Held relationalController graphController)
open Store (Snapshot)
open Watched (SceneSees)

variable {ω η σ τ α : Type}

/-! ## Visits -/

/-- Do what a controller can be asked to. -/
def Controller.perform (controller : Controller ω η) : Duty → Action (Scene ω η) Unit
  | .begin => controller.begin
  | .ensureStarted => controller.ensureStarted
  | .commit => controller.commit
  | .rollback => controller.rollback
  | .close => controller.close
  | .flush => controller.flush

/-- A call to a controller, or a use of its transaction. -/
inductive Request (ω α : Type) where
  | call (duty : Duty)
  | use (work : α → Action ω Unit)

/-- What is asked of one of the backends that share a context. -/
inductive Visit : Type → Type → Type 1 where
  | relational {ω τ : Type} (source : Source ω τ) (request : Request ω τ) : Visit ω (Held τ)
  | graph {ω τ : Type} (source : Source ω τ) (request : Request ω τ) : Visit ω (Held τ)
  | memory {σ η α : Type} (snapshot : Snapshot σ η α) (request : Request (Bench σ) α) :
    Visit (Bench σ) η
  /-- The working copy is changed. -/
  | change {σ η α : Type} (snapshot : Snapshot σ η α) (step : α → Except Fault α) :
    Visit (Bench σ) η
  /-- The backend is made to flush, which a unit of work does not ask of one that is not eager. -/
  | flush {σ η α : Type} (snapshot : Snapshot σ η α) : Visit (Bench σ) η

namespace Visit

/-- Make the visit. -/
def run : {ω η : Type} → Visit ω η → Action (Scene ω η) Unit
  | _, _, relational source (.call duty) => (relationalController source).perform duty
  | _, _, relational source (.use work) => do
    Scene.onWorld (work (← Database.transaction source "sql"))
  | _, _, graph source (.call duty) => (graphController source).perform duty
  | _, _, graph source (.use work) => do
    Scene.onWorld (work (← Database.transaction source "graph"))
  | _, _, memory snapshot (.call duty) => snapshot.controller.perform duty
  | _, _, memory snapshot (.use work) => do Scene.onWorld (work (← snapshot.copy))
  | _, _, change snapshot step => snapshot.tryChange step
  | _, _, flush snapshot => do
    Bench.record "flush" snapshot.key
    snapshot.start

/-- The key of the transaction that the visit needs to get at, if it does. -/
def accessed? : {ω η : Type} → Visit ω η → Option String
  | _, _, relational _ (.use _) => some "sql"
  | _, _, graph _ (.use _) => some "graph"
  | _, _, memory snapshot (.use _) => some snapshot.key
  | _, _, change snapshot _ => some snapshot.key
  | _, _, _ => none

end Visit

/-! ## Visits are errands -/

/-- The keeper of the transactions of a source. -/
def keeperOf (source : Source ω τ) (key : String) : Keeper ω (Held τ) τ where
  key := key
  kind := Held.transactionKind
  acquire := source.acquire
  commit := source.commit
  rollback := source.rollback

/-- Write down a call on a bench. -/
def jot (call key : String) : Action (Bench σ) Unit :=
  modify fun bench => { bench with calls := bench.calls ++ [Bench.spell call key] }

/-- The keeper of working copies. A commit publishes the copy, a rollback leaves it. -/
def copyist (snapshot : Snapshot σ η α) : Keeper (Bench σ) η α where
  key := snapshot.key
  kind := snapshot.kind
  acquire := do
    jot "start" snapshot.key
    pure (snapshot.committed (← get).store)
  commit copy := modify fun bench => { bench with store := snapshot.publish copy bench.store }
  rollback _ := pure ()

namespace Visit

/-- What the relational store has its keeper do. -/
def relationalErrand (source : Source ω τ) : Request ω τ → Errand ω (Held τ)
  | .call .begin | .call .ensureStarted => { keeper := keeperOf source "sql", starts := true }
  | .call .commit => { keeper := keeperOf source "sql", tasks := [.commit] }
  | .call .rollback => { keeper := keeperOf source "sql", tasks := [.rollback] }
  | .call .close => { keeper := keeperOf source "sql" }
  | .call .flush =>
    { keeper := keeperOf source "sql", starts := true, tasks := [.look source.check] }
  | .use work => { keeper := keeperOf source "sql", starts := true, tasks := [.look work] }

/-- What the graph has its keeper do. -/
def graphErrand (source : Source ω τ) : Request ω τ → Errand ω (Held τ)
  | .call .begin | .call .flush => { keeper := keeperOf source "graph" }
  | .call .ensureStarted => { keeper := keeperOf source "graph", starts := true }
  | .call .commit => { keeper := keeperOf source "graph", tasks := [.commit] }
  | .call .rollback => { keeper := keeperOf source "graph", tasks := [.rollback] }
  | .call .close => { keeper := keeperOf source "graph", tasks := [.drop] }
  | .use work => { keeper := keeperOf source "graph", starts := true, tasks := [.look work] }

/-- What a backend with snapshots has its keeper do. -/
def memoryErrand (snapshot : Snapshot σ η α) : Request (Bench σ) α → Errand (Bench σ) η
  | .call .begin =>
    { keeper := copyist snapshot, prelude := jot "begin" snapshot.key, starts := snapshot.eager }
  | .call .ensureStarted => { keeper := copyist snapshot, starts := true }
  | .call .commit =>
    { keeper := copyist snapshot, prelude := jot "commit" snapshot.key, tasks := [.commit] }
  | .call .rollback =>
    { keeper := copyist snapshot, prelude := jot "rollback" snapshot.key,
      tasks := [.rollback, .drop] }
  | .call .close =>
    { keeper := copyist snapshot, prelude := jot "close" snapshot.key, tasks := [.drop] }
  | .call .flush =>
    { keeper := copyist snapshot,
      prelude := if snapshot.eager then jot "flush" snapshot.key else pure (),
      starts := snapshot.eager }
  | .use work => { keeper := copyist snapshot, starts := true, tasks := [.look work] }

/-- What the keeper of the backend is asked to do. -/
def errand : {ω η : Type} → Visit ω η → Errand ω η
  | _, _, relational source request => relationalErrand source request
  | _, _, graph source request => graphErrand source request
  | _, _, memory snapshot request => memoryErrand snapshot request
  | _, _, change snapshot step =>
    { keeper := copyist snapshot, starts := true, tasks := [.change step] }
  | _, _, flush snapshot =>
    { keeper := copyist snapshot, prelude := jot "flush" snapshot.key, starts := true }

end Visit

/-! ## Errands at one go -/

namespace Errand

variable (keeper : Keeper ω η α)

/-- An errand without tasks sees to it that the transaction is there, if it is needed. -/
lemma run_nil (prelude : Action ω Unit) (starts : Bool) :
    ({ keeper, prelude, starts } : Errand ω η).run =
      (Scene.onWorld prelude >>= fun _ => if starts then keeper.start else pure ()) := by
  show (Scene.onWorld prelude >>= fun _ =>
    (if starts then keeper.start else pure ()) >>= fun _ => pure ()) = _
  rw [bind_pure_unit]

lemma run_singleton (prelude : Action ω Unit) (task : Task ω α) :
    ({ keeper, prelude, tasks := [task] } : Errand ω η).run =
      (Scene.onWorld prelude >>= fun _ => keeper.run task) := by
  show (Scene.onWorld prelude >>= fun _ => pure () >>= fun _ =>
    keeper.run task >>= fun _ => pure ()) = _
  rw [pure_bind, bind_pure_unit]

/-- An errand that changes the transaction opens it, gets it and puts another one in its place. -/
lemma run_change (step : α → Except Fault α) :
    ({ keeper, starts := true, tasks := [.change step] } : Errand ω η).run =
      ((keeper.start >>= fun _ => Scene.handle keeper.kind keeper.key) >>= fun a => do
        let b ← Action.ofExcept (step a)
        Scene.onHandles (·.set keeper.key (keeper.kind.wrap b))) := by
  show (pure () >>= fun _ => keeper.start >>= fun _ =>
    keeper.run (.change step) >>= fun _ => pure ()) = _
  rw [pure_bind, bind_pure_unit]
  exact (bind_assoc _ _ _).symm

/-- An errand that looks at the transaction opens it, gets it and does something with it. -/
lemma run_look (work : α → Action ω Unit) :
    ({ keeper, starts := true, tasks := [.look work] } : Errand ω η).run =
      ((keeper.start >>= fun _ => Scene.handle keeper.kind keeper.key) >>= fun a =>
        Scene.onWorld (work a)) := by
  show (pure () >>= fun _ => keeper.start >>= fun _ =>
    keeper.run (.look work) >>= fun _ => pure ()) = _
  rw [pure_bind, bind_pure_unit]
  exact (bind_assoc _ _ _).symm

end Errand

namespace Visit

lemma run_relationalErrand (source : Source ω τ) (request : Request ω τ) :
    (relationalErrand source request).run = (relational source request).run := by
  cases request with
  | use work => exact Errand.run_look _ work
  | call duty =>
    cases duty with
    | begin => exact Errand.run_nil _ _ true
    | ensureStarted => exact Errand.run_nil _ _ true
    | commit => exact Errand.run_singleton _ _ _
    | rollback => exact Errand.run_singleton _ _ _
    | close => rfl
    | flush => exact Errand.run_look _ source.check

lemma run_graphErrand (source : Source ω τ) (request : Request ω τ) :
    (graphErrand source request).run = (graph source request).run := by
  cases request with
  | use work => exact Errand.run_look _ work
  | call duty =>
    cases duty with
    | begin => rfl
    | ensureStarted => exact Errand.run_nil _ _ true
    | commit => exact Errand.run_singleton _ _ _
    | rollback => exact Errand.run_singleton _ _ _
    | close => exact Errand.run_singleton _ _ _
    | flush => rfl

/-- Nothing is left to drop once the working copy was taken out. -/
lemma finish_drop (snapshot : Snapshot σ η α) :
    ((copyist snapshot).finish (copyist snapshot).rollback >>= fun _ =>
        Scene.onHandles (·.remove snapshot.key)) =
      (Scene.onHandles (·.remove snapshot.key) : Action (Scene (Bench σ) η) Unit) := by
  refine Action.ext_outcome fun scene => ?_
  cases hget : scene.handles.get? snapshot.kind snapshot.key with
  | none =>
    rw [Action.outcome_bind_ok ((copyist snapshot).outcome_finish_none _ hget)]
  | some a =>
    have hfinish := (copyist snapshot).outcome_finish_some
      (copyist snapshot).rollback hget
    rw [Action.outcome_bind_ok hfinish]
    show (Except.ok (), Scene.mk scene.world
      ((scene.handles.remove snapshot.key).remove snapshot.key)) = _
    rw [Handles.remove_remove]
    rfl

lemma run_memoryErrand (snapshot : Snapshot σ η α) (request : Request (Bench σ) α) :
    (memoryErrand (η := η) snapshot request).run = (memory snapshot request).run := by
  cases request with
  | use work => exact Errand.run_look _ work
  | call duty =>
    cases duty with
    | begin => exact Errand.run_nil _ _ _
    | ensureStarted => exact Errand.run_nil _ _ true
    | commit =>
      refine (Errand.run_singleton _ _ _).trans (bind_congr fun _ => bind_congr fun taken => ?_)
      cases taken <;> rfl
    | rollback =>
      show (Scene.onWorld _ >>= fun _ => pure () >>= fun _ =>
        (copyist snapshot).finish (copyist snapshot).rollback >>= fun _ =>
          Scene.onHandles (·.remove snapshot.key) >>= fun _ => pure ()) = _
      rw [bind_pure_unit, pure_bind, finish_drop]
      rfl
    | close => exact Errand.run_singleton _ _ _
    | flush =>
      refine (Errand.run_nil _ _ _).trans ?_
      show _ = Option.getD (if snapshot.eager then some _ else none) (pure ())
      cases snapshot.eager <;> rfl

/-- What a visit does is an errand of a keeper. -/
theorem run_errand {ω η : Type} (visit : Visit ω η) : visit.errand.run = visit.run := by
  cases visit with
  | relational source request => exact run_relationalErrand source request
  | graph source request => exact run_graphErrand source request
  | memory snapshot request => exact run_memoryErrand snapshot request
  | change snapshot step => exact Errand.run_change _ step
  | flush snapshot => exact Errand.run_nil _ _ true

/-- The visit, where it is written down when a transaction is opened and ended. -/
def watched (visit : Visit ω η) : Action (Scene (Watched ω) η) Unit := visit.errand.watched.run

/-- A visit that is watched does what the visit does. -/
theorem matches_watched (visit : Visit ω η) : Matches SceneSees visit.watched visit.run := by
  rw [← visit.run_errand]
  exact visit.errand.matches_run

/-- The scene after the visit. -/
def after (visit : Visit ω η) (scene : Scene ω η) : Scene ω η := (visit.run.outcome scene).2

/-- The calls in the visit that open a transaction or end one, whether or not they fail. -/
def calls (visit : Visit ω η) (scene : Scene ω η) : List Entry :=
  (visit.watched.outcome ⟨{ world := scene.world }, scene.handles⟩).2.world.log

/-- All that a visit does. -/
theorem ran (visit : Visit ω η) (scene : Scene ω η) :
    Ran visit.errand.keeper.key scene.handles (visit.calls scene) (visit.run.outcome scene).1
      (visit.after scene).handles := by
  obtain ⟨calls, hlog, hran⟩ :=
    visit.errand.runs_watched ⟨{ world := scene.world }, scene.handles⟩
  obtain ⟨hresult, hscene⟩ :=
    visit.matches_watched ⟨{ world := scene.world }, scene.handles⟩ scene rfl
  rw [after, ← hresult, ← hscene, Visit.calls, watched, hlog]
  exact hran

/-- A visit to get at a transaction does nothing else before. -/
lemma isAccess_errand {ω η : Type} (visit : Visit ω η) {key : String}
    (h : visit.accessed? = some key) : visit.errand.IsAccess ∧ visit.errand.keeper.key = key := by
  cases visit with
  | relational source request =>
    cases request with
    | call duty => cases h
    | use work => exact ⟨⟨rfl, rfl, _, _, rfl, rfl⟩, Option.some.inj h⟩
  | graph source request =>
    cases request with
    | call duty => cases h
    | use work => exact ⟨⟨rfl, rfl, _, _, rfl, rfl⟩, Option.some.inj h⟩
  | memory snapshot request =>
    cases request with
    | call duty => cases h
    | use work => exact ⟨⟨rfl, rfl, _, _, rfl, rfl⟩, Option.some.inj h⟩
  | change snapshot step => exact ⟨⟨rfl, rfl, _, _, rfl, rfl⟩, Option.some.inj h⟩
  | flush snapshot => cases h

/-- A transaction that is gone is missed by every visit that needs to get at it. -/
lemma missed_of_gone {visit : Visit ω η} {scene : Scene ω η} {key : String}
    (haccess : visit.accessed? = some key) (hgone : Gone key scene.handles) :
    visit.run.outcome scene = (.error (.missingHandle key), scene) ∧ visit.calls scene = [] := by
  obtain ⟨hisAccess, rfl⟩ := visit.isAccess_errand haccess
  constructor
  · rw [← visit.run_errand]
    exact hisAccess.outcome_of_gone scene hgone
  · have hwatched := hisAccess.watched.outcome_of_gone
      ⟨{ world := scene.world }, scene.handles⟩ hgone
    rw [Visit.calls, watched, hwatched]

end Visit

/-! ## Accounts -/

/-- A context and its world after some visits, and the calls in them. -/
structure Account (ω η : Type) where
  scene : Scene ω η
  log : List Entry := []

/-- Make one more visit. -/
def Account.next (account : Account ω η) (visit : Visit ω η) : Account ω η where
  scene := visit.after account.scene
  log := account.log ++ visit.calls account.scene

/-- What comes of visits on an empty context. -/
def account (visits : List (Visit ω η)) (world : ω) : Account ω η :=
  visits.foldl Account.next { scene := ⟨world, {}⟩ }

/-- What holds of the transactions of backends after any visits. -/
structure Tenure (visits : List (Visit ω η)) (world : ω) : Prop where
  /-- Under each key a transaction was opened once at most, and then a commit or a rollback reached
  it once at most. -/
  once : ∀ key, deedsOf key (account visits world).log <+: [.opened, .ended]
  /-- The context says that a backend was started exactly if its transaction was opened. -/
  started_iff : ∀ key, (account visits world).scene.handles.isStarted key = true ↔
    .opened ∈ deedsOf key (account visits world).log
  /-- The context holds only what no commit and no rollback has reached. -/
  held : ∀ key, (account visits world).scene.handles.has key = true →
    deedsOf key (account visits world).log = [.opened]
  /-- If a transaction cannot be opened, the visit fails and leaves the context as it was. -/
  refused : ∀ visit : Visit ω η, ∀ entry ∈ visit.calls (account visits world).scene,
    entry.duty = .ensureStarted → ∀ fault, entry.fault? = some fault →
      (visit.run.outcome (account visits world).scene).1 = .error fault ∧
        (visit.after (account visits world).scene).handles = (account visits world).scene.handles
  /-- Once a visit has taken out what a key held, it is missed, and nothing is opened for it. -/
  missed : ∀ (visit : Visit ω η) (key : String),
    (account visits world).scene.handles.has key = true →
    (visit.after (account visits world).scene).handles.has key = false →
    ∀ (later : List (Visit ω η)) (access : Visit ω η), access.accessed? = some key →
      let scene := (account (visits ++ visit :: later) world).scene
      access.run.outcome scene = (.error (.missingHandle key), scene) ∧ access.calls scene = []

/-- What is gone stays gone. -/
lemma gone_foldl (account : Account ω η) {key : String} (h : Gone key account.scene.handles)
    (later : List (Visit ω η)) : Gone key (later.foldl Account.next account).scene.handles := by
  induction later generalizing account with
  | nil => exact h
  | cons visit rest ih => exact ih _ (h.does (visit.ran account.scene).does)

/-- The stage of the transaction under each key, after any visits. -/
theorem stage_account (visits : List (Visit ω η)) (world : ω) (key : String) :
    Stage key (account visits world).scene.handles (account visits world).log := by
  induction visits using List.reverseRecOn with
  | nil => exact .fresh rfl rfl rfl
  | append_singleton visits visit ih =>
    rw [account, List.foldl_append]
    exact ih.does (visit.ran _).does

/-- Whatever the databases do and whenever they fail, and whatever is asked of the backends in
whatever order, each of them has one transaction for an operation. -/
theorem tenure_account (visits : List (Visit ω η)) (world : ω) :
    (∀ visit : Visit ω η, visit.errand.run = visit.run ∧
      Matches SceneSees visit.watched visit.run) ∧ Tenure visits world := by
  have hstage := stage_account visits world
  refine ⟨fun visit => ⟨visit.run_errand, visit.matches_watched⟩,
    fun key => (hstage key).once, fun key => (hstage key).isStarted_iff,
    fun key hhas => ((hstage key).of_has hhas).2, ?_, ?_⟩
  · intro visit entry hmem hduty fault hfault
    exact (visit.ran _).refused entry hmem hduty fault hfault
  · intro visit key hhas hmissing later access haccess
    have hgone : Gone key (visit.after (account visits world).scene).handles :=
      ⟨(visit.ran _).does.isStarted ((hstage key).of_has hhas).1, hmissing⟩
    refine Visit.missed_of_gone haccess ?_
    rw [account, List.foldl_append]
    exact gone_foldl ((account visits world).next visit) hgone later

/-- A transaction is opened when it is used first. After the commit, neither a use nor a rollback
gets at one. -/
example :
    let source : Source Unit Unit := ⟨pure (), fun _ => pure (), fun _ => pure (), fun _ => pure ()⟩
    let use := Visit.graph source (.use fun _ => pure ())
    (account [.graph source (.call .begin), use, use, .graph source (.call .commit), use,
      .graph source (.call .rollback)] ()).log =
        [⟨.ensureStarted, "graph", none⟩, ⟨.commit, "graph", none⟩] := by
  decide

end LinkedNotes.Transaction
