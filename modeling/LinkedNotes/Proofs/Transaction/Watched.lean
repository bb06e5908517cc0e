import LinkedNotes.Proofs.Transaction.Outcomes

/-!
# Watched controllers

Controllers that write down in the world each call they get and what came of it. They do what the
controllers they stand for do (`matches_commit`, `matches_complete` and the like), so the log tells
what a unit of work asks of its controllers, whatever they are and whenever they fail.
-/

namespace LinkedNotes.Transaction

open LinkedNotes.Action (Matches)

/-- What a controller can be asked to do. -/
inductive Duty where
  | begin
  | ensureStarted
  | commit
  | rollback
  | close
  | flush
  deriving DecidableEq

/-- A call that a controller got, and the fault if it failed. -/
structure Entry where
  duty : Duty
  key : String
  fault? : Option Fault := none
  deriving DecidableEq

/-- A world with a log of the calls to controllers, the latest last. -/
structure Watched (ω : Type) where
  world : ω
  log : List Entry := []

variable {ω η α : Type}

namespace Watched

/-- A scene without its log. -/
def unwatch (scene : Scene (Watched ω) η) : Scene ω η := ⟨scene.world.world, scene.handles⟩

/-- A scene with another one in the place of what is watched. -/
def rewatch (inner : Scene ω η) (scene : Scene (Watched ω) η) : Scene (Watched ω) η :=
  ⟨{ scene.world with world := inner.world }, inner.handles⟩

/-- Write a call down. -/
def note (entry : Entry) : Action (Scene (Watched ω) η) Unit :=
  modify fun scene => { scene with
    world := { scene.world with log := scene.world.log ++ [entry] } }

/-- The fault of a call. -/
def faultOf : Except Fault Unit → Option Fault
  | .ok () => none
  | .error fault => some fault

/-- Do what a controller is asked to, and write down the call. -/
def serve (duty : Duty) (key : String) (x : Action (Scene ω η) Unit) :
    Action (Scene (Watched ω) η) Unit := do
  let result ← (x.within unwatch rewatch).attempt
  note ⟨duty, key, faultOf result⟩
  Action.ofExcept result

/-- What is done to the watched scene is not written down by itself. -/
lemma outcome_within (x : Action (Scene ω η) α) (scene : Scene (Watched ω) η) :
    (x.within unwatch rewatch).outcome scene =
      ((x.outcome (unwatch scene)).1, rewatch (x.outcome (unwatch scene)).2 scene) :=
  Action.outcome_within unwatch rewatch x scene

/-- What is done is written down with what comes of it. -/
lemma exists_outcome_serve (duty : Duty) (key : String) (x : Action (Scene ω η) Unit)
    (scene : Scene (Watched ω) η) : ∃ result after,
      (serve duty key x).outcome scene = (result, after) ∧
        unwatch after = (x.outcome (unwatch scene)).2 ∧ result = (x.outcome (unwatch scene)).1 ∧
          after.world.log = scene.world.log ++ [⟨duty, key, faultOf result⟩] := by
  have hattempt := Action.outcome_attempt (x.within unwatch rewatch) scene
  rw [outcome_within] at hattempt
  rw [serve, Action.outcome_bind_ok hattempt]
  cases (x.outcome (unwatch scene)).1 <;> exact ⟨_, _, rfl, rfl, rfl, rfl⟩

/-- The scene without its log is the other one. -/
def SceneSees (scene : Scene (Watched ω) η) (inner : Scene ω η) : Prop := unwatch scene = inner

lemma matches_within (x : Action (Scene ω η) α) :
    Matches SceneSees (x.within unwatch rewatch) x := by
  rintro scene _ rfl
  rw [outcome_within]
  exact ⟨rfl, rfl⟩

lemma matches_serve (duty : Duty) (key : String) (x : Action (Scene ω η) Unit) :
    Matches SceneSees (serve duty key x) x := by
  rintro scene _ rfl
  obtain ⟨result, after, hserve, hafter, hresult, -⟩ := exists_outcome_serve duty key x scene
  rw [hserve]
  exact ⟨hresult, hafter⟩

end Watched

open Watched (SceneSees matches_serve)

/-! ## Controllers -/

/-- The controller, with the calls it gets written down. -/
def Controller.watched (controller : Controller ω η) : Controller (Watched ω) η where
  key := controller.key
  begin := Watched.serve .begin controller.key controller.begin
  ensureStarted := Watched.serve .ensureStarted controller.key controller.ensureStarted
  commit := Watched.serve .commit controller.key controller.commit
  rollback := Watched.serve .rollback controller.key controller.rollback
  close := Watched.serve .close controller.key controller.close
  flush? := controller.flush?.map (Watched.serve .flush controller.key)

/-- The unit of work, with the calls that its controllers get written down. -/
def Coordinator.watched (coordinator : Coordinator ω η) : Coordinator (Watched ω) η where
  controllers := coordinator.controllers.map Controller.watched
  flushKey := coordinator.flushKey

/-- The session, with nothing written down yet. -/
def Session.watched (session : Session ω η) : Session (Watched ω) η :=
  ⟨{ world := session.world }, session.work⟩

/-- The session without its log. -/
def Session.unwatched (session : Session (Watched ω) η) : Session ω η :=
  ⟨session.world.world, session.work⟩

/-- The session without its log is the other one. -/
def SessionSees (session : Session (Watched ω) η) (inner : Session ω η) : Prop :=
  session.unwatched = inner

/-! ## Sessions -/

namespace Session

lemma matches_onScene {x : Action (Scene (Watched ω) η) α} {y : Action (Scene ω η) α}
    (h : Matches SceneSees x y) : Matches SessionSees (onScene x) (onScene y) := by
  rintro session _ rfl
  obtain ⟨hvalue, hscene⟩ := h session.scene _ rfl
  rw [outcome_onScene, outcome_onScene]
  refine ⟨hvalue, ?_⟩
  show unwatched _ = _
  rw [show session.unwatched.scene = Watched.unwatch session.scene from rfl, ← hscene]
  rfl

lemma matches_phase : Matches SessionSees (phase (ω := Watched ω) (η := η)) phase := by
  rintro session _ rfl
  exact ⟨rfl, rfl⟩

lemma matches_setPhase (next : Phase) :
    Matches SessionSees (setPhase (ω := Watched ω) (η := η) next) (setPhase next) := by
  rintro session _ rfl
  exact ⟨rfl, rfl⟩

lemma matches_onContext (change : Context η → Context η) :
    Matches SessionSees (onContext (ω := Watched ω) change) (onContext change) := by
  rintro session _ rfl
  exact ⟨rfl, rfl⟩

end Session

/-! ## Units of work -/

namespace Coordinator

lemma matches_beginAll (controllers : List (Controller ω η)) :
    Matches SceneSees (beginAll (controllers.map Controller.watched)) (beginAll controllers) := by
  induction controllers with
  | nil => exact .pure ()
  | cons controller rest ih => exact (matches_serve _ _ _).bind fun _ => ih

lemma matches_commitAll (controllers : List (Controller ω η)) :
    Matches SceneSees (commitAll (controllers.map Controller.watched))
      (commitAll controllers) := by
  induction controllers with
  | nil => exact .pure _
  | cons controller rest ih =>
    refine (matches_serve _ _ _).attempt.bind fun result => ?_
    cases result with
    | error fault => exact .pure _
    | ok _ => exact ih.bind fun _ => .pure _

lemma matches_sweep {f : Controller (Watched ω) η → Action (Scene (Watched ω) η) Unit}
    {g : Controller ω η → Action (Scene ω η) Unit}
    (h : ∀ controller, Matches SceneSees (f controller.watched) (g controller))
    (controllers : List (Controller ω η)) :
    Matches SceneSees (sweep f (controllers.map Controller.watched)) (sweep g controllers) := by
  induction controllers with
  | nil => exact .pure _
  | cons controller rest ih =>
    refine (h controller).attempt.bind fun result => ?_
    cases result with
    | error fault => exact ih.discard.bind fun _ => .pure _
    | ok _ => exact ih

variable (coordinator : Coordinator ω η)

lemma matches_closeAll : Matches SceneSees coordinator.watched.closeAll coordinator.closeAll := by
  unfold closeAll watched
  rw [← List.map_reverse]
  exact matches_sweep (fun _ => matches_serve _ _ _) _

lemma matches_rollbackAll :
    Matches SceneSees coordinator.watched.rollbackAll coordinator.rollbackAll := by
  unfold rollbackAll watched
  rw [← List.map_reverse]
  exact matches_sweep (fun _ => matches_serve _ _ _) _

lemma matches_settle (fault? : Option Fault) :
    Matches SessionSees (settle (ω := Watched ω) (η := η) fault?) (settle fault?) := by
  cases fault? with
  | none => exact .pure ()
  | some fault => exact .throw fault

theorem matches_enter : Matches SessionSees coordinator.watched.enter coordinator.enter :=
  (Session.matches_onContext _).bind fun _ => (Session.matches_setPhase _).bind fun _ =>
    Session.matches_onScene (matches_beginAll _)

lemma matches_commitActive :
    Matches SessionSees coordinator.watched.commitActive coordinator.commitActive := by
  refine (Session.matches_onScene (matches_commitAll _)).bind fun committed => ?_
  refine (Session.matches_onScene coordinator.matches_closeAll).bind fun closing => ?_
  obtain ⟨keys, failure⟩ := committed
  cases failure with
  | none =>
    exact (Session.matches_setPhase _).bind fun _ =>
      (Session.matches_onContext _).bind fun _ => matches_settle _
  | some failure => exact (Matches.throw _).ite (.throw _)

theorem matches_commit : Matches SessionSees coordinator.watched.commit coordinator.commit := by
  refine Session.matches_phase.bind fun phase => ?_
  cases phase with
  | ready => exact .throw _
  | active => exact coordinator.matches_commitActive
  | committed => exact .pure ()
  | rolledBack => exact .pure ()

lemma matches_rollbackActive :
    Matches SessionSees coordinator.watched.rollbackActive coordinator.rollbackActive :=
  (Session.matches_onScene coordinator.matches_rollbackAll).bind fun _ =>
    (Session.matches_onScene coordinator.matches_closeAll).bind fun _ =>
      (Session.matches_setPhase _).bind fun _ =>
        (Session.matches_onContext _).bind fun _ => matches_settle _

theorem matches_rollback :
    Matches SessionSees coordinator.watched.rollback coordinator.rollback := by
  refine Session.matches_phase.bind fun phase => ?_
  cases phase with
  | ready => exact .throw _
  | active => exact coordinator.matches_rollbackActive
  | committed => exact .pure ()
  | rolledBack => exact .pure ()

/-- The controller that is asked to flush is watched too. -/
lemma find?_watched (key : String) :
    Keyed.find? (·.key) key coordinator.watched.controllers =
      (Keyed.find? (·.key) key coordinator.controllers).map Controller.watched := by
  unfold watched Keyed.find?
  rw [List.find?_map]
  rfl

theorem matches_flush : Matches SessionSees coordinator.watched.flush coordinator.flush := by
  unfold flush
  rw [find?_watched, show coordinator.watched.flushKey = coordinator.flushKey from rfl]
  cases Keyed.find? (·.key) coordinator.flushKey coordinator.controllers with
  | none => exact .throw _
  | some controller =>
    refine Session.matches_onScene ?_
    unfold Controller.flush Controller.watched
    cases controller.flush? with
    | none => exact .pure ()
    | some flush => exact matches_serve _ _ _

lemma matches_undoFailed (result : Except Fault α) :
    Matches SessionSees (coordinator.watched.undoFailed result)
      (coordinator.undoFailed result) := by
  refine Session.matches_phase.bind fun phase => ?_
  cases result with
  | ok a => exact .pure ()
  | error fault =>
    cases phase with
    | active => exact coordinator.matches_rollback.attempt.discard
    | ready => exact .pure ()
    | committed => exact .pure ()
    | rolledBack => exact .pure ()

theorem matches_exit (result : Except Fault α) :
    Matches SessionSees (coordinator.watched.exit result) (coordinator.exit result) := by
  refine (coordinator.matches_undoFailed result).bind fun _ => ?_
  refine (Session.matches_onContext _).bind fun _ => ?_
  cases result with
  | ok a => exact .pure a
  | error fault => exact .throw fault

theorem matches_complete (result : Except Fault α) :
    Matches SessionSees (coordinator.watched.complete result) (coordinator.complete result) := by
  cases result with
  | error fault => exact coordinator.matches_exit _
  | ok a =>
    exact coordinator.matches_commit.attempt.bind fun committed => coordinator.matches_exit _

end Coordinator

end LinkedNotes.Transaction
