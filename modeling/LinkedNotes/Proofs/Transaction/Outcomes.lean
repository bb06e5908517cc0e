import LinkedNotes.Proofs.Transaction.Matching
import LinkedNotes.Transaction.UnitOfWork

/-!
# What comes of the steps of a unit of work

The outcome of each step, given that of the calls to all controllers that it makes. A step that does
not fit the phase leaves the session as it is.
-/

namespace LinkedNotes.Transaction

variable {ω η α : Type}

/-- The result of something that may have come to a fault. -/
def resultOf : Option Fault → Except Fault Unit
  | none => .ok ()
  | some fault => .error fault

/-! ## Scenes -/

namespace Scene

lemma outcome_onWorld (x : Action ω α) (scene : Scene ω η) :
    (onWorld x).outcome scene =
      ((x.outcome scene.world).1, ⟨(x.outcome scene.world).2, scene.handles⟩) :=
  Action.outcome_within _ _ x scene

lemma outcome_handle_none {kind : HandleKind η α} {key : String} {scene : Scene ω η}
    (h : scene.handles.get? kind key = none) :
    (handle kind key).outcome scene = (.error (.missingHandle key), scene) := by
  rw [handle, Action.outcome_get_bind, h]
  rfl

/-- A handle that is there is found. -/
lemma outcome_handle_some {kind : HandleKind η α} {key : String} {scene : Scene ω η} {a : α}
    (h : scene.handles.get? kind key = some a) :
    (handle kind key).outcome scene = (.ok a, scene) := by
  rw [handle, Action.outcome_get_bind, h]
  rfl

end Scene

/-! ## Sessions -/

namespace Session

lemma outcome_onScene (x : Action (Scene ω η) α) (session : Session ω η) :
    (onScene x).outcome session =
      ((x.outcome session.scene).1, session.withScene (x.outcome session.scene).2) :=
  Action.outcome_within scene withScene x session

lemma outcome_onScene_eq (session : Session ω η) {x : Action (Scene ω η) α} {r : Except Fault α}
    {after : Scene ω η} (h : x.outcome session.scene = (r, after)) :
    (onScene x).outcome session = (r, session.withScene after) := by
  rw [outcome_onScene, h]

lemma outcome_phase (session : Session ω η) :
    phase.outcome session = (.ok session.work.phase, session) := rfl

/-- The session with an empty context. -/
def cleared (session : Session ω η) : Session ω η :=
  ⟨session.world, { session.work with context := .empty }⟩

/-- The session that was committed. -/
def asCommitted (session : Session ω η) : Session ω η :=
  ⟨session.world, ⟨.committed, session.work.context.markCommitted⟩⟩

/-- The session that was rolled back. -/
def asRolledBack (session : Session ω η) : Session ω η :=
  ⟨session.world, ⟨.rolledBack, session.work.context.markRolledBack⟩⟩

end Session

namespace Coordinator

section Steps

variable {coordinator : Coordinator ω η} {session middle closed : Session ω η}
  {closing : Option Fault}

lemma outcome_settle (fault? : Option Fault) (session : Session ω η) :
    (settle fault?).outcome session = (resultOf fault?, session) := by
  cases fault? <;> rfl

/-! ## Commits -/

/-- The fault of a commit in which a controller failed after others had committed. -/
def reported (keys : List String) (failed : String) (fault : Fault) : Fault :=
  if keys = [] then fault else .partialCommit keys failed fault

/-- A unit of work that is not active does not commit. -/
lemma exists_commit_idle (coordinator : Coordinator ω η) (h : session.work.phase ≠ .active) :
    ∃ result, coordinator.commit.outcome session = (result, session) := by
  rw [commit, Action.outcome_bind_ok session.outcome_phase]
  cases hphase : session.work.phase with
  | active => exact absurd hphase h
  | ready => exact ⟨_, rfl⟩
  | committed => exact ⟨_, rfl⟩
  | rolledBack => exact ⟨_, rfl⟩

lemma outcome_commit_active (h : session.work.phase = .active) :
    coordinator.commit.outcome session = coordinator.commitActive.outcome session := by
  rw [commit, Action.outcome_bind_ok session.outcome_phase, h]

/-- If all controllers commit, so does the unit of work, even if one fails to close. -/
lemma outcome_commit_ok {keys : List String} (h : session.work.phase = .active)
    (hcommit : (Session.onScene (commitAll coordinator.controllers)).outcome session =
      (.ok (keys, none), middle))
    (hclose : (Session.onScene coordinator.closeAll).outcome middle = (.ok closing, closed)) :
    coordinator.commit.outcome session = (resultOf closing, closed.asCommitted) := by
  rw [outcome_commit_active h, commitActive, Action.outcome_bind_ok hcommit]
  dsimp only
  rw [Action.outcome_bind_ok hclose]
  exact outcome_settle closing _

/-- If a controller fails to commit, the unit of work stays active. -/
lemma outcome_commit_error {keys : List String} {failed : String} {fault : Fault}
    (h : session.work.phase = .active)
    (hcommit : (Session.onScene (commitAll coordinator.controllers)).outcome session =
      (.ok (keys, some (failed, fault)), middle))
    (hclose : (Session.onScene coordinator.closeAll).outcome middle = (.ok closing, closed)) :
    coordinator.commit.outcome session = (.error (reported keys failed fault), closed) := by
  rw [outcome_commit_active h, commitActive, Action.outcome_bind_ok hcommit]
  dsimp only
  rw [Action.outcome_bind_ok hclose]
  unfold reported
  split <;> rfl

/-! ## Rollbacks -/

/-- A unit of work that is not active does not roll back. -/
lemma exists_rollback_idle (coordinator : Coordinator ω η) (h : session.work.phase ≠ .active) :
    ∃ result, coordinator.rollback.outcome session = (result, session) := by
  rw [rollback, Action.outcome_bind_ok session.outcome_phase]
  cases hphase : session.work.phase with
  | active => exact absurd hphase h
  | ready => exact ⟨_, rfl⟩
  | committed => exact ⟨_, rfl⟩
  | rolledBack => exact ⟨_, rfl⟩

/-- Whichever controllers fail, an active unit of work is rolled back. -/
lemma outcome_rollback_active {undoing : Option Fault} (h : session.work.phase = .active)
    (hundo : (Session.onScene coordinator.rollbackAll).outcome session = (.ok undoing, middle))
    (hclose : (Session.onScene coordinator.closeAll).outcome middle = (.ok closing, closed)) :
    coordinator.rollback.outcome session =
      (resultOf (undoing <|> closing), closed.asRolledBack) := by
  rw [rollback, Action.outcome_bind_ok session.outcome_phase, h]
  dsimp only
  rw [rollbackActive, Action.outcome_bind_ok hundo, Action.outcome_bind_ok hclose]
  exact outcome_settle _ _

/-! ## Ends -/

lemma outcome_ofExcept {σ : Type} (result : Except Fault α) (s : σ) :
    (Action.ofExcept result).outcome s = (result, s) := by
  cases result <;> rfl

/-- A good result ends the session as it is. -/
lemma outcome_exit_ok (coordinator : Coordinator ω η) (a : α) (session : Session ω η) :
    (coordinator.exit (.ok a)).outcome session = (.ok a, session.cleared) := by
  have hundo : (coordinator.undoFailed (.ok a : Except Fault α)).outcome session =
      (.ok (), session) := by
    rw [undoFailed, Action.outcome_bind_ok session.outcome_phase]
    rfl
  rw [exit, Action.outcome_bind_ok hundo]
  rfl

/-- A unit of work that is not active is ended as it is. -/
lemma outcome_exit_ended (coordinator : Coordinator ω η) (h : session.work.phase ≠ .active)
    (result : Except Fault α) :
    (coordinator.exit result).outcome session = (result, session.cleared) := by
  have hundo : (coordinator.undoFailed result).outcome session = (.ok (), session) := by
    rw [undoFailed, Action.outcome_bind_ok session.outcome_phase]
    cases result with
    | ok a => rfl
    | error fault =>
      cases hphase : session.work.phase with
      | active => exact absurd hphase h
      | ready => rfl
      | committed => rfl
      | rolledBack => rfl
  rw [exit, Action.outcome_bind_ok hundo]
  exact outcome_ofExcept result _

/-- A fault rolls an active unit of work back, and stays the result. -/
lemma outcome_exit_error {result : Except Fault Unit} (h : session.work.phase = .active)
    (hrollback : coordinator.rollback.outcome session = (result, middle)) (fault : Fault) :
    (coordinator.exit (.error fault : Except Fault α)).outcome session =
      (.error fault, middle.cleared) := by
  have hattempt := Action.outcome_attempt coordinator.rollback session
  rw [hrollback] at hattempt
  have hundo : (coordinator.undoFailed (.error fault : Except Fault α)).outcome session =
      (.ok (), middle) := by
    rw [undoFailed, Action.outcome_bind_ok session.outcome_phase, h]
    exact Action.outcome_discard hattempt
  rw [exit, Action.outcome_bind_ok hundo]
  rfl

/-- With a good result, the unit of work is committed and ended with what comes of that. -/
lemma outcome_complete_ok {committed : Except Fault Unit}
    (hcommit : coordinator.commit.outcome session = (committed, middle)) (a : α) :
    (coordinator.complete (.ok a)).outcome session =
      (coordinator.exit (committed.map fun _ => a)).outcome middle := by
  have hattempt := Action.outcome_attempt coordinator.commit session
  rw [hcommit] at hattempt
  rw [complete, Action.outcome_bind_ok hattempt]

/-- A unit of work that is not active is completed as it is. -/
lemma exists_complete_idle (coordinator : Coordinator ω η) (h : session.work.phase ≠ .active)
    (result : Except Fault α) :
    ∃ result', (coordinator.complete result).outcome session = (result', session.cleared) := by
  cases result with
  | error fault => exact ⟨_, coordinator.outcome_exit_ended h _⟩
  | ok a =>
    obtain ⟨committed, hcommit⟩ := coordinator.exists_commit_idle h
    rw [outcome_complete_ok hcommit]
    exact ⟨_, coordinator.outcome_exit_ended h _⟩

end Steps

end Coordinator

end LinkedNotes.Transaction
