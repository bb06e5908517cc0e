import LinkedNotes.Proofs.Transaction.Asked

/-!
# How a unit of work commits and rolls back

The course of a commit and of a rollback of an active unit of work, by what its controllers do to
the scene in turn and by the calls they get: all controllers commit and are closed (`CommitsWhole`),
or one fails to commit and all are closed (`CommitsPartly`), or all roll back and are closed
(`RollsBack`). There is no other course, whatever controllers do and whichever fail.
-/

namespace LinkedNotes.Transaction

open Watched (unwatch)

variable {ω η : Type}

/-- How far a unit of work has come, and what its context says of it. -/
structure Status where
  phase : Phase
  committed : Bool
  rolledBack : Bool
  deriving DecidableEq

namespace Session

/-- The status of the unit of work. -/
def status (session : Session ω η) : Status :=
  ⟨session.work.phase, session.work.context.committed, session.work.context.rolledBack⟩

lemma status_cleared (session : Session ω η) :
    session.cleared.status = ⟨session.status.phase, false, false⟩ := rfl

end Session

/-! ## Courses -/

/-- Every controller commits in order. Then all are closed in reverse order, whichever fail to
close, and the unit of work is committed. The first fault of a close is told. -/
inductive CommitsWhole (coordinator : Coordinator ω η) (session : Session ω η) :
    List Entry → Option Fault → Session ω η → Prop where
  | intro {committed closed : Scene ω η} {closings : List Entry} :
    Asked .commit coordinator.controllers session.scene
      (commits (coordinator.controllers.map (·.key))) committed →
    Asked .close coordinator.controllers.reverse committed closings closed →
    CommitsWhole coordinator session
      (commits (coordinator.controllers.map (·.key)) ++ closings) (firstFault closings)
      (session.withScene closed).asCommitted

/-- Controllers commit in order up to the first that fails. Then all are closed in reverse order,
whichever fail to close, and the unit of work is left as it was. The fault is that of the controller
that failed, and if others had committed before, it names them. -/
inductive CommitsPartly (coordinator : Coordinator ω η) (session : Session ω η) :
    List Entry → Fault → Session ω η → Prop where
  | intro {before behind : List (Controller ω η)} {failing : Controller ω η} {fault : Fault}
    {failed closed : Scene ω η} {closings : List Entry} :
    coordinator.controllers = before ++ failing :: behind →
    Asked .commit (before ++ [failing]) session.scene
      (commits (before.map (·.key)) ++ [⟨.commit, failing.key, some fault⟩]) failed →
    Asked .close coordinator.controllers.reverse failed closings closed →
    CommitsPartly coordinator session
      (commits (before.map (·.key)) ++ ⟨.commit, failing.key, some fault⟩ :: closings)
      (if before = [] then fault else .partialCommit (before.map (·.key)) failing.key fault)
      (session.withScene closed)

/-- Every controller rolls back in reverse order, whichever fail. Then all are closed in reverse
order, whichever fail to close, and the unit of work is rolled back. The first fault of a rollback
is told, or else that of a close. -/
inductive RollsBack (coordinator : Coordinator ω η) (session : Session ω η) :
    List Entry → Option Fault → Session ω η → Prop where
  | intro {undone closed : Scene ω η} {undoings closings : List Entry} :
    Asked .rollback coordinator.controllers.reverse session.scene undoings undone →
    Asked .close coordinator.controllers.reverse undone closings closed →
    RollsBack coordinator session (undoings ++ closings)
      (firstFault undoings <|> firstFault closings) (session.withScene closed).asRolledBack

section Status

variable {coordinator : Coordinator ω η} {session after : Session ω η} {calls : List Entry}
  {fault : Fault} {fault? : Option Fault}

lemma CommitsWhole.status_eq (h : CommitsWhole coordinator session calls fault? after) :
    after.status = ⟨.committed, true, session.status.rolledBack⟩ := by
  cases h
  rfl

lemma CommitsPartly.status_eq (h : CommitsPartly coordinator session calls fault after) :
    after.status = session.status := by
  cases h
  rfl

lemma RollsBack.status_eq (h : RollsBack coordinator session calls fault? after) :
    after.status = ⟨.rolledBack, session.status.committed, true⟩ := by
  cases h
  rfl

end Status

/-! ## There is no other course -/

namespace Coordinator

variable (coordinator : Coordinator ω η) {session : Session ω η}

lemma commit_course (h : session.work.phase = .active) :
    (∃ calls fault? after, CommitsWhole coordinator session calls fault? after ∧
      coordinator.commit.outcome session = (resultOf fault?, after)) ∨
    ∃ calls fault after, CommitsPartly coordinator session calls fault after ∧
      coordinator.commit.outcome session = (.error fault, after) := by
  rcases commitAll_asked_cases coordinator.controllers session.scene with
    ⟨committed, hasked, hcommit⟩ | ⟨before, failing, behind, fault, failed, hsplit, hasked,
      hcommit⟩
  · obtain ⟨closings, closed, hclosings, hclose⟩ :=
      exists_asked_sweep .close coordinator.controllers.reverse committed
    refine Or.inl ⟨_, _, _, .intro hasked hclosings, ?_⟩
    exact outcome_commit_ok h (session.outcome_onScene_eq hcommit)
      ((session.withScene committed).outcome_onScene_eq hclose)
  · obtain ⟨closings, closed, hclosings, hclose⟩ :=
      exists_asked_sweep .close coordinator.controllers.reverse failed
    refine Or.inr ⟨_, _, _, .intro hsplit hasked hclosings, ?_⟩
    rw [outcome_commit_error h (session.outcome_onScene_eq hcommit)
      ((session.withScene failed).outcome_onScene_eq hclose), reported]
    simp only [List.map_eq_nil_iff]
    rfl

lemma rollback_course (h : session.work.phase = .active) : ∃ calls fault? after,
    RollsBack coordinator session calls fault? after ∧
      coordinator.rollback.outcome session = (resultOf fault?, after) := by
  obtain ⟨undoings, undone, hundoings, hundo⟩ :=
    exists_asked_sweep .rollback coordinator.controllers.reverse session.scene
  obtain ⟨closings, closed, hclosings, hclose⟩ :=
    exists_asked_sweep .close coordinator.controllers.reverse undone
  refine ⟨_, _, _, .intro hundoings hclosings, ?_⟩
  exact outcome_rollback_active h (session.outcome_onScene_eq hundo)
    ((session.withScene undone).outcome_onScene_eq hclose)

/-- A fault rolls an active unit of work back, and stays the result whatever comes of that. -/
lemma exit_course {α : Type} (h : session.work.phase = .active) (fault : Fault) :
    ∃ calls fault? after, RollsBack coordinator session calls fault? after ∧
      (coordinator.exit (.error fault : Except Fault α)).outcome session =
        (.error fault, after.cleared) := by
  obtain ⟨calls, fault?, after, hundone, hrollback⟩ := coordinator.rollback_course h
  exact ⟨calls, fault?, after, hundone, outcome_exit_error h hrollback fault⟩

/-- Completing an active unit of work with a good result commits it. It is rolled back if a
controller fails to commit, and the fault of that is the result. -/
lemma complete_course {α : Type} (h : session.work.phase = .active) (a : α) :
    (∃ calls fault? after, CommitsWhole coordinator session calls fault? after ∧
      (coordinator.complete (.ok a)).outcome session =
        ((resultOf fault?).map fun _ => a, after.cleared)) ∨
    ∃ calls fault middle undoings fault? after,
      CommitsPartly coordinator session calls fault middle ∧
      RollsBack coordinator middle undoings fault? after ∧
      (coordinator.complete (.ok a)).outcome session = (.error fault, after.cleared) := by
  rcases coordinator.commit_course h with
    ⟨calls, fault?, middle, hwhole, hcommit⟩ | ⟨calls, fault, middle, hpartly, hcommit⟩
  · refine Or.inl ⟨calls, fault?, middle, hwhole, ?_⟩
    rw [outcome_complete_ok hcommit]
    refine outcome_exit_ended _ ?_ _
    rw [show middle.work.phase = _ from congrArg Status.phase hwhole.status_eq]
    nofun
  · obtain ⟨undoings, fault?, after, hundone, hexit⟩ :=
      coordinator.exit_course ((congrArg Status.phase hpartly.status_eq).trans h) fault
    refine Or.inr ⟨calls, fault, middle, undoings, fault?, after, hpartly, hundone, ?_⟩
    rw [outcome_complete_ok hcommit]
    exact hexit

end Coordinator

/-! ## Watched courses -/

section Watched

variable {coordinator : Coordinator ω η} {session after : Session (Watched ω) η}
  {calls : List Entry} {fault : Fault} {fault? : Option Fault}

lemma map_key_watched (controllers : List (Controller ω η)) :
    (controllers.map Controller.watched).map (·.key) = controllers.map (·.key) := by
  rw [List.map_map]
  rfl

/-- Controllers that are watched are closed as they are when they are not. -/
lemma Asked.unwatched_reverse {duty : Duty} {scene after : Scene (Watched ω) η}
    (hduty : ∀ c : Controller ω η,
      c.watched.answer duty = Watched.serve duty c.key (c.answer duty))
    (h : Asked duty coordinator.watched.controllers.reverse scene calls after) :
    Asked duty coordinator.controllers.reverse (unwatch scene) calls (unwatch after) ∧
      after.world.log = scene.world.log ++ calls := by
  rw [Coordinator.watched, ← List.map_reverse] at h
  exact h.unwatched hduty

lemma CommitsWhole.unwatched
    (h : CommitsWhole coordinator.watched session calls fault? after) :
    CommitsWhole coordinator session.unwatched calls fault? after.unwatched ∧
      after.world.log = session.world.log ++ calls := by
  obtain @⟨committed, closed, closings, hcommit, hclose⟩ := h
  obtain ⟨hcommit, hcommitted⟩ := hcommit.unwatched fun _ => rfl
  obtain ⟨hclose, hclosed⟩ := hclose.unwatched_reverse fun _ => rfl
  rw [show coordinator.watched.controllers = coordinator.controllers.map _ from rfl,
    map_key_watched] at *
  refine ⟨.intro hcommit hclose, ?_⟩
  show closed.world.log = _
  rw [hclosed, hcommitted, List.append_assoc]
  rfl

lemma CommitsPartly.unwatched
    (h : CommitsPartly coordinator.watched session calls fault after) :
    CommitsPartly coordinator session.unwatched calls fault after.unwatched ∧
      after.world.log = session.world.log ++ calls := by
  obtain @⟨before, behind, failing, fault, failed, closed, closings, hsplit, hcommit, hclose⟩ := h
  obtain ⟨before, others, hcontrollers, rfl, hothers⟩ := List.map_eq_append_iff.1 hsplit
  obtain ⟨failing, behind, rfl, rfl, rfl⟩ := List.map_eq_cons_iff.1 hothers
  rw [← List.map_singleton, ← List.map_append] at hcommit
  obtain ⟨hcommit, hfailed⟩ := hcommit.unwatched fun _ => rfl
  obtain ⟨hclose, hclosed⟩ := hclose.unwatched_reverse fun _ => rfl
  rw [map_key_watched, show failing.watched.key = failing.key from rfl] at *
  simp only [List.map_eq_nil_iff]
  have hpartly : CommitsPartly coordinator session.unwatched _ _
      (session.unwatched.withScene (unwatch closed)) := .intro hcontrollers hcommit hclose
  refine ⟨hpartly, ?_⟩
  show closed.world.log = _
  rw [hclosed, hfailed, List.append_assoc, List.append_assoc]
  rfl

lemma RollsBack.unwatched
    (h : RollsBack coordinator.watched session calls fault? after) :
    RollsBack coordinator session.unwatched calls fault? after.unwatched ∧
      after.world.log = session.world.log ++ calls := by
  obtain @⟨undone, closed, undoings, closings, hundo, hclose⟩ := h
  obtain ⟨hundo, hundone⟩ := hundo.unwatched_reverse fun _ => rfl
  obtain ⟨hclose, hclosed⟩ := hclose.unwatched_reverse fun _ => rfl
  refine ⟨.intro hundo hclose, ?_⟩
  show closed.world.log = _
  rw [hclosed, hundone, List.append_assoc]
  rfl

end Watched

end LinkedNotes.Transaction
