import LinkedNotes.Proofs.Transaction.Lifecycle

/-!
# How a unit of work ends

Committing, rolling back, exiting and completing an active unit of work, each by the course it takes
and by exactly the calls that its controllers get (`committed_or_stays`, `endings`). A fault that
the operation comes to is never replaced by one of undoing it, and nothing is left in the context.
-/

namespace LinkedNotes.Transaction

open LinkedNotes.Action (Matches)

variable {ω η α : Type}

/-! ## From what is watched -/

/-- What is done where calls are written down is done where they are not. -/
lemma outcome_unwatched {x : Action (Session (Watched ω) η) α} {y : Action (Session ω η) α}
    (h : Matches SessionSees x y) {session : Session ω η} {result : Except Fault α}
    {after : Session (Watched ω) η} (hx : x.outcome session.watched = (result, after)) :
    y.outcome session = (result, after.unwatched) := by
  obtain ⟨hresult, hafter⟩ := h session.watched session rfl
  rw [hx] at hresult hafter
  exact Prod.ext hresult.symm (show after.unwatched = _ from hafter).symm

/-- The calls are all that was written down. -/
lemma callsOf_eq {x : Action (Session (Watched ω) η) α} {session : Session ω η}
    {result : Except Fault α} {after : Session (Watched ω) η} {calls : List Entry}
    (hx : x.outcome session.watched = (result, after))
    (hlog : after.world.log = session.watched.world.log ++ calls) :
    callsOf x session = calls := by
  rw [callsOf, hx, hlog]
  rfl

/-! ## Commits -/

/-- A unit of work that steps have led to says how it ended only if it did. -/
lemma status_of_active {coordinator : Coordinator ω η} {steps : List (Step ω η)} {world : ω}
    (h : (course coordinator steps world).session.work.phase = .active) :
    (course coordinator steps world).session.status = ⟨.active, false, false⟩ := by
  have hfits := (orderly_course coordinator steps world).fits
  generalize (course coordinator steps world).session = session at h hfits
  have hcommitted : session.status.committed = false :=
    Bool.eq_false_iff.2 fun hup => by cases h.symm.trans (hfits.committed hup)
  have hrolledBack : session.status.rolledBack = false :=
    Bool.eq_false_iff.2 fun hup => by cases h.symm.trans (hfits.rolledBack hup)
  calc session.status
      = ⟨session.work.phase, session.status.committed, session.status.rolledBack⟩ := rfl
    _ = ⟨.active, false, false⟩ := by rw [h, hcommitted, hrolledBack]

/-- Whatever controllers do to their scene and whenever they fail, committing an active unit of work
calls them in order up to the first that fails to commit, closes all in reverse order, and calls
nothing else. The unit of work is committed if none failed to commit. Otherwise it stays as it was,
with no flag but those that were up, and none were up if steps of a unit of work have led there. -/
theorem committed_or_stays (coordinator : Coordinator ω η) {session : Session ω η}
    (h : session.work.phase = .active) :
    ((∃ closing after,
        CommitsWhole coordinator session (callsOf coordinator.watched.commit session) closing
          after ∧
        coordinator.commit.outcome session = (resultOf closing, after) ∧
        after.status = ⟨.committed, true, session.status.rolledBack⟩) ∨
      ∃ fault after,
        CommitsPartly coordinator session (callsOf coordinator.watched.commit session) fault
          after ∧
        coordinator.commit.outcome session = (.error fault, after) ∧
        after.status = ⟨.active, session.status.committed, session.status.rolledBack⟩) ∧
    ∀ steps world, (course coordinator steps world).session = session →
      session.status.committed = false ∧ session.status.rolledBack = false := by
  refine ⟨?_, ?_⟩
  · have hactive : session.watched.work.phase = .active := h
    rcases coordinator.watched.commit_course hactive with
      ⟨calls, closing, after, hwhole, hcommit⟩ | ⟨calls, fault, after, hpartly, hcommit⟩
    · obtain ⟨hcourse, hlog⟩ := hwhole.unwatched
      rw [callsOf_eq hcommit hlog]
      exact Or.inl ⟨closing, after.unwatched, hcourse,
        outcome_unwatched coordinator.matches_commit hcommit, hcourse.status_eq⟩
    · obtain ⟨hcourse, hlog⟩ := hpartly.unwatched
      rw [callsOf_eq hcommit hlog]
      refine Or.inr ⟨fault, after.unwatched, hcourse,
        outcome_unwatched coordinator.matches_commit hcommit, ?_⟩
      rw [← h]
      exact hcourse.status_eq
  · rintro steps world rfl
    rw [status_of_active h]
    exact ⟨rfl, rfl⟩

theorem committed_or_stays_told :
    (told ["commit:graph", "close:sql"]).work.phase = .active ∧
      ∃ fault after,
        CommitsPartly pair (told ["commit:graph", "close:sql"])
          (callsOf pair.watched.commit (told ["commit:graph", "close:sql"])) fault after ∧
        pair.commit.outcome (told ["commit:graph", "close:sql"]) = (.error fault, after) ∧
        after.status = ⟨.active, false, false⟩ := by
  have hactive : (told ["commit:graph", "close:sql"]).work.phase = .active := by decide
  have hstays : (pair.commit.outcome (told ["commit:graph", "close:sql"])).2.work.phase =
      .active := by decide
  obtain ⟨⟨closing, after, -, hcommit, hstatus⟩ | hpartly, -⟩ := committed_or_stays pair hactive
  · rw [hcommit] at hstays
    cases hstays.symm.trans (congrArg Status.phase hstatus)
  · exact ⟨hactive, hpartly⟩

/-- An active unit of work whose context says, before anything was committed, that it was. -/
def marked (failing : List String) : Session (Bench Unit) Sample :=
  ((Session.onContext Context.markCommitted).outcome (told failing)).2

/-- A commit that fails does not take down a flag that is up: what a caller has marked as committed
stays so. -/
theorem not_unflagged_of_failed : ¬∀ (ω η : Type) (coordinator : Coordinator ω η)
    (session : Session ω η), session.work.phase = .active →
      (∃ entry ∈ callsFor .commit (callsOf coordinator.watched.commit session),
        entry.fault? ≠ none) →
        (coordinator.commit.outcome session).2.status = ⟨.active, false, false⟩ := by
  intro h
  have hflag := h _ _ pair (marked ["commit:graph"]) (by decide)
    ⟨⟨.commit, "graph", some (Bench.refusal "commit" "graph")⟩, by decide, nofun⟩
  cases hflag

/-! ## All endings -/

/-- How an active unit of work ends, whatever controllers do and whenever they fail. -/
structure Endings (coordinator : Coordinator ω η) : Prop where
  /-- Rolling back rolls all controllers back, closes all and calls nothing else. -/
  rollback : ∀ session : Session ω η, session.work.phase = .active → ∃ fault? after,
    RollsBack coordinator session (callsOf coordinator.watched.rollback session) fault? after ∧
    coordinator.rollback.outcome session = (resultOf fault?, after) ∧
    after.work.phase = .rolledBack
  /-- Exiting with a fault does that, and the fault is the result even if it fails. -/
  exit : ∀ {α : Type} (session : Session ω η) (fault : Fault), session.work.phase = .active →
    ∃ fault? after,
      RollsBack coordinator session
        (callsOf (coordinator.watched.exit (.error fault : Except Fault α)) session) fault? after ∧
      (coordinator.exit (.error fault : Except Fault α)).outcome session =
        (.error fault, after.cleared) ∧
      after.cleared.work.phase = .rolledBack
  /-- So does completing with a fault. -/
  failed : ∀ {α : Type} (session : Session ω η) (fault : Fault), session.work.phase = .active →
    ∃ fault? after,
      RollsBack coordinator session
        (callsOf (coordinator.watched.complete (.error fault : Except Fault α)) session) fault?
        after ∧
      (coordinator.complete (.error fault : Except Fault α)).outcome session =
        (.error fault, after.cleared) ∧
      after.cleared.work.phase = .rolledBack
  /-- Completing with a value commits. If all controllers commit, that is all that is called. If one
  fails, all are rolled back, and what the commit came to is the result even if that fails. -/
  completed : ∀ {α : Type} (session : Session ω η) (a : α), session.work.phase = .active →
    (∃ closing after,
      CommitsWhole coordinator session (callsOf (coordinator.watched.complete (.ok a)) session)
        closing after ∧
      (coordinator.complete (.ok a)).outcome session =
        ((resultOf closing).map fun _ => a, after.cleared) ∧
      after.cleared.work.phase = .committed) ∨
    ∃ committing fault middle undoing fault? after,
      callsOf (coordinator.watched.complete (.ok a)) session = committing ++ undoing ∧
      CommitsPartly coordinator session committing fault middle ∧
      RollsBack coordinator middle undoing fault? after ∧
      (coordinator.complete (.ok a)).outcome session = (.error fault, after.cleared) ∧
      after.cleared.work.phase = .rolledBack
  /-- After exiting and completing in any phase, the context is that of an operation that has not
  begun. -/
  emptied : ∀ {α : Type} (session : Session ω η) (result : Except Fault α),
    ((coordinator.exit result).outcome session).2.work.context = .empty ∧
      ((coordinator.complete result).outcome session).2.work.context = .empty

section Endings

variable (coordinator : Coordinator ω η) (session : Session ω η)

lemma exit_undoes (h : session.work.phase = .active) (fault : Fault) : ∃ fault? after,
    RollsBack coordinator session
      (callsOf (coordinator.watched.exit (.error fault : Except Fault α)) session) fault? after ∧
    (coordinator.exit (.error fault : Except Fault α)).outcome session =
      (.error fault, after.cleared) ∧
    after.cleared.work.phase = .rolledBack := by
  have hactive : session.watched.work.phase = .active := h
  obtain ⟨calls, fault?, after, hundone, hexit⟩ :=
    coordinator.watched.exit_course (α := α) hactive fault
  obtain ⟨hcourse, hlog⟩ := hundone.unwatched
  rw [callsOf_eq hexit hlog]
  exact ⟨fault?, after.unwatched, hcourse,
    outcome_unwatched (coordinator.matches_exit _) hexit,
    congrArg Status.phase hcourse.status_eq⟩

lemma complete_commits_or_undoes (h : session.work.phase = .active) (a : α) :
    (∃ closing after,
      CommitsWhole coordinator session (callsOf (coordinator.watched.complete (.ok a)) session)
        closing after ∧
      (coordinator.complete (.ok a)).outcome session =
        ((resultOf closing).map fun _ => a, after.cleared) ∧
      after.cleared.work.phase = .committed) ∨
    ∃ committing fault middle undoing fault? after,
      callsOf (coordinator.watched.complete (.ok a)) session = committing ++ undoing ∧
      CommitsPartly coordinator session committing fault middle ∧
      RollsBack coordinator middle undoing fault? after ∧
      (coordinator.complete (.ok a)).outcome session = (.error fault, after.cleared) ∧
      after.cleared.work.phase = .rolledBack := by
  have hactive : session.watched.work.phase = .active := h
  rcases coordinator.watched.complete_course hactive a with
    ⟨calls, closing, after, hwhole, hcomplete⟩ |
      ⟨calls, fault, middle, undoing, fault?, after, hpartly, hundone, hcomplete⟩
  · obtain ⟨hcourse, hlog⟩ := hwhole.unwatched
    rw [callsOf_eq hcomplete hlog]
    exact Or.inl ⟨closing, after.unwatched, hcourse,
      outcome_unwatched (coordinator.matches_complete _) hcomplete,
      congrArg Status.phase hcourse.status_eq⟩
  · obtain ⟨hcommitting, hmiddle⟩ := hpartly.unwatched
    obtain ⟨hundoing, hafter⟩ := hundone.unwatched
    rw [hmiddle, List.append_assoc] at hafter
    exact Or.inr ⟨calls, fault, middle.unwatched, undoing, fault?, after.unwatched,
      callsOf_eq hcomplete hafter, hcommitting, hundoing,
      outcome_unwatched (coordinator.matches_complete _) hcomplete,
      congrArg Status.phase hundoing.status_eq⟩

/-- Whatever an operation has come to, it leaves nothing in the context. -/
lemma context_exit (result : Except Fault α) :
    ((coordinator.exit result).outcome session).2.work.context = .empty := by
  by_cases h : session.work.phase = .active
  · cases result with
    | ok a => rw [coordinator.outcome_exit_ok a session]; rfl
    | error fault =>
      obtain ⟨_, _, _, _, hexit⟩ := coordinator.exit_course (α := α) h fault
      rw [hexit]
      rfl
  · rw [coordinator.outcome_exit_ended h result]
    rfl

lemma context_complete (result : Except Fault α) :
    ((coordinator.complete result).outcome session).2.work.context = .empty := by
  cases result with
  | error fault => exact context_exit coordinator session _
  | ok a =>
    rw [Coordinator.outcome_complete_ok (Prod.ext rfl rfl)]
    exact context_exit coordinator _ _

/-- Whatever controllers do and whenever they fail, an active unit of work ends as it should. -/
theorem endings : Endings coordinator where
  rollback session h := by
    have hactive : session.watched.work.phase = .active := h
    obtain ⟨calls, fault?, after, hundone, hrollback⟩ :=
      coordinator.watched.rollback_course hactive
    obtain ⟨hcourse, hlog⟩ := hundone.unwatched
    rw [callsOf_eq hrollback hlog]
    exact ⟨fault?, after.unwatched, hcourse,
      outcome_unwatched coordinator.matches_rollback hrollback,
      congrArg Status.phase hcourse.status_eq⟩
  exit session fault h := exit_undoes coordinator session h fault
  failed session fault h := exit_undoes coordinator session h fault
  completed session a h := complete_commits_or_undoes coordinator session h a
  emptied session result :=
    ⟨context_exit coordinator session result, context_complete coordinator session result⟩

end Endings

end LinkedNotes.Transaction
