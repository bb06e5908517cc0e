import LinkedNotes.Proofs.Transaction.Verdict

/-!
# Steps of a unit of work

The steps that can be taken with a unit of work, in any order, and all that each of them can do, by
the calls that controllers get in it and the status that it leaves (`effect_of_ne_enter`).
-/

namespace LinkedNotes.Transaction

open LinkedNotes.Action (Matches)

variable {ω η : Type}

/-! ## Steps -/

/-- A step of a unit of work, or what repositories do with its handles in between. -/
inductive Step (ω η : Type) where
  | enter
  | commit
  | rollback
  | flush
  | exit (result : Except Fault Unit)
  | complete (result : Except Fault Unit)
  | use (work : Action (Scene ω η) Unit)

namespace Step

/-- Take the step. -/
def run (coordinator : Coordinator ω η) : Step ω η → Action (Session ω η) Unit
  | enter => coordinator.enter
  | commit => coordinator.commit
  | rollback => coordinator.rollback
  | flush => coordinator.flush
  | exit result => coordinator.exit result
  | complete result => coordinator.complete result
  | use work => Session.onScene work

/-- The same step where calls are written down. -/
def watched : Step ω η → Step (Watched ω) η
  | enter => enter
  | commit => commit
  | rollback => rollback
  | flush => flush
  | exit result => exit result
  | complete result => complete result
  | use work => use (work.within Watched.unwatch Watched.rewatch)

/-- The session after the step. -/
def after (coordinator : Coordinator ω η) (step : Step ω η) (session : Session ω η) :
    Session ω η :=
  ((step.run coordinator).outcome session).2

/-- The calls in the step. -/
def calls (coordinator : Coordinator ω η) (step : Step ω η) (session : Session ω η) :
    List Entry :=
  callsOf (step.watched.run coordinator.watched) session

/-- The step commits if it can, and ends the operation. -/
def isComplete : Step ω η → Bool
  | complete _ => true
  | _ => false

theorem matches_run (coordinator : Coordinator ω η) (step : Step ω η) :
    Matches SessionSees (step.watched.run coordinator.watched) (step.run coordinator) := by
  cases step with
  | enter => exact coordinator.matches_enter
  | commit => exact coordinator.matches_commit
  | rollback => exact coordinator.matches_rollback
  | flush => exact coordinator.matches_flush
  | exit result => exact coordinator.matches_exit result
  | complete result => exact coordinator.matches_complete result
  | use work => exact Session.matches_onScene (Watched.matches_within work)

/-- The status after a step, and the calls in it, are those of the step that is watched. -/
lemma status_and_calls {coordinator : Coordinator ω η} {session : Session ω η} (step : Step ω η)
    {result : Except Fault Unit} {after : Session (Watched ω) η}
    (h : (step.watched.run coordinator.watched).outcome session.watched = (result, after)) :
    (step.after coordinator session).status = after.status ∧
      step.calls coordinator session = after.world.log := by
  have hsees := (step.matches_run coordinator session.watched session rfl).2
  rw [h] at hsees
  refine ⟨?_, by rw [calls, callsOf, h]⟩
  rw [Step.after, ← show after.unwatched = _ from hsees]
  rfl

end Step

/-! ## What a step can do -/

/-- All that a step other than entering can do, by the calls in it. -/
inductive Effect (coordinator : Coordinator ω η) (step : Step ω η) (before : Status)
    (calls : List Entry) (after : Status) : Prop where
  /-- Nothing is called, unless to flush. -/
  | still : (calls = [] ∨ step = .flush ∧ ∀ entry ∈ calls, entry.duty = .flush) →
    after.phase = before.phase → (after.committed = true → before.committed = true) →
    (after.rolledBack = true → before.rolledBack = true) → Effect coordinator step before calls after
  /-- All controllers of an active unit of work commit, and are closed. -/
  | whole {closings : List Entry} : before.phase = .active →
    Served .close coordinator.keys.reverse closings → calls = commits coordinator.keys ++ closings →
    after.phase = .committed → (after.rolledBack = true → before.rolledBack = true) →
    Effect coordinator step before calls after
  /-- All controllers of an active unit of work roll back, and are closed. -/
  | undone {undone closings : List Entry} : before.phase = .active →
    Served .rollback coordinator.keys.reverse undone →
    Served .close coordinator.keys.reverse closings → calls = undone ++ closings →
    after.phase = .rolledBack → (after.committed = true → before.committed = true) →
    Effect coordinator step before calls after
  /-- A controller of an active unit of work fails to commit, and all are closed. If it was
  completed, they roll back and are closed again. -/
  | failed {keys : List String} {failed : String} {fault : Fault} {others closings : List Entry} :
    before.phase = .active → coordinator.keys ≠ [] →
    calls = commits keys ++ ⟨.commit, failed, some fault⟩ :: (others ++ closings) →
    callsFor .commit others = [] → Served .close coordinator.keys.reverse closings →
    after.phase = (if step.isComplete then .rolledBack else .active) →
    (after.committed = true → before.committed = true) →
    (after.rolledBack = true → before.rolledBack = true) →
    Effect coordinator step before calls after

section Effects

variable {coordinator : Coordinator ω η} {session : Session ω η}

/-- What a step does is what comes of it where calls are written down. -/
lemma Effect.of_outcome (step : Step ω η) {result : Except Fault Unit}
    {after : Session (Watched ω) η}
    (h : (step.watched.run coordinator.watched).outcome session.watched = (result, after))
    (heffect : Effect coordinator step session.status after.world.log after.status) :
    Effect coordinator step session.status (step.calls coordinator session)
      (step.after coordinator session).status := by
  obtain ⟨hstatus, hcalls⟩ := step.status_and_calls h
  rw [hstatus, hcalls]
  exact heffect

/-- A step in which nothing is called. -/
lemma Effect.of_idle (step : Step ω η) {result : Except Fault Unit} {after : Session (Watched ω) η}
    (h : (step.watched.run coordinator.watched).outcome session.watched = (result, after))
    (hlog : after.world.log = []) (hphase : after.status.phase = session.status.phase)
    (hcommitted : after.status.committed = true → session.status.committed = true)
    (hrolledBack : after.status.rolledBack = true → session.status.rolledBack = true) :
    Effect coordinator step session.status (step.calls coordinator session)
      (step.after coordinator session).status :=
  .of_outcome step h (.still (Or.inl hlog) hphase hcommitted hrolledBack)

lemma effect_commit :
    Effect coordinator .commit session.status (Step.commit.calls coordinator session)
      (Step.commit.after coordinator session).status := by
  by_cases hactive : session.watched.work.phase = .active
  · obtain ⟨closings, after, hclosings, hcommit⟩ := coordinator.commit_cases hactive
    rcases hcommit with ⟨hcommit, hlog, hafter⟩ | ⟨keys, failed, fault, rest, hkeys, hcommit, hlog,
      hafter⟩
    · refine .of_outcome .commit hcommit ?_
      rw [hafter]
      exact .whole hactive hclosings hlog rfl id
    · refine .of_outcome .commit hcommit ?_
      rw [hafter]
      have hcalls : after.world.log =
          commits keys ++ ⟨.commit, failed, some fault⟩ :: ([] ++ closings) := hlog
      exact .failed hactive (by simp [hkeys]) hcalls rfl hclosings hactive id id
  · obtain ⟨result, hidle⟩ := coordinator.watched.exists_commit_idle hactive
    exact .of_idle .commit hidle rfl rfl id id

lemma effect_rollback :
    Effect coordinator .rollback session.status (Step.rollback.calls coordinator session)
      (Step.rollback.after coordinator session).status := by
  by_cases hactive : session.watched.work.phase = .active
  · obtain ⟨undone, closings, after, hundone, hclosings, hrollback, hlog, hafter⟩ :=
      coordinator.exists_rollback_watched hactive
    refine .of_outcome .rollback hrollback ?_
    rw [hafter]
    exact .undone hactive hundone hclosings hlog rfl id
  · obtain ⟨result, hidle⟩ := coordinator.watched.exists_rollback_idle hactive
    exact .of_idle .rollback hidle rfl rfl id id

/-- A fault that ends an active unit of work rolls it back. -/
lemma effect_of_exit_error {step : Step ω η} {fault : Fault}
    (hstep : step.watched.run coordinator.watched = coordinator.watched.exit (.error fault)) :
    Effect coordinator step session.status (step.calls coordinator session)
      (step.after coordinator session).status := by
  by_cases hactive : session.watched.work.phase = .active
  · obtain ⟨undone, closings, after, hundone, hclosings, hexit, hlog, hafter⟩ :=
      coordinator.exists_exit_error_watched (α := Unit) hactive fault
    rw [← hstep] at hexit
    refine .of_outcome step hexit ?_
    rw [hafter]
    exact .undone hactive hundone hclosings hlog rfl nofun
  · have hidle := coordinator.watched.outcome_exit_ended hactive (.error fault : Except Fault Unit)
    rw [← hstep] at hidle
    exact .of_idle step hidle rfl rfl nofun nofun

lemma effect_exit (result : Except Fault Unit) :
    Effect coordinator (.exit result) session.status
      ((Step.exit result).calls coordinator session)
      ((Step.exit result).after coordinator session).status := by
  cases result with
  | error fault => exact effect_of_exit_error rfl
  | ok _ =>
    exact .of_idle (.exit (.ok ())) (coordinator.watched.outcome_exit_ok () _) rfl rfl nofun nofun

/-- No controller is asked to commit when all are rolled back and closed. -/
lemma callsFor_undone {keys keys' : List String} {undone closings : List Entry}
    (hundone : Served .rollback keys undone) (hclosings : Served .close keys' closings) :
    callsFor .commit (undone ++ closings) = [] := by
  rw [callsFor_append, hundone.callsFor_of_ne (by decide), hclosings.callsFor_of_ne (by decide)]
  rfl

lemma effect_complete (result : Except Fault Unit) :
    Effect coordinator (.complete result) session.status
      ((Step.complete result).calls coordinator session)
      ((Step.complete result).after coordinator session).status := by
  cases result with
  | error fault => exact effect_of_exit_error rfl
  | ok a =>
    by_cases hactive : session.watched.work.phase = .active
    · obtain ⟨closings, after, hclosings, hcomplete⟩ := coordinator.complete_cases hactive a
      rcases hcomplete with ⟨hcomplete, hlog, hafter⟩ | ⟨keys, failed, fault, rest, undone,
        closings', hkeys, hundone, hclosings', hcomplete, hlog, hafter⟩
      · refine .of_outcome (.complete (.ok a)) hcomplete ?_
        rw [hafter]
        exact .whole hactive hclosings hlog rfl nofun
      · refine .of_outcome (.complete (.ok a)) hcomplete ?_
        rw [hafter]
        have hothers : callsFor .commit (closings ++ undone) = [] := by
          rw [callsFor_append, hclosings.callsFor_of_ne (by decide),
            hundone.callsFor_of_ne (by decide)]
          rfl
        have hcalls : after.world.log = commits keys ++
            ⟨.commit, failed, some fault⟩ :: (closings ++ undone ++ closings') :=
          hlog.trans (by rw [List.append_assoc]; rfl)
        exact .failed hactive (by simp [hkeys]) hcalls hothers hclosings' rfl nofun nofun
    · obtain ⟨result, hidle⟩ := coordinator.watched.exists_complete_idle hactive (.ok a)
      exact .of_idle (.complete (.ok a)) hidle rfl rfl nofun nofun

lemma effect_flush :
    Effect coordinator .flush session.status (Step.flush.calls coordinator session)
      (Step.flush.after coordinator session).status := by
  obtain ⟨result, after, calls, hflush, hlog, hcalls, hstatus⟩ :=
    coordinator.exists_flush_watched session.watched
  refine .of_outcome .flush hflush ?_
  rw [hstatus]
  refine .still (Or.inr ⟨rfl, fun entry hmem => hcalls entry ?_⟩) rfl id id
  rw [hlog] at hmem
  exact hmem

lemma effect_use (work : Action (Scene ω η) Unit) :
    Effect coordinator (.use work) session.status ((Step.use work).calls coordinator session)
      ((Step.use work).after coordinator session).status := by
  have huse := Session.outcome_onScene (work.within Watched.unwatch Watched.rewatch)
    session.watched
  refine .of_idle (.use work) huse ?_ rfl id id
  rw [Watched.outcome_within]
  rfl

/-- What a step other than entering does. -/
theorem effect_of_ne_enter (coordinator : Coordinator ω η) (session : Session ω η)
    {step : Step ω η} (h : step ≠ .enter) :
    Effect coordinator step session.status (step.calls coordinator session)
      (step.after coordinator session).status := by
  cases step with
  | enter => exact absurd rfl h
  | commit => exact effect_commit
  | rollback => exact effect_rollback
  | flush => exact effect_flush
  | exit result => exact effect_exit result
  | complete result => exact effect_complete result
  | use work => exact effect_use work

/-- Entering makes the unit of work active and forgets how it ended before. -/
lemma Step.status_after_enter (coordinator : Coordinator ω η) (session : Session ω η) :
    (Step.enter.after coordinator session).status = ⟨.active, false, false⟩ := by
  show (coordinator.enter.outcome session).2.status = _
  have hcontext : (Session.onContext fun _ => .empty).outcome session = (.ok (), session.cleared) :=
    rfl
  rw [Coordinator.enter, Action.outcome_bind_ok hcontext,
    Action.outcome_bind_ok (show (Session.setPhase .active).outcome session.cleared =
      (.ok (), ⟨session.world, ⟨.active, .empty⟩⟩) from rfl), Session.outcome_onScene]
  rfl

end Effects

end LinkedNotes.Transaction
