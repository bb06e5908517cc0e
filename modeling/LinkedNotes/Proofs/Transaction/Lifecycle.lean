import LinkedNotes.Proofs.Transaction.Course

/-!
# The life of a unit of work

A unit of work is ready until it is entered first, and can be neither committed nor rolled back
before that. Once it has ended, only entering does something to it. Whichever controllers failed on
the way, all of them were closed after the last commit and rollback when it ends
(`lifecycle_course`).
-/

namespace LinkedNotes.Transaction

variable {ω η : Type}

/-- The unit of work was committed or rolled back. -/
def Phase.IsOver (phase : Phase) : Prop := phase = .committed ∨ phase = .rolledBack

/-- The step commits the unit of work, rolls it back or leaves it. -/
def Step.settles : Step ω η → Bool
  | .commit | .rollback | .exit _ | .complete _ => true
  | .enter | .flush | .use _ => false

/-- All calls since the unit of work was entered last. -/
def History.calls (history : History ω η) : List Entry := history.done.flatMap (·.calls)

/-- All controllers were closed, and none was asked to commit or to roll back after that. -/
def ClosedLast (keys : List String) (calls : List Entry) : Prop :=
  ∃ front closings back, calls = front ++ closings ++ back ∧ Served .close keys.reverse closings ∧
    ∀ entry ∈ back, entry.duty ≠ .commit ∧ entry.duty ≠ .rollback

/-- The context says how the operation ended only if the unit of work ended so. -/
structure Status.Fits (status : Status) : Prop where
  committed : status.committed = true → status.phase = .committed
  rolledBack : status.rolledBack = true → status.phase = .rolledBack

/-- What holds of a unit of work after any steps. -/
structure Lifecycle (coordinator : Coordinator ω η) (steps : List (Step ω η))
    (history : History ω η) : Prop where
  /-- It is ready exactly until it is entered. -/
  ready_iff : history.session.work.phase = .ready ↔ .enter ∉ steps
  /-- As long as it is ready, committing it and rolling it back fail without a call. -/
  refused : history.session.work.phase = .ready →
    (coordinator.commit.outcome history.session =
        (.error (.unitOfWork "commit called before the unit of work was entered"),
          history.session) ∧
      Step.commit.calls coordinator history.session = []) ∧
    coordinator.rollback.outcome history.session =
        (.error (.unitOfWork "rollback called before the unit of work was entered"),
          history.session) ∧
      Step.rollback.calls coordinator history.session = []
  /-- Once it has ended, only entering changes the phase. -/
  phase_eq : history.session.work.phase.IsOver → ∀ step : Step ω η, step ≠ .enter →
    (step.after coordinator history.session).work.phase = history.session.work.phase
  /-- Once it has ended, settling it calls no controller. -/
  silent : history.session.work.phase.IsOver → ∀ step : Step ω η, step.settles = true →
    step.calls coordinator history.session = []
  /-- The context never says that it was both committed and rolled back, and says neither unless the
  unit of work was. -/
  flags : (history.session.work.context.committed = true →
      history.session.work.phase = .committed ∧
        history.session.work.context.rolledBack = false) ∧
    (history.session.work.context.rolledBack = true →
      history.session.work.phase = .rolledBack ∧
        history.session.work.context.committed = false)
  /-- When it has ended, each controller was closed after its last commit and rollback. -/
  closed : history.session.work.phase.IsOver → ClosedLast coordinator.keys history.calls

/-! ## One step -/

section Step

variable {coordinator : Coordinator ω η} {step : Step ω η} {before after : Status}
  {calls : List Entry}

/-- A unit of work that is not active keeps its phase, and calls no controller unless to flush. -/
lemma Effect.of_ne_active (h : Effect coordinator step before calls after)
    (hactive : before.phase ≠ .active) :
    after.phase = before.phase ∧
      (calls = [] ∨ step = .flush ∧ ∀ entry ∈ calls, entry.duty = .flush) := by
  cases h with
  | still hcalls hphase _ _ => exact ⟨hphase, hcalls⟩
  | whole h => exact absurd h hactive
  | undone h => exact absurd h hactive
  | failed h => exact absurd h hactive

/-- An active unit of work has no flag that would come to contradict how it ends. -/
lemma Effect.fits (h : Effect coordinator step before calls after) (hfits : before.Fits) :
    after.Fits := by
  -- flags that were up before rule out that it was active
  have hdown : before.phase = .active → before.committed ≠ true ∧ before.rolledBack ≠ true := by
    intro hactive
    constructor
    · exact fun hup => by cases hactive.symm.trans (hfits.committed hup)
    · exact fun hup => by cases hactive.symm.trans (hfits.rolledBack hup)
  cases h with
  | still _ hphase hcommitted hrolledBack =>
    exact ⟨fun hup => hphase.trans (hfits.committed (hcommitted hup)),
      fun hup => hphase.trans (hfits.rolledBack (hrolledBack hup))⟩
  | whole hactive _ _ hphase hrolledBack =>
    exact ⟨fun _ => hphase, fun hup => absurd (hrolledBack hup) (hdown hactive).2⟩
  | undone hactive _ _ _ hphase hcommitted =>
    exact ⟨fun hup => absurd (hcommitted hup) (hdown hactive).1, fun _ => hphase⟩
  | failed hactive _ _ _ _ _ hcommitted hrolledBack =>
    exact ⟨fun hup => absurd (hcommitted hup) (hdown hactive).1,
      fun hup => absurd (hrolledBack hup) (hdown hactive).2⟩

/-- Calls that flush may follow. -/
lemma ClosedLast.append {keys : List String} (h : ClosedLast keys calls) {more : List Entry}
    (hmore : ∀ entry ∈ more, entry.duty = .flush) : ClosedLast keys (calls ++ more) := by
  obtain ⟨front, closings, back, rfl, hclosings, hback⟩ := h
  refine ⟨front, closings, back ++ more, by simp only [List.append_assoc], hclosings, ?_⟩
  refine List.forall_mem_append.2 ⟨hback, fun entry hmem => ?_⟩
  rw [hmore entry hmem]
  exact ⟨nofun, nofun⟩

/-- Calls in which all were closed at the end. -/
lemma ClosedLast.of_closings {keys : List String} {front closings : List Entry}
    (h : Served .close keys.reverse closings) : ClosedLast keys (front ++ closings) :=
  ⟨front, closings, [], (List.append_nil _).symm, h, nofun⟩

/-- When a unit of work has ended with a step, or had before it, all controllers are closed. -/
lemma Effect.closedLast (h : Effect coordinator step before calls after) {earlier : List Entry}
    (hclosed : before.phase.IsOver → ClosedLast coordinator.keys earlier)
    (hover : after.phase.IsOver) : ClosedLast coordinator.keys (earlier ++ calls) := by
  cases h with
  | still hcalls hphase _ _ =>
    rw [hphase] at hover
    refine (hclosed hover).append fun entry hmem => ?_
    rcases hcalls with hnone | ⟨-, hflush⟩
    · rw [hnone] at hmem
      cases hmem
    · exact hflush entry hmem
  | whole _ hclosings hcalls _ _ =>
    rw [hcalls, ← List.append_assoc]
    exact .of_closings hclosings
  | undone _ _ hclosings hcalls _ _ =>
    rw [hcalls, ← List.append_assoc]
    exact .of_closings hclosings
  | @failed keys failed fault others closings _ _ hcalls _ hclosings _ _ _ =>
    have hshape : earlier ++ calls =
        earlier ++ commits keys ++ ⟨.commit, failed, some fault⟩ :: others ++ closings := by
      rw [hcalls]
      simp only [List.append_assoc, List.cons_append]
    rw [hshape]
    exact .of_closings hclosings

end Step

/-! ## All steps -/

section Run

variable {coordinator : Coordinator ω η} {history : History ω η}

/-- What each step keeps of a unit of work. -/
structure Orderly (coordinator : Coordinator ω η) (history : History ω η) : Prop where
  fits : history.session.status.Fits
  closed : history.session.work.phase.IsOver → ClosedLast coordinator.keys history.calls

lemma orderly_next (h : Orderly coordinator history) (step : Step ω η) :
    Orderly coordinator (history.next coordinator step) := by
  by_cases hstep : step = .enter
  · subst hstep
    have hstatus := Step.status_after_enter coordinator history.session
    have hphase : (history.next coordinator .enter).session.work.phase = .active :=
      congrArg Status.phase hstatus
    refine ⟨?_, ?_⟩
    · show (Step.enter.after coordinator history.session).status.Fits
      rw [hstatus]
      exact ⟨nofun, nofun⟩
    · rw [hphase]
      rintro (hover | hover) <;> cases hover
  · have heffect := effect_of_ne_enter coordinator history.session hstep
    rw [history.next_of_ne_enter coordinator hstep]
    refine ⟨heffect.fits h.fits, fun hover => ?_⟩
    rw [History.calls, List.flatMap_append, List.flatMap_singleton]
    exact heffect.closedLast h.closed hover

theorem orderly_course (coordinator : Coordinator ω η) (steps : List (Step ω η)) (world : ω) :
    Orderly coordinator (course coordinator steps world) := by
  refine course_induction coordinator steps world ⟨⟨nofun, nofun⟩, ?_⟩ fun _ step h =>
    orderly_next h step
  rintro (hover | hover) <;> cases hover

/-- A unit of work leaves the phase it starts in when it is entered, and does not come back. -/
theorem ready_iff_notMem (coordinator : Coordinator ω η) (steps : List (Step ω η)) (world : ω) :
    (course coordinator steps world).session.work.phase = .ready ↔ .enter ∉ steps := by
  induction steps using List.reverseRecOn with
  | nil => exact ⟨fun _ => List.not_mem_nil, fun _ => rfl⟩
  | append_singleton steps step ih =>
    rw [course_concat, List.mem_append, List.mem_singleton, not_or]
    by_cases hstep : step = .enter
    · subst hstep
      have hphase := congrArg Status.phase
        (Step.status_after_enter coordinator (course coordinator steps world).session)
      constructor
      · exact fun hready => by cases hphase.symm.trans hready
      · exact fun hnone => absurd rfl hnone.2
    · have heffect := effect_of_ne_enter coordinator
        (course coordinator steps world).session hstep
      rw [History.next_of_ne_enter _ _ hstep]
      constructor
      · intro hready
        refine ⟨ih.1 ?_, Ne.symm hstep⟩
        -- no step leads back to where the unit of work started
        cases heffect with
        | still _ hphase _ _ => exact hphase.symm.trans hready
        | whole _ _ _ hphase _ => cases hphase.symm.trans hready
        | undone _ _ _ _ hphase _ => cases hphase.symm.trans hready
        | failed _ _ _ _ _ hphase _ _ =>
          have hcase := hphase.symm.trans hready
          split at hcase <;> cases hcase
      · intro hnone
        have hready := ih.2 hnone.1
        have hidle : (course coordinator steps world).session.status.phase ≠ .active := by
          rw [show (course coordinator steps world).session.status.phase = .ready from hready]
          nofun
        exact (heffect.of_ne_active hidle).1.trans hready

/-- A unit of work that was not entered is not committed, nor rolled back. -/
lemma outcome_of_ready (coordinator : Coordinator ω η) {session : Session ω η}
    (h : session.work.phase = .ready) :
    coordinator.commit.outcome session =
        (.error (.unitOfWork "commit called before the unit of work was entered"), session) ∧
      coordinator.rollback.outcome session =
        (.error (.unitOfWork "rollback called before the unit of work was entered"), session) := by
  rw [Coordinator.commit, Coordinator.rollback, Action.outcome_bind_ok session.outcome_phase,
    Action.outcome_bind_ok session.outcome_phase, h]
  exact ⟨rfl, rfl⟩

/-- A step that settles a unit of work calls no controller unless that is active. -/
lemma calls_eq_nil {session : Session ω η} (h : session.work.phase ≠ .active) {step : Step ω η}
    (hstep : step.settles = true) : step.calls coordinator session = [] := by
  have hne : step ≠ .enter := by
    rintro rfl
    cases hstep
  rcases ((effect_of_ne_enter coordinator session hne).of_ne_active h).2 with hnone | ⟨rfl, -⟩
  · exact hnone
  · cases hstep

/-- Whatever controllers do and whenever they fail, and whatever steps are taken in whatever order,
a unit of work is ready, goes on and ends as it should. -/
theorem lifecycle_course (coordinator : Coordinator ω η) (steps : List (Step ω η)) (world : ω) :
    Lifecycle coordinator steps (course coordinator steps world) := by
  have horderly := orderly_course coordinator steps world
  have hidle : ∀ {phase : Phase}, phase.IsOver → phase ≠ .active := by
    rintro _ (rfl | rfl) <;> nofun
  refine ⟨ready_iff_notMem coordinator steps world, ?_, ?_, ?_, ⟨?_, ?_⟩, horderly.closed⟩
  · intro hready
    have hne : (course coordinator steps world).session.work.phase ≠ .active := by
      rw [hready]
      nofun
    obtain ⟨hcommit, hrollback⟩ := outcome_of_ready coordinator hready
    exact ⟨⟨hcommit, calls_eq_nil hne rfl⟩, hrollback, calls_eq_nil hne rfl⟩
  · intro hover step hstep
    exact ((effect_of_ne_enter _ _ hstep).of_ne_active (hidle hover)).1
  · exact fun hover step hstep => calls_eq_nil (hidle hover) hstep
  · intro hcommitted
    have hphase := horderly.fits.committed hcommitted
    refine ⟨hphase, Bool.eq_false_iff.2 fun hrolledBack => ?_⟩
    cases hphase.symm.trans (horderly.fits.rolledBack hrolledBack)
  · intro hrolledBack
    have hphase := horderly.fits.rolledBack hrolledBack
    refine ⟨hphase, Bool.eq_false_iff.2 fun hcommitted => ?_⟩
    cases hphase.symm.trans (horderly.fits.committed hcommitted)

end Run

end LinkedNotes.Transaction
