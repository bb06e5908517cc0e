import LinkedNotes.Proofs.Transaction.Steps
import LinkedNotes.Store.Snapshot
import Mathlib.Data.List.Induction

/-!
# The course of a unit of work

Steps of a unit of work, one after the other and in any order. A unit of work that failed to commit
stays active, and can be asked to commit again. So it may end as committed after a failure, but only
if every controller has committed in a later step, and never when it was completed (`Truthful`). A
controller that has let go of its handle by then commits without doing anything, though.
-/

namespace LinkedNotes.Transaction

variable {ω η : Type}

/-! ## Histories -/

/-- A step that was taken, and the calls in it. -/
structure Done (ω η : Type) where
  step : Step ω η
  calls : List Entry

namespace Done

/-- A controller failed to commit. -/
def Failed (done : Done ω η) : Prop := ∃ entry ∈ callsFor .commit done.calls, entry.fault? ≠ none

/-- Every controller committed. -/
def IsWhole (coordinator : Coordinator ω η) (done : Done ω η) : Prop :=
  callsFor .commit done.calls = commits coordinator.keys

end Done

/-- A unit of work, and what was done since it was entered last. -/
structure History (ω η : Type) where
  session : Session ω η
  done : List (Done ω η) := []

/-- Take one more step. Entering starts the history anew. -/
def History.next (coordinator : Coordinator ω η) (history : History ω η) (step : Step ω η) :
    History ω η where
  session := step.after coordinator history.session
  done :=
    match step with
    | .enter => []
    | step => history.done ++ [⟨step, step.calls coordinator history.session⟩]

lemma History.next_of_ne_enter (coordinator : Coordinator ω η) (history : History ω η)
    {step : Step ω η} (h : step ≠ .enter) :
    history.next coordinator step = ⟨step.after coordinator history.session,
      history.done ++ [⟨step, step.calls coordinator history.session⟩]⟩ := by
  cases step with
  | enter => exact absurd rfl h
  | _ => rfl

/-- The history of some steps of a new unit of work. -/
def course (coordinator : Coordinator ω η) (steps : List (Step ω η)) (world : ω) : History ω η :=
  steps.foldl (History.next coordinator) { session := { world } }

lemma course_concat (coordinator : Coordinator ω η) (steps : List (Step ω η)) (step : Step ω η)
    (world : ω) :
    course coordinator (steps ++ [step]) world =
      (course coordinator steps world).next coordinator step := by
  rw [course, List.foldl_append]
  rfl

/-- What holds of a new unit of work and is kept by each step holds after any steps. -/
theorem course_induction {P : History ω η → Prop} (coordinator : Coordinator ω η)
    (steps : List (Step ω η)) (world : ω) (start : P { session := { world } })
    (next : ∀ history step, P history → P (history.next coordinator step)) :
    P (course coordinator steps world) := by
  induction steps using List.reverseRecOn with
  | nil => exact start
  | append_singleton steps step ih =>
    rw [course_concat]
    exact next _ step ih

/-! ## What a step means for the commits -/

/-- What a step other than entering can do to a unit of work. -/
inductive Moves (coordinator : Coordinator ω η) (before : Status) (done : Done ω η)
    (after : Status) : Prop where
  /-- No controller is asked to commit. At most, an active unit of work is rolled back. -/
  | quiet : callsFor .commit done.calls = [] →
    (after.phase = before.phase ∨ before.phase = .active ∧ after.phase = .rolledBack) →
    (after.committed = true → before.committed = true) → Moves coordinator before done after
  /-- All controllers of an active unit of work commit. -/
  | whole : before.phase = .active → done.IsWhole coordinator → after.phase = .committed →
    Moves coordinator before done after
  /-- A controller of an active unit of work fails to commit. It stays active if it was only
  committed, and is rolled back if it was completed. -/
  | failed : before.phase = .active → done.Failed → coordinator.keys ≠ [] →
    after.phase = (if done.step.isComplete then .rolledBack else .active) →
    (after.committed = true → before.committed = true) → Moves coordinator before done after

/-- All that a step does tells what it means for the commits. -/
lemma Effect.moves {coordinator : Coordinator ω η} {done : Done ω η} {before after : Status}
    (h : Effect coordinator done.step before done.calls after) :
    Moves coordinator before done after := by
  cases h with
  | still hcalls hphase hcommitted _ =>
    refine .quiet ?_ (Or.inl hphase) hcommitted
    rcases hcalls with hnone | ⟨-, hflush⟩
    · rw [hnone]
      rfl
    · refine List.filter_eq_nil_iff.2 fun entry hmem heq => ?_
      rw [hflush entry hmem] at heq
      cases of_decide_eq_true heq
  | whole hactive hclosings hcalls hphase _ =>
    refine .whole hactive ?_ hphase
    rw [Done.IsWhole, hcalls]
    exact callsFor_commits_append (hclosings.callsFor_of_ne (by decide)) _
  | undone hactive hundone hclosings hcalls hphase hcommitted =>
    refine .quiet ?_ (Or.inr ⟨hactive, hphase⟩) hcommitted
    rw [hcalls]
    exact callsFor_undone hundone hclosings
  | @failed keys failed fault others closings hactive hkeys hcalls hothers hclosings hphase
      hcommitted _ =>
    refine .failed hactive ?_ hkeys hphase hcommitted
    have hrest : callsFor .commit (others ++ closings) = [] := by
      rw [callsFor_append, hothers, hclosings.callsFor_of_ne (by decide)]
      rfl
    refine ⟨⟨.commit, failed, some fault⟩, ?_, Option.some_ne_none fault⟩
    rw [hcalls, callsFor_commits_cons hrest]
    exact List.mem_append_right _ List.mem_cons_self

/-! ## Courses -/

section Course

variable {coordinator : Coordinator ω η} {history : History ω η}

/-- A step in which a controller failed is not one in which every controller committed. -/
lemma Done.IsWhole.not_failed {done : Done ω η} (h : done.IsWhole coordinator) : ¬done.Failed := by
  rintro ⟨entry, hmem, hfault⟩
  rw [show callsFor .commit done.calls = _ from h] at hmem
  obtain ⟨key, -, rfl⟩ := List.mem_map.1 hmem
  exact hfault rfl

/-- The last step that asked a controller to commit is one in which every controller committed. -/
def Concluded (coordinator : Coordinator ω η) (done : List (Done ω η)) : Prop :=
  ∃ front last back, done = front ++ last :: back ∧ last.IsWhole coordinator ∧
    ∀ later ∈ back, callsFor .commit later.calls = []

/-- What the history of a unit of work tells about its status. -/
structure Accounted (coordinator : Coordinator ω η) (history : History ω η) : Prop where
  flagged : history.session.status.committed = true → history.session.status.phase = .committed
  concluded : history.session.status.phase = .committed → Concluded coordinator history.done
  committed : coordinator.keys ≠ [] → ∀ done ∈ history.done, done.IsWhole coordinator →
    history.session.status.phase = .committed
  keys_ne : ∀ done ∈ history.done, done.Failed → coordinator.keys ≠ []
  rolledBack : ∀ done ∈ history.done, done.Failed → done.step.isComplete = true →
    history.session.status.phase = .rolledBack

lemma Concluded.concat {done : List (Done ω η)} (h : Concluded coordinator done)
    {more : Done ω η} (hmore : callsFor .commit more.calls = []) :
    Concluded coordinator (done ++ [more]) := by
  obtain ⟨front, last, back, rfl, hlast, hback⟩ := h
  refine ⟨front, last, back ++ [more], by simp, hlast, ?_⟩
  exact List.forall_mem_append.2 ⟨hback, List.forall_mem_singleton.2 hmore⟩

section After

variable {done : Done ω η} {session : Session ω η}

/-- Nothing is to be accounted for anew if no controller was asked to commit. -/
lemma Accounted.of_quiet (h : Accounted coordinator history)
    (hcalls : callsFor .commit done.calls = [])
    (hphase : session.status.phase = history.session.status.phase ∨
      history.session.status.phase = .active ∧ session.status.phase = .rolledBack)
    (hflag : session.status.committed = true → history.session.status.committed = true) :
    Accounted coordinator ⟨session, history.done ++ [done]⟩ := by
  -- an active unit of work was neither committed nor rolled back
  have hkept : ∀ phase ≠ .active, history.session.status.phase = phase →
      session.status.phase = phase := by
    intro phase hne heq
    rcases hphase with hsame | ⟨hactive, -⟩
    · exact hsame.trans heq
    · exact absurd (heq.symm.trans hactive) hne
  have hquiet : ¬done.Failed := by
    rintro ⟨entry, hmem, -⟩
    rw [hcalls] at hmem
    exact List.not_mem_nil hmem
  constructor
  · exact fun hcommitted => hkept .committed nofun (h.flagged (hflag hcommitted))
  · intro hcommitted
    rcases hphase with hsame | ⟨-, hundone⟩
    · exact (h.concluded (hsame.symm.trans hcommitted)).concat hcalls
    · cases hundone.symm.trans hcommitted
  · intro hkeys
    refine List.forall_mem_append.2 ⟨fun earlier hmem hwhole => ?_, ?_⟩
    · exact hkept .committed nofun (h.committed hkeys earlier hmem hwhole)
    · refine List.forall_mem_singleton.2 fun hwhole => absurd ?_ hkeys
      exact List.map_eq_nil_iff.1 (hwhole.symm.trans hcalls)
  · exact List.forall_mem_append.2 ⟨h.keys_ne, List.forall_mem_singleton.2 (absurd · hquiet)⟩
  · refine List.forall_mem_append.2 ⟨fun earlier hmem hfailed hcomplete => ?_, ?_⟩
    · exact hkept .rolledBack nofun (h.rolledBack earlier hmem hfailed hcomplete)
    · exact List.forall_mem_singleton.2 fun hfailed => absurd hfailed hquiet

/-- When every controller has committed, the unit of work is. -/
lemma Accounted.of_whole (h : Accounted coordinator history)
    (hactive : history.session.status.phase = .active) (hwhole : done.IsWhole coordinator)
    (hcommitted : session.status.phase = .committed) :
    Accounted coordinator ⟨session, history.done ++ [done]⟩ := by
  constructor
  · exact fun _ => hcommitted
  · exact fun _ => ⟨history.done, done, [], rfl, hwhole, nofun⟩
  · exact fun _ _ _ _ => hcommitted
  · exact List.forall_mem_append.2
      ⟨h.keys_ne, List.forall_mem_singleton.2 (absurd · hwhole.not_failed)⟩
  · refine List.forall_mem_append.2 ⟨fun earlier hmem hfailed hcomplete => ?_, ?_⟩
    · cases hactive.symm.trans (h.rolledBack earlier hmem hfailed hcomplete)
    · exact List.forall_mem_singleton.2 fun hfailed => absurd hfailed hwhole.not_failed

/-- When a controller has failed to commit, the unit of work is not committed. -/
lemma Accounted.of_failed (h : Accounted coordinator history)
    (hactive : history.session.status.phase = .active) (hfailed : done.Failed)
    (hkeys : coordinator.keys ≠ [])
    (hphase : session.status.phase = if done.step.isComplete then .rolledBack else .active)
    (hflag : session.status.committed = true → history.session.status.committed = true) :
    Accounted coordinator ⟨session, history.done ++ [done]⟩ := by
  constructor
  · intro hcommitted
    cases hactive.symm.trans (h.flagged (hflag hcommitted))
  · intro hcommitted
    rw [show session.status.phase = _ from hphase] at hcommitted
    split at hcommitted <;> cases hcommitted
  · intro _
    refine List.forall_mem_append.2 ⟨fun earlier hmem hwhole => ?_, ?_⟩
    · cases hactive.symm.trans (h.committed hkeys earlier hmem hwhole)
    · exact List.forall_mem_singleton.2 fun hwhole => absurd hfailed hwhole.not_failed
  · exact fun _ _ _ => hkeys
  · refine List.forall_mem_append.2 ⟨fun earlier hmem hfailed hcomplete => ?_, ?_⟩
    · cases hactive.symm.trans (h.rolledBack earlier hmem hfailed hcomplete)
    · exact List.forall_mem_singleton.2 fun _ hcomplete => hphase.trans (if_pos hcomplete)

/-- What a step other than entering leaves accounted for. -/
lemma Accounted.of_moves (h : Accounted coordinator history)
    (hmoves : Moves coordinator history.session.status done session.status) :
    Accounted coordinator ⟨session, history.done ++ [done]⟩ := by
  cases hmoves with
  | quiet hcalls hphase hflag => exact h.of_quiet hcalls hphase hflag
  | whole hactive hwhole hcommitted => exact h.of_whole hactive hwhole hcommitted
  | failed hactive hfailed hkeys hphase hflag => exact h.of_failed hactive hfailed hkeys hphase hflag

end After

/-- A unit of work that is active, and with which nothing was done, is accounted for. -/
lemma accounted_nil {session : Session ω η} (hcommitted : session.status.committed = false)
    (hphase : session.status.phase ≠ .committed) :
    Accounted coordinator ⟨session, []⟩ where
  flagged h := absurd (hcommitted.symm.trans h) nofun
  concluded h := absurd h hphase
  committed _ := nofun
  keys_ne := nofun
  rolledBack := nofun

/-- Each step leaves the history accounted for. -/
lemma accounted_next (h : Accounted coordinator history) (step : Step ω η) :
    Accounted coordinator (history.next coordinator step) := by
  by_cases hstep : step = .enter
  · subst hstep
    have hstatus := Step.status_after_enter coordinator history.session
    exact accounted_nil (by rw [hstatus]) (by rw [hstatus]; nofun)
  · rw [history.next_of_ne_enter coordinator hstep]
    exact h.of_moves (effect_of_ne_enter _ _ hstep).moves

/-- Whatever steps are taken, the history of a unit of work accounts for its status. -/
theorem accounted_course (coordinator : Coordinator ω η) (steps : List (Step ω η)) (world : ω) :
    Accounted coordinator (course coordinator steps world) :=
  course_induction coordinator steps world (accounted_nil rfl nofun)
    fun _ step h => accounted_next h step

/-- What a failed commit means for a unit of work. -/
structure Truthful (coordinator : Coordinator ω η) (history : History ω η) : Prop where
  /-- After a failure, the unit of work is committed exactly if in a later step every controller
  committed, and none was asked to commit since. -/
  committed_iff : (∃ done ∈ history.done, done.Failed) →
    (history.session.work.phase = .committed ↔
      ∃ front last back, history.done = front ++ last :: back ∧ (∃ done ∈ front, done.Failed) ∧
        last.IsWhole coordinator ∧ ∀ later ∈ back, callsFor .commit later.calls = [])
  /-- If it failed when the unit of work was completed, that is rolled back. -/
  rolledBack_of_complete : ∀ done ∈ history.done, done.Failed → done.step.isComplete = true →
    history.session.work.phase = .rolledBack
  /-- The context says that the operation was committed only if the unit of work is. -/
  phase_of_committed : history.session.work.context.committed = true →
    history.session.work.phase = .committed

/-- Whatever controllers do and whenever they fail, and whatever steps are taken in whatever order,
a failed commit alone makes no unit of work committed. -/
theorem truthful_course (coordinator : Coordinator ω η) (steps : List (Step ω η)) (world : ω) :
    Truthful coordinator (course coordinator steps world) := by
  have haccounted := accounted_course coordinator steps world
  refine ⟨?_, haccounted.rolledBack, haccounted.flagged⟩
  rintro ⟨failed, hmem, hfailed⟩
  constructor
  · intro hcommitted
    obtain ⟨front, last, back, hdone, hlast, hback⟩ := haccounted.concluded hcommitted
    refine ⟨front, last, back, hdone, ⟨failed, ?_, hfailed⟩, hlast, hback⟩
    rw [hdone, List.mem_append, List.mem_cons] at hmem
    -- the failure is neither in the step where all committed nor in one without commits
    rcases hmem with hfront | rfl | hlater
    · exact hfront
    · exact absurd hfailed hlast.not_failed
    · obtain ⟨entry, hentry, -⟩ := hfailed
      rw [hback failed hlater] at hentry
      exact absurd hentry List.not_mem_nil
  · rintro ⟨front, last, back, hdone, -, hlast, -⟩
    refine haccounted.committed (haccounted.keys_ne failed hmem hfailed) last ?_ hlast
    rw [hdone]
    exact List.mem_append_right _ List.mem_cons_self

end Course

/-! ## A commit that is tried again -/

instance (done : Done ω η) : Decidable done.Failed :=
  inferInstanceAs (Decidable (∃ entry ∈ callsFor .commit done.calls, entry.fault? ≠ none))

/-- A store of one number. -/
def first : Store.Snapshot (UInt32 × UInt32) Sample UInt32 where
  key := "sql"
  eager := true
  kind := Sample.numberKind
  committed := Prod.fst
  publish n store := (n, store.2)

/-- A store of another number. -/
def second : Store.Snapshot (UInt32 × UInt32) Sample UInt32 where
  key := "graph"
  eager := false
  kind := Sample.numberKind
  committed := Prod.snd
  publish n store := (store.1, n)

/-- Units of work over both numbers, where calls fail that the bench tells to. -/
def twins : Coordinator (Bench (UInt32 × UInt32)) Sample where
  controllers := [first.controller.refusing, second.controller.refusing]

/-- Tell the second number to fail its commits, or no longer. -/
def tell (fails : Bool) : Step (Bench (UInt32 × UInt32)) Sample :=
  .use (modify fun scene =>
    { scene with world := scene.world.setFailing "commit:graph" fails })

/-- Both numbers are raised, the second one fails to commit, and the commit is tried again. -/
def retrying : List (Step (Bench (UInt32 × UInt32)) Sample) :=
  [.enter, .use (do first.change (· + 1); second.change (· + 1)), tell true, .commit, tell false,
    .commit]

/-- A commit that is tried again is reported as done, though what the second store was to commit was
dropped when the first try closed it. -/
theorem committed_retrying :
    (∃ done ∈ (course twins retrying { store := (0, 0) }).done, done.Failed) ∧
      (course twins retrying { store := (0, 0) }).session.work.phase = .committed ∧
      (course twins retrying { store := (0, 0) }).session.work.context.committed = true ∧
      (course twins retrying { store := (0, 0) }).session.world.store = (1, 0) := by
  decide +kernel

end LinkedNotes.Transaction
