import LinkedNotes.Proofs.Transaction.Watched

/-!
# Asking controllers in turn

A unit of work asks its controllers one after the other. What that does to the scene is what the
controllers do in turn, and the calls tell what came of each (`Asked`). Rolling back and closing go
on whichever controllers fail; committing goes up to the first one that does.
-/

namespace LinkedNotes.Transaction

open Watched (serve faultOf unwatch)

variable {ω η : Type}

/-! ## Calls -/

/-- The first fault that came of some calls. -/
def firstFault (calls : List Entry) : Option Fault := calls.findSome? (·.fault?)

/-- The calls are for one duty, to controllers with the keys in turn. -/
def Served (duty : Duty) (keys : List String) (calls : List Entry) : Prop :=
  calls.map (fun entry => (entry.duty, entry.key)) = keys.map fun key => (duty, key)

/-- Commits that all succeed. -/
def commits (keys : List String) : List Entry := keys.map fun key => ⟨.commit, key, none⟩

lemma served_commits (keys : List String) : Served .commit keys (commits keys) := by
  simp [Served, commits]

/-! ## Answers -/

/-- What a controller does when it is asked to. -/
def Controller.answer (controller : Controller ω η) : Duty → Action (Scene ω η) Unit
  | .begin => controller.begin
  | .ensureStarted => controller.ensureStarted
  | .commit => controller.commit
  | .rollback => controller.rollback
  | .close => controller.close
  | .flush => controller.flush

/-- Controllers are asked for a duty, one after the other and whichever fail. -/
inductive Asked (duty : Duty) :
    List (Controller ω η) → Scene ω η → List Entry → Scene ω η → Prop where
  | nil (scene : Scene ω η) : Asked duty [] scene [] scene
  | cons {controller : Controller ω η} {rest : List (Controller ω η)}
    {scene middle after : Scene ω η} {result : Except Fault Unit} {calls : List Entry} :
    (controller.answer duty).outcome scene = (result, middle) → Asked duty rest middle calls after →
    Asked duty (controller :: rest) scene (⟨duty, controller.key, faultOf result⟩ :: calls) after

namespace Asked

variable {duty : Duty} {controllers : List (Controller ω η)} {scene after : Scene ω η}
  {calls : List Entry}

lemma served (h : Asked duty controllers scene calls after) :
    Served duty (controllers.map (·.key)) calls := by
  induction h with
  | nil scene => rfl
  | cons _ _ ih => exact congrArg (_ :: ·) ih

/-- Where calls are written down, they are those that were made. -/
lemma unwatched {scene after : Scene (Watched ω) η}
    (hduty : ∀ c : Controller ω η, c.watched.answer duty = serve duty c.key (c.answer duty))
    (h : Asked duty (controllers.map Controller.watched) scene calls after) :
    Asked duty controllers (unwatch scene) calls (unwatch after) ∧
      after.world.log = scene.world.log ++ calls := by
  induction controllers generalizing scene calls with
  | nil =>
    cases h
    exact ⟨.nil _, (List.append_nil _).symm⟩
  | cons controller rest ih =>
    obtain _ | ⟨hanswer, hrest⟩ := h
    obtain ⟨asked, hlog⟩ := ih hrest
    obtain ⟨result, middle, hserve, hmiddle, hresult, hnoted⟩ :=
      Watched.exists_outcome_serve duty controller.key (controller.answer duty) scene
    rw [hduty, hserve] at hanswer
    cases hanswer
    rw [hmiddle] at asked
    refine ⟨.cons (Prod.ext hresult.symm rfl) asked, ?_⟩
    rw [hlog, hnoted, List.append_assoc]
    rfl

end Asked

/-! ## All controllers -/

namespace Coordinator

/-- A sweep asks all controllers and comes to the first fault. -/
lemma exists_asked_sweep (duty : Duty) (controllers : List (Controller ω η)) (scene : Scene ω η) :
    ∃ calls after, Asked duty controllers scene calls after ∧
      (sweep (·.answer duty) controllers).outcome scene = (.ok (firstFault calls), after) := by
  induction controllers generalizing scene with
  | nil => exact ⟨[], scene, .nil scene, rfl⟩
  | cons controller rest ih =>
    have hattempt := Action.outcome_attempt (controller.answer duty) scene
    cases hanswer : (controller.answer duty).outcome scene with
    | mk result middle =>
      rw [hanswer] at hattempt
      obtain ⟨calls, after, hasked, hrest⟩ := ih middle
      refine ⟨_, after, .cons hanswer hasked, ?_⟩
      rw [sweep, Action.outcome_bind_ok hattempt]
      cases result with
      | ok _ => exact hrest
      | error fault => exact Action.outcome_bind_ok (Action.outcome_discard hrest)

/-- Commits go on up to the first that fails. -/
lemma commitAll_asked_cases (controllers : List (Controller ω η)) (scene : Scene ω η) :
    (∃ after, Asked .commit controllers scene (commits (controllers.map (·.key))) after ∧
      (commitAll controllers).outcome scene = (.ok (controllers.map (·.key), none), after)) ∨
    ∃ before failing behind fault after, controllers = before ++ failing :: behind ∧
      Asked .commit (before ++ [failing]) scene
        (commits (before.map (·.key)) ++ [⟨.commit, failing.key, some fault⟩]) after ∧
      (commitAll controllers).outcome scene =
        (.ok (before.map (·.key), some (failing.key, fault)), after) := by
  induction controllers generalizing scene with
  | nil => exact Or.inl ⟨scene, .nil scene, rfl⟩
  | cons controller rest ih =>
    have hattempt := Action.outcome_attempt controller.commit scene
    cases hcommit : controller.commit.outcome scene with
    | mk result middle =>
      rw [hcommit] at hattempt
      rw [commitAll, Action.outcome_bind_ok hattempt]
      have hanswer : (controller.answer .commit).outcome scene = (result, middle) := hcommit
      cases result with
      | error fault =>
        exact Or.inr ⟨[], controller, rest, fault, middle, rfl, .cons hanswer (.nil middle), rfl⟩
      | ok _ =>
        rcases ih middle with ⟨after, hasked, hrest⟩ | ⟨before, failing, behind, fault, after,
          rfl, hasked, hrest⟩
        · exact Or.inl ⟨after, .cons hanswer hasked, Action.outcome_bind_ok hrest⟩
        · exact Or.inr ⟨controller :: before, failing, behind, fault, after, rfl,
            .cons hanswer hasked, Action.outcome_bind_ok hrest⟩

end Coordinator

end LinkedNotes.Transaction
