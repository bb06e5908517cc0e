import LinkedNotes.Proofs.Transaction.Protocol

/-!
# What a unit of work asks of its controllers

Each step of an active unit of work, told by the calls that its controllers get, what it comes to,
and the status it leaves.
-/

namespace LinkedNotes.Transaction

open Watched (serve faultOf)

variable {ω η α : Type}

/-- The calls during an action on a session. -/
def callsOf (x : Action (Session (Watched ω) η) α) (session : Session ω η) : List Entry :=
  (x.outcome session.watched).2.world.log

namespace Coordinator

/-- The keys of the controllers. -/
def keys (coordinator : Coordinator ω η) : List String := coordinator.controllers.map (·.key)

variable (coordinator : Coordinator ω η) {session : Session (Watched ω) η}

lemma keys_watched : coordinator.watched.keys = coordinator.keys :=
  map_key_watched coordinator.controllers

/-- All controllers are asked in reverse order. -/
lemma served_reverse {duty : Duty} {scene after : Scene (Watched ω) η} {calls : List Entry}
    (h : Asked duty coordinator.watched.controllers.reverse scene calls after) :
    Served duty coordinator.keys.reverse calls := by
  have hserved := h.served
  rw [List.map_reverse, ← keys, keys_watched] at hserved
  exact hserved

section Served

variable {after : Session (Watched ω) η} {calls : List Entry} {fault : Fault}
  {fault? : Option Fault}

lemma served_of_commitsWhole (h : CommitsWhole coordinator.watched session calls fault? after) :
    ∃ closings, Served .close coordinator.keys.reverse closings ∧
      calls = commits coordinator.keys ++ closings ∧ fault? = firstFault closings := by
  obtain ⟨-, hclose⟩ := h
  refine ⟨_, coordinator.served_reverse hclose, ?_, rfl⟩
  rw [← keys, keys_watched]

lemma served_of_commitsPartly (h : CommitsPartly coordinator.watched session calls fault after) :
    ∃ keys failed source rest closings, coordinator.keys = keys ++ failed :: rest ∧
      Served .close coordinator.keys.reverse closings ∧
      calls = commits keys ++ ⟨.commit, failed, some source⟩ :: closings ∧
      fault = reported keys failed source := by
  obtain @⟨before, behind, failing, source, failed, closed, closings, hsplit, -, hclose⟩ := h
  refine ⟨before.map (·.key), failing.key, source, behind.map (·.key), closings, ?_,
    coordinator.served_reverse hclose, rfl, ?_⟩
  · rw [← keys_watched, keys, hsplit, List.map_append, List.map_cons]
  · rw [reported]
    simp only [List.map_eq_nil_iff]

lemma served_of_rollsBack (h : RollsBack coordinator.watched session calls fault? after) :
    ∃ undone closings, Served .rollback coordinator.keys.reverse undone ∧
      Served .close coordinator.keys.reverse closings ∧ calls = undone ++ closings ∧
      fault? = (firstFault undone <|> firstFault closings) := by
  obtain ⟨hundo, hclose⟩ := h
  exact ⟨_, _, coordinator.served_reverse hundo, coordinator.served_reverse hclose, rfl, rfl⟩

end Served

/-- What the commit of an active unit of work does: each controller commits, or one fails and those
behind it are not asked. Then all are closed. -/
theorem commit_cases (h : session.work.phase = .active) : ∃ closings after,
    Served .close coordinator.keys.reverse closings ∧
    ((coordinator.watched.commit.outcome session = (resultOf (firstFault closings), after) ∧
        after.world.log = session.world.log ++ (commits coordinator.keys ++ closings) ∧
        after.status = ⟨.committed, true, session.status.rolledBack⟩) ∨
      ∃ keys failed fault rest, coordinator.keys = keys ++ failed :: rest ∧
        coordinator.watched.commit.outcome session =
          (.error (reported keys failed fault), after) ∧
        after.world.log =
          session.world.log ++ (commits keys ++ ⟨.commit, failed, some fault⟩ :: closings) ∧
        after.status = session.status) := by
  rcases coordinator.watched.commit_course h with
    ⟨calls, fault?, after, hwhole, hcommit⟩ | ⟨calls, fault, after, hpartly, hcommit⟩
  · obtain ⟨closings, hclose, hcalls, hfault⟩ := coordinator.served_of_commitsWhole hwhole
    subst hcalls hfault
    exact ⟨closings, after, hclose, Or.inl ⟨hcommit, hwhole.unwatched.2, hwhole.status_eq⟩⟩
  · obtain ⟨keys, failed, source, rest, closings, hkeys, hclose, hcalls, hfault⟩ :=
      coordinator.served_of_commitsPartly hpartly
    subst hcalls hfault
    exact ⟨closings, after, hclose, Or.inr ⟨keys, failed, source, rest, hkeys, hcommit,
      hpartly.unwatched.2, hpartly.status_eq⟩⟩

/-- What the rollback of an active unit of work does: all controllers roll back, and then all are
closed. -/
theorem exists_rollback_watched (h : session.work.phase = .active) : ∃ undone closings after,
    Served .rollback coordinator.keys.reverse undone ∧
    Served .close coordinator.keys.reverse closings ∧
    coordinator.watched.rollback.outcome session =
      (resultOf (firstFault undone <|> firstFault closings), after) ∧
    after.world.log = session.world.log ++ (undone ++ closings) ∧
    after.status = ⟨.rolledBack, session.status.committed, true⟩ := by
  obtain ⟨calls, fault?, after, hundone, hrollback⟩ := coordinator.watched.rollback_course h
  obtain ⟨undone, closings, hundo, hclose, hcalls, hfault⟩ :=
    coordinator.served_of_rollsBack hundone
  subst hcalls hfault
  exact ⟨undone, closings, after, hundo, hclose, hrollback, hundone.unwatched.2,
    hundone.status_eq⟩

/-- A fault rolls an active unit of work back, and stays the result. -/
lemma exists_exit_error_watched (h : session.work.phase = .active) (fault : Fault) :
    ∃ undone closings after,
      Served .rollback coordinator.keys.reverse undone ∧
      Served .close coordinator.keys.reverse closings ∧
      (coordinator.watched.exit (.error fault : Except Fault α)).outcome session =
        (.error fault, after) ∧
      after.world.log = session.world.log ++ (undone ++ closings) ∧
      after.status = ⟨.rolledBack, false, false⟩ := by
  obtain ⟨calls, fault?, after, hundone, hexit⟩ := coordinator.watched.exit_course h fault
  obtain ⟨undone, closings, hundo, hclose, rfl, -⟩ := coordinator.served_of_rollsBack hundone
  refine ⟨undone, closings, after.cleared, hundo, hclose, hexit, hundone.unwatched.2, ?_⟩
  rw [Session.status_cleared, hundone.status_eq]

/-- What completing an active unit of work does: if all controllers commit, it ends as it is, and
otherwise it is rolled back. -/
theorem complete_cases (h : session.work.phase = .active) (a : α) : ∃ closings after,
    Served .close coordinator.keys.reverse closings ∧
    (((coordinator.watched.complete (.ok a)).outcome session =
          ((resultOf (firstFault closings)).map fun _ => a, after) ∧
        after.world.log = session.world.log ++ (commits coordinator.keys ++ closings) ∧
        after.status = ⟨.committed, false, false⟩) ∨
      ∃ keys failed fault rest undone closings',
        coordinator.keys = keys ++ failed :: rest ∧
        Served .rollback coordinator.keys.reverse undone ∧
        Served .close coordinator.keys.reverse closings' ∧
        (coordinator.watched.complete (.ok a)).outcome session =
          (.error (reported keys failed fault), after) ∧
        after.world.log = session.world.log ++
          (commits keys ++ ⟨.commit, failed, some fault⟩ :: (closings ++ (undone ++ closings'))) ∧
        after.status = ⟨.rolledBack, false, false⟩) := by
  rcases coordinator.watched.complete_course h a with
    ⟨calls, fault?, after, hwhole, hcomplete⟩ |
      ⟨calls, fault, middle, undoings, fault?, after, hpartly, hundone, hcomplete⟩
  · obtain ⟨closings, hclose, hcalls, hfault⟩ := coordinator.served_of_commitsWhole hwhole
    subst hcalls hfault
    refine ⟨closings, after.cleared, hclose, Or.inl ⟨hcomplete, hwhole.unwatched.2, ?_⟩⟩
    rw [Session.status_cleared, hwhole.status_eq]
  · obtain ⟨keys, failed, source, rest, closings, hkeys, hclose, hcalls, hfault⟩ :=
      coordinator.served_of_commitsPartly hpartly
    obtain ⟨undone, closings', hundo, hclose', hundoings, -⟩ :=
      coordinator.served_of_rollsBack hundone
    subst hcalls hfault hundoings
    refine ⟨closings, after.cleared, hclose, Or.inr ⟨keys, failed, source, rest, undone, closings',
      hkeys, hundo, hclose', hcomplete, ?_, ?_⟩⟩
    · show after.world.log = _
      rw [hundone.unwatched.2, hpartly.unwatched.2]
      simp only [List.append_assoc, List.cons_append]
    · rw [Session.status_cleared, hundone.status_eq]

/-- A flush calls one controller at most, and leaves the status. -/
lemma exists_flush_watched (session : Session (Watched ω) η) : ∃ result after calls,
    coordinator.watched.flush.outcome session = (result, after) ∧
      after.world.log = session.world.log ++ calls ∧
      (∀ entry ∈ calls, entry.duty = .flush) ∧ after.status = session.status := by
  unfold flush
  rw [find?_watched]
  cases Keyed.find? (·.key) coordinator.watched.flushKey coordinator.controllers with
  | none => exact ⟨_, session, [], rfl, (List.append_nil _).symm, nofun, rfl⟩
  | some controller =>
    show ∃ result after calls,
      (Session.onScene controller.watched.flush).outcome session = (result, after) ∧ _
    rw [Session.outcome_onScene]
    cases hflush : controller.flush? with
    | none =>
      have hquiet : controller.watched.flush = (pure () : Action (Scene (Watched ω) η) Unit) := by
        rw [Controller.flush, Controller.watched, hflush]
        rfl
      rw [hquiet]
      exact ⟨_, _, [], rfl, (List.append_nil _).symm, nofun, rfl⟩
    | some flush =>
      have hserve : controller.watched.flush = serve .flush controller.key flush := by
        rw [Controller.flush, Controller.watched, hflush]
        rfl
      obtain ⟨result, scene, houtcome, -, -, hlog⟩ :=
        Watched.exists_outcome_serve .flush controller.key flush session.scene
      rw [hserve, houtcome]
      refine ⟨_, _, [⟨.flush, controller.key, faultOf result⟩], rfl, hlog, ?_, rfl⟩
      intro entry hmem
      rw [List.mem_singleton.1 hmem]

end Coordinator

end LinkedNotes.Transaction
