import LinkedNotes.Proofs.Transaction.Deeds
import LinkedNotes.Proofs.Transaction.Keeper

/-!
# The errands of keepers

What a keeper does in an errand is told by the calls that are written down when it is watched
(`Errand.runs_watched`). If it cannot open a transaction, the handles stay as they are. One that is
gone is missed (`Errand.IsAccess.outcome_of_gone`).
-/

namespace LinkedNotes.Transaction

variable {ω η α β : Type}

/-! ## What keepers do -/

variable {key : String}

/-- What a keeper did from one scene to the other is at the end of the log, and it opened nothing. -/
def Led (key : String) (before : Scene (Watched ω) η) (after : Scene (Watched ω) η) : Prop :=
  ∃ calls, after.world.log = before.world.log ++ calls ∧
    Does key before.handles calls after.handles ∧ ∀ entry ∈ calls, entry.duty ≠ .ensureStarted

/-- An action of a keeper that opens nothing. -/
def Leads (key : String) (x : Action (Scene (Watched ω) η) α) : Prop :=
  ∀ scene, Led key scene (x.outcome scene).2

/-- Nothing but the world has changed. -/
lemma Led.still {before : Scene (Watched ω) η} {world : ω} :
    Led key before ⟨⟨world, before.world.log⟩, before.handles⟩ :=
  ⟨[], (List.append_nil _).symm, .still nofun, nofun⟩

lemma Led.trans {before middle after : Scene (Watched ω) η} (h : Led key before middle)
    (h' : Led key middle after) : Led key before after := by
  obtain ⟨calls, hlog, hdoes, hcalls⟩ := h
  obtain ⟨others, hlog', hdoes', hothers⟩ := h'
  refine ⟨calls ++ others, ?_, hdoes.trans hdoes', List.forall_mem_append.2 ⟨hcalls, hothers⟩⟩
  rw [hlog', hlog, List.append_assoc]

namespace Leads

lemma bind {x : Action (Scene (Watched ω) η) α} {f : α → Action (Scene (Watched ω) η) β}
    (hx : Leads key x) (hf : ∀ a, Leads key (f a)) : Leads key (x >>= f) := by
  intro scene
  have hled := hx scene
  rw [Action.outcome_bind]
  cases hmiddle : x.outcome scene with
  | mk result middle =>
    rw [hmiddle] at hled
    cases result with
    | error fault => exact hled
    | ok a => exact hled.trans (hf a middle)

end Leads

namespace Watched

lemma outcome_lift (x : Action ω α) (watched : Watched ω) :
    (lift x).outcome watched =
      ((x.outcome watched.world).1, ⟨(x.outcome watched.world).2, watched.log⟩) :=
  Action.outcome_within _ _ x watched

lemma tell_cases (duty : Duty) (key : String) (x : Action ω α) (watched : Watched ω) :
    (∃ a world, (tell duty key x).outcome watched =
      (.ok a, ⟨world, watched.log ++ [⟨duty, key, none⟩]⟩)) ∨
    ∃ fault world, (tell duty key x).outcome watched =
      (.error fault, ⟨world, watched.log ++ [⟨duty, key, some fault⟩]⟩) := by
  simp only [Action.outcome, tell]
  cases x watched.world with
  | ok a world => exact Or.inl ⟨a, world, rfl⟩
  | error fault world => exact Or.inr ⟨fault, world, rfl⟩

lemma leads_onWorld (x : Action ω α) : Leads (η := η) key (Scene.onWorld (lift x)) := by
  intro scene
  rw [Scene.outcome_onWorld, outcome_lift]
  exact .still

end Watched

namespace Keeper

/-- A commit or a rollback ends the transaction if there is one, whether or not it fails. -/
lemma leads_finish (keeper : Keeper ω η α) {duty : Duty} (hduty : duty = .commit ∨ duty = .rollback)
    (conclude : α → Action ω Unit) :
    Leads keeper.key
      (keeper.watched.finish fun a => Watched.tell duty keeper.key (conclude a)) := by
  intro scene
  cases hget : scene.handles.get? keeper.kind keeper.key with
  | none =>
    rw [keeper.watched.outcome_finish_none _ hget]
    exact .still
  | some a =>
    rw [keeper.watched.outcome_finish_some _ hget, Scene.outcome_onWorld]
    have hdeed : ∀ fault?, Entry.deed? ⟨duty, keeper.key, fault?⟩ = some .ended := by
      rcases hduty with rfl | rfl <;> exact fun _ => rfl
    have hother : ∀ fault?, ∀ entry ∈ [(⟨duty, keeper.key, fault?⟩ : Entry)],
        entry.duty ≠ .ensureStarted := by
      intro fault? entry hmem
      rw [List.mem_singleton.1 hmem]
      rcases hduty with rfl | rfl <;> nofun
    rcases Watched.tell_cases duty keeper.key (conclude a) scene.world with
      ⟨_, world, heq⟩ | ⟨fault, world, heq⟩
    · rw [heq]
      exact ⟨_, rfl, .ended (Handles.has_of_get? hget) rfl (hdeed _), hother _⟩
    · rw [heq]
      exact ⟨_, rfl, .ended (Handles.has_of_get? hget) rfl (hdeed _), hother _⟩

lemma leads_handle (keeper : Keeper ω η α) :
    Leads (ω := ω) keeper.key (Scene.handle keeper.kind keeper.key) := by
  intro scene
  cases hget : scene.handles.get? keeper.kind keeper.key with
  | none =>
    rw [Scene.outcome_handle_none hget]
    exact .still
  | some a =>
    rw [Scene.outcome_handle_some hget]
    exact .still

/-- A changed transaction takes the place of the one that was there. -/
lemma leads_change (keeper : Keeper ω η α) (step : α → Except Fault α) :
    Leads keeper.key (keeper.watched.run (.change step)) := by
  intro scene
  cases hget : scene.handles.get? keeper.kind keeper.key with
  | none =>
    rw [keeper.watched.outcome_run_missing rfl hget]
    exact .still
  | some a =>
    rw [keeper.watched.outcome_run_change _ hget]
    cases step a with
    | error fault => exact .still
    | ok b => exact ⟨[], (List.append_nil _).symm, .changed (Handles.has_of_get? hget), nofun⟩

lemma leads_run (keeper : Keeper ω η α) (task : Task ω α) :
    Leads keeper.key (keeper.watched.run task.watched) := by
  cases task with
  | look work => exact keeper.leads_handle.bind fun _ => Watched.leads_onWorld _
  | change step => exact keeper.leads_change step
  | commit => exact keeper.leads_finish (Or.inl rfl) keeper.commit
  | rollback => exact keeper.leads_finish (Or.inr rfl) keeper.rollback
  | drop => exact fun scene => ⟨[], (List.append_nil _).symm, .dropped, nofun⟩

lemma leads_runAll (keeper : Keeper ω η α) (tasks : List (Task ω α)) :
    Leads keeper.key (keeper.watched.runAll (tasks.map Task.watched)) := by
  induction tasks with
  | nil => exact fun _ => .still
  | cons task rest ih => exact (keeper.leads_run task).bind fun _ => ih

/-- What comes of opening a transaction. If it fails, the handles stay as they are. -/
lemma enroll_cases (keeper : Keeper ω η α) (scene : Scene (Watched ω) η) :
    (∃ handle world, keeper.watched.enroll.outcome scene =
      (.ok (), ⟨⟨world, scene.world.log ++ [⟨.ensureStarted, keeper.key, none⟩]⟩,
        (scene.handles.set keeper.key handle).markStarted keeper.key⟩)) ∨
    ∃ fault world, keeper.watched.enroll.outcome scene =
      (.error fault, ⟨⟨world, scene.world.log ++ [⟨.ensureStarted, keeper.key, some fault⟩]⟩,
        scene.handles⟩) := by
  have hopen := Scene.outcome_onWorld keeper.watched.acquire scene
  rcases Watched.tell_cases .ensureStarted keeper.key keeper.acquire scene.world with
    ⟨a, world, heq⟩ | ⟨fault, world, heq⟩
  · rw [show keeper.watched.acquire.outcome scene.world = _ from heq] at hopen
    rw [enroll, Action.outcome_bind_ok hopen]
    exact Or.inl ⟨keeper.kind.wrap a, world, rfl⟩
  · rw [show keeper.watched.acquire.outcome scene.world = _ from heq] at hopen
    rw [enroll, Action.outcome_bind_error hopen]
    exact Or.inr ⟨fault, world, rfl⟩

end Keeper

/-! ## Errands -/

/-- What an errand does to the handles, by its calls and what it comes to. -/
structure Ran (key : String) (before : Handles η) (calls : List Entry)
    (result : Except Fault Unit) (after : Handles η) : Prop where
  does : Does key before calls after
  /-- If no transaction could be opened, that is what the errand comes to. -/
  refused : ∀ entry ∈ calls, entry.duty = .ensureStarted → ∀ fault, entry.fault? = some fault →
    result = .error fault ∧ after = before

/-- What an errand does from one scene to the other is at the end of the log. -/
def Runs (key : String) (before : Scene (Watched ω) η)
    (outcome : Except Fault Unit × Scene (Watched ω) η) : Prop :=
  ∃ calls, outcome.2.world.log = before.world.log ++ calls ∧
    Ran key before.handles calls outcome.1 outcome.2.handles

/-- An errand that opens nothing. -/
lemma Led.runs {before : Scene (Watched ω) η}
    {outcome : Except Fault Unit × Scene (Watched ω) η} (h : Led key before outcome.2) :
    Runs key before outcome := by
  obtain ⟨calls, hlog, hdoes, hcalls⟩ := h
  exact ⟨calls, hlog, hdoes, fun entry hmem hduty => absurd hduty (hcalls entry hmem)⟩

/-- An errand that goes on when a transaction was opened. -/
lemma Led.runs_opened {before : Scene (Watched ω) η} {handle : η} {world : ω}
    {outcome : Except Fault Unit × Scene (Watched ω) η}
    (hnew : before.handles.isStarted key = false)
    (h : Led key ⟨⟨world, before.world.log ++ [⟨.ensureStarted, key, none⟩]⟩,
      (before.handles.set key handle).markStarted key⟩ outcome.2) : Runs key before outcome := by
  obtain ⟨calls, hlog, hdoes, hcalls⟩ := h
  refine ⟨_, hlog.trans (List.append_assoc _ _ _), (Does.opened hnew).trans hdoes, ?_⟩
  intro entry hmem hduty fault hfault
  rcases List.mem_append.1 hmem with hmem | hmem
  · rw [List.mem_singleton.1 hmem] at hfault
    cases hfault
  · exact absurd hduty (hcalls entry hmem)

/-- An errand that ends because no transaction could be opened. -/
lemma runs_refused {before : Scene (Watched ω) η} {fault : Fault} {world : ω} :
    Runs key before (.error fault,
      ⟨⟨world, before.world.log ++ [⟨.ensureStarted, key, some fault⟩]⟩, before.handles⟩) := by
  refine ⟨_, rfl, .still ?_, ?_⟩
  · intro entry hmem
    rw [List.mem_singleton.1 hmem]
    rfl
  · intro entry hmem _ fault' hfault
    rw [List.mem_singleton.1 hmem] at hfault
    cases hfault
    exact ⟨rfl, rfl⟩

namespace Errand

lemma ready_cases (errand : Errand ω η) (scene : Scene (Watched ω) η) :
    errand.watched.ready.outcome scene = (.ok (), scene) ∨
    scene.handles.isStarted errand.keeper.key = false ∧
      errand.watched.ready.outcome scene = errand.keeper.watched.enroll.outcome scene := by
  cases hstarts : errand.starts with
  | false =>
    refine Or.inl ?_
    rw [ready, show errand.watched.starts = false from hstarts]
    rfl
  | true =>
    rw [ready, show errand.watched.starts = true from hstarts, if_pos rfl]
    cases h : scene.handles.isStarted errand.keeper.key with
    | true => exact Or.inl (errand.keeper.watched.outcome_start_of_started h)
    | false =>
      exact Or.inr ⟨rfl, errand.keeper.watched.outcome_start_of_not_started h⟩

/-- When a keeper has its turn, the handles and the log are still as before. -/
lemma run_cases (errand : Errand ω η) (scene : Scene (Watched ω) η) : ∃ world,
    (∃ fault, errand.watched.run.outcome scene =
      (.error fault, ⟨⟨world, scene.world.log⟩, scene.handles⟩)) ∨
    errand.watched.run.outcome scene =
      (errand.watched.ready >>= fun _ =>
        errand.keeper.watched.runAll (errand.tasks.map Task.watched)).outcome
        ⟨⟨world, scene.world.log⟩, scene.handles⟩ := by
  have hprelude : (Scene.onWorld errand.watched.prelude).outcome scene = _ :=
    (Scene.outcome_onWorld _ scene).trans (by rw [watched, Watched.outcome_lift])
  refine ⟨(errand.prelude.outcome scene.world.world).2, ?_⟩
  rw [run]
  cases hresult : (errand.prelude.outcome scene.world.world).1 with
  | error fault =>
    rw [hresult] at hprelude
    exact Or.inl ⟨fault, Action.outcome_bind_error hprelude⟩
  | ok _ =>
    rw [hresult] at hprelude
    exact Or.inr (Action.outcome_bind_ok hprelude)

/-- All that an errand does is at the end of the log. -/
theorem runs_watched (errand : Errand ω η) (scene : Scene (Watched ω) η) :
    Runs errand.keeper.key scene (errand.watched.run.outcome scene) := by
  obtain ⟨world, ⟨fault, heq⟩ | heq⟩ := errand.run_cases scene
  · rw [heq]
    exact Led.still.runs
  · have hrest := errand.keeper.leads_runAll errand.tasks
    rw [heq]
    rcases errand.ready_cases ⟨⟨world, scene.world.log⟩, scene.handles⟩ with hready | ⟨hnew, hready⟩
    · rw [Action.outcome_bind_ok hready]
      exact (hrest _).runs
    · rcases errand.keeper.enroll_cases ⟨⟨world, scene.world.log⟩, scene.handles⟩ with
        ⟨handle, world', hopen⟩ | ⟨fault, world', hopen⟩
      · rw [Action.outcome_bind_ok (hready.trans hopen)]
        exact (hrest _).runs_opened hnew
      · rw [Action.outcome_bind_error (hready.trans hopen)]
        exact runs_refused

end Errand

/-! ## Access -/

/-- The errand does nothing before it gets at the transaction. -/
structure Errand.IsAccess (errand : Errand ω η) : Prop where
  prelude : errand.prelude = pure ()
  starts : errand.starts = true
  tasks : ∃ task rest, errand.tasks = task :: rest ∧ task.isAccess = true

namespace Errand.IsAccess

variable {errand : Errand ω η}

lemma watched (h : errand.IsAccess) : errand.watched.IsAccess := by
  obtain ⟨task, rest, htasks, htask⟩ := h.tasks
  refine ⟨?_, h.starts, task.watched, rest.map Task.watched, ?_, ?_⟩
  · show Watched.lift errand.prelude = pure ()
    rw [h.prelude]
    rfl
  · show errand.tasks.map Task.watched = _
    rw [htasks]
    rfl
  · cases task with
    | look work => rfl
    | change step => rfl
    | _ => cases htask

/-- A transaction that is gone is missed, and not opened again. -/
theorem outcome_of_gone (h : errand.IsAccess) (scene : Scene ω η)
    (hgone : Gone errand.keeper.key scene.handles) :
    errand.run.outcome scene = (.error (.missingHandle errand.keeper.key), scene) := by
  obtain ⟨task, rest, htasks, htask⟩ := h.tasks
  have hready : errand.ready.outcome scene = (.ok (), scene) := by
    rw [ready, h.starts, if_pos rfl]
    exact errand.keeper.outcome_start_of_started hgone.started
  have hmissing := errand.keeper.outcome_run_missing htask
    (Handles.get?_of_not_has errand.keeper.kind hgone.missing)
  rw [run, h.prelude, htasks]
  refine (Action.outcome_bind_ok (a := ()) rfl).trans ?_
  rw [Action.outcome_bind_ok hready]
  exact Action.outcome_bind_error hmissing

end Errand.IsAccess

end LinkedNotes.Transaction
