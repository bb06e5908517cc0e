import LinkedNotes.Proofs.Store.Direct
import LinkedNotes.Proofs.Transaction.Outcomes

/-!
# Sessions over the stores

A session that has been entered works on a copy of what is committed (`Live`). If the operation
succeeds, the commit publishes the copy as a whole; if it fails, the rollback drops the copy as a
whole. Only the supply is shared: what an operation took from it stays taken.
-/

namespace LinkedNotes.Store.Memory

open Transaction
open LinkedNotes.Action (Matches)

/-! ## Live sessions -/

/-- The operation of the session is under way and works on `memory`, over the committed `base`. -/
structure Live (base : Memory) (session : Session World Copy) (memory : Memory) : Prop where
  works : Works base session.scene memory
  active : session.work.phase = .active

section Live

variable {base : Memory} {α : Type}

/-- What matches for the scene of a session matches for the session. -/
lemma matches_onScene {x : Action (Scene World Copy) α} {y : Action Memory α}
    (h : Matches (Works base) x y) : Matches (Live base) (Session.onScene x) y := by
  intro session memory hlive
  obtain ⟨hvalue, hworks⟩ := h session.scene memory hlive.works
  rw [Session.outcome_onScene]
  exact ⟨hvalue, ⟨hworks, hlive.active⟩⟩

/-- A flush only writes down the call, for the rows are copied already. -/
lemma matches_flush : Matches (Live base) coordinator.flush direct.flush := by
  refine matches_onScene (x := relationalStore.controller.flush) ?_
  intro scene memory h
  let after : Scene World Copy :=
    ⟨{ scene.world with calls := scene.world.calls ++ [Bench.spell "flush" "sql"] }, scene.handles⟩
  have hafter : Works base after memory :=
    ⟨h.relational_eq, h.graph_eq, h.readOnly_eq, h.base_readOnly_eq, h.supply_eq, h.precedes,
      h.started, h.copy_eq, h.graphCopy_eq⟩
  have hflush : relationalStore.controller.flush.outcome scene = (.ok (), after) := by
    show Action.outcome (do Bench.record "flush" "sql"; relationalStore.start) scene = _
    rw [Action.outcome_bind_ok (show (Bench.record "flush" "sql").outcome scene = (.ok (), after)
      from rfl)]
    exact outcome_start hafter.started
  rw [hflush]
  exact ⟨rfl, hafter⟩

/-- The backend works on a live session as the direct one does on the memory. -/
theorem agrees_direct (base : Memory) :
    Service.Agrees (Live base) (backend coordinator) direct where
  note? _ := matches_onScene (matches_read_relational _)
  noteForUpdate? _ := matches_onScene (matches_read_relational _)
  noteTitled? _ _ _ := matches_onScene (matches_read_relational _)
  insertNote _ := matches_onScene (matches_tryChange_relational _)
  updateNote _ := matches_onScene (matches_tryChange_relational _)
  deleteNote _ := matches_onScene (matches_change_relational _)
  ensureKeywords _ _ := matches_onScene (matches_ensureKeywords _ _)
  keywordNamed? _ _ := matches_onScene (matches_read_relational _)
  linkedNames _ := matches_onScene (matches_read_relational _)
  replaceLinks _ _ := matches_onScene (matches_change_relational _)
  unlink _ := matches_onScene (matches_change_relational _)
  deleteUnused _ _ := matches_onScene (matches_deleteUnused _ _)
  putNode _ := matches_onScene (matches_change_graph _)
  deleteNode _ := matches_onScene (matches_change_graph _)
  replaceEdges _ _ _ := matches_onScene (matches_replaceEdges _ _ _)
  deleteKeywordNodes _ _ := matches_onScene (matches_deleteKeywordNodes _ _)
  newIdentifier := matches_onScene (matches_fromSupply Supply.Precedes.draw)
  now := matches_onScene (matches_fromSupply Supply.Precedes.now)
  flush := matches_flush

end Live

/-- Until the commit, what is committed is as it was, but for the supply. -/
lemma Works.store_eq {base memory : Memory} {scene : Scene World Copy}
    (h : Works base scene memory) :
    scene.world.store = { base with supply := memory.supply } := by
  have hrelational := h.relational_eq
  have hgraph := h.graph_eq
  have hreadOnly := h.readOnly_eq.trans h.base_readOnly_eq.symm
  have hsupply := h.supply_eq
  rw [← hrelational, ← hgraph, ← hreadOnly, ← hsupply]

/-! ## The ends of a session -/

/-- An entered session is live and works on what is committed. -/
theorem exists_enter (world : World) : ∃ session,
    coordinator.enter.outcome { world } = (.ok (), session) ∧
      Live world.store session world.store := by
  refine ⟨_, rfl, ⟨?_, rfl⟩⟩
  exact {
    relational_eq := rfl
    graph_eq := rfl
    readOnly_eq := rfl
    base_readOnly_eq := rfl
    supply_eq := rfl
    precedes := .refl _
    started := rfl
    copy_eq := rfl
    graphCopy_eq := Or.inr ⟨rfl, rfl, rfl⟩ }

section Ends

variable {α : Type} (snapshot : Snapshot Memory Copy α) (scene : Scene World Copy)

/-- A scene after a call was written down. -/
def noted (call : String) (scene : Scene World Copy) : Scene World Copy :=
  { scene with world := { scene.world with calls := scene.world.calls ++ [call] } }

lemma outcome_record (call key : String) :
    (Bench.record call key).outcome scene = (.ok (), noted (Bench.spell call key) scene) := rfl

/-- A commit publishes the copy, if there is one, and leaves other copies alone. -/
lemma exists_commit_snapshot :
    ∃ after, snapshot.controller.commit.outcome scene = (.ok (), after) ∧
      after.world.store =
        (scene.handles.get? snapshot.kind snapshot.key).elim scene.world.store
          (snapshot.publish · scene.world.store) ∧
      ∀ key ≠ snapshot.key, after.handles.find? key = scene.handles.find? key := by
  have hstep : snapshot.controller.commit.outcome scene =
      Action.outcome _ (noted (Bench.spell "commit" snapshot.key) scene) :=
    Action.outcome_bind_ok (outcome_record scene "commit" snapshot.key)
  have htake : ∀ copy handles, scene.handles.take snapshot.kind snapshot.key = (copy, handles) →
      (Scene.take snapshot.kind snapshot.key).outcome
        (noted (Bench.spell "commit" snapshot.key) scene) =
          (.ok copy, { noted (Bench.spell "commit" snapshot.key) scene with handles }) := by
    intro copy handles h
    simp only [Scene.take, Action.extract, Action.outcome, noted, h]
  cases hcopy : scene.handles.get? snapshot.kind snapshot.key with
  | some copy =>
    have h := htake (some copy) (scene.handles.remove snapshot.key) (by rw [Handles.take, hcopy])
    rw [hstep, Action.outcome_bind_ok h]
    exact ⟨_, rfl, rfl, fun key hne => Handles.find?_remove_of_ne hne _⟩
  | none =>
    have h := htake none scene.handles (by rw [Handles.take, hcopy])
    rw [hstep, Action.outcome_bind_ok h]
    exact ⟨_, rfl, rfl, fun key _ => rfl⟩

end Ends

/-- A controller that commits goes before those that commit after it. -/
lemma outcome_commitAll_cons {controller : Controller World Copy}
    {rest : List (Controller World Copy)} {scene middle after : Scene World Copy}
    {keys : List String} {failure : Option (String × Fault)}
    (h : controller.commit.outcome scene = (.ok (), middle))
    (hrest : (Coordinator.commitAll rest).outcome middle = (.ok (keys, failure), after)) :
    (Coordinator.commitAll (controller :: rest)).outcome scene =
      (.ok (controller.key :: keys, failure), after) := by
  have hattempt : controller.commit.attempt.outcome scene = (.ok (.ok ()), middle) := by
    rw [Action.outcome_attempt, h]
  rw [Coordinator.commitAll, Action.outcome_bind_ok hattempt]
  dsimp only
  rw [Action.outcome_bind_ok hrest]
  rfl

section Committed

variable {base memory : Memory} {session : Session World Copy} {scene : Scene World Copy}

/-- All controllers commit, and the memory of the operation is what is committed then. -/
lemma exists_commitAll (h : Works base scene memory) :
    ∃ after, (Coordinator.commitAll coordinator.controllers).outcome scene =
      (.ok (["sql", "graph"], none), after) ∧ after.world.store = memory := by
  obtain ⟨middle, hfirst, hrows, hother⟩ := exists_commit_snapshot relationalStore scene
  obtain ⟨after, hsecond, hgraph, -⟩ := exists_commit_snapshot graphStore middle
  have hcopy : scene.handles.get? relationalStore.kind relationalStore.key =
      some memory.relational := h.copy_eq
  have hkept : middle.handles.get? graphStore.kind graphStore.key =
      scene.handles.get? Copy.graphKind "graph" :=
    congrArg (Option.bind · Copy.graphKind.unwrap?) (hother "graph" (by decide))
  refine ⟨after, outcome_commitAll_cons hfirst (outcome_commitAll_cons hsecond rfl), ?_⟩
  rw [hgraph, hkept, hrows, hcopy]
  -- what is committed now are the copied rows, the graph of either case and the rest as it was
  have hmemory : ⟨memory.relational, memory.graph, scene.world.store.graphReadOnly,
      scene.world.store.supply⟩ = memory := by
    rw [h.supply_eq, h.readOnly_eq]
  rcases h.graphCopy_eq with ⟨-, hgraphCopy⟩ | ⟨-, hnone, hunchanged⟩
  · rw [hgraphCopy]
    exact hmemory
  · rw [Handles.get?, hnone]
    rw [hunchanged, ← h.graph_eq] at hmemory
    exact hmemory

/-- Closing touches nothing that is committed. -/
lemma exists_closeAll (scene : Scene World Copy) :
    ∃ after, coordinator.closeAll.outcome scene = (.ok none, after) ∧
      after.world.store = scene.world.store := ⟨_, rfl, rfl⟩

lemma exists_rollbackAll (scene : Scene World Copy) :
    ∃ after, coordinator.rollbackAll.outcome scene = (.ok none, after) ∧
      after.world.store = scene.world.store := ⟨_, rfl, rfl⟩

/-- A live session can be committed, and then its memory is what is committed. -/
theorem exists_commit (h : Live base session memory) :
    ∃ after, coordinator.commit.outcome session = (.ok (), after) ∧
      after.world.store = memory ∧ after.work.phase = .committed := by
  obtain ⟨committed, hcommit, hmemory⟩ := exists_commitAll h.works
  obtain ⟨closed, hclose, hkept⟩ := exists_closeAll committed
  have houtcome := Coordinator.outcome_commit_ok h.active (session.outcome_onScene_eq hcommit)
    ((session.withScene committed).outcome_onScene_eq hclose)
  exact ⟨_, houtcome, hkept.trans hmemory, rfl⟩

/-- A live session can be rolled back, and then what is committed is as it was, but for the
supply. -/
theorem exists_rollback (h : Live base session memory) :
    ∃ after, coordinator.rollback.outcome session = (.ok (), after) ∧
      after.world.store = { base with supply := memory.supply } := by
  obtain ⟨undone, hundo, hunchanged⟩ := exists_rollbackAll session.scene
  obtain ⟨closed, hclose, hkept⟩ := exists_closeAll undone
  have houtcome := Coordinator.outcome_rollback_active h.active (session.outcome_onScene_eq hundo)
    ((session.withScene undone).outcome_onScene_eq hclose)
  exact ⟨_, houtcome, hkept.trans (hunchanged.trans h.works.store_eq)⟩

end Committed

/-! ## Whole operations -/

section Operation

variable {α : Type} {world : World} {body : Action (Session World Copy) α} {y : Action Memory α}

lemma outcome_alone (x : Action (Session World Copy) α) (world : World) :
    (Coordinator.alone x).outcome world =
      ((x.outcome { world }).1, (x.outcome { world }).2.world) := by
  simp only [Coordinator.alone, Action.outcome]
  cases x { world } <;> rfl

/-- The memory that is committed after an operation that was to be committed: the one it worked on,
or else the one before, with the supply used further. -/
def settled (base : Memory) : Except Fault α × Memory → Memory
  | (.ok _, memory) => memory
  | (.error _, memory) => { base with supply := memory.supply }

/-- Either way, what the operation took from the supply is gone. -/
lemma supply_settled (base : Memory) (outcome : Except Fault α × Memory) :
    (settled base outcome).supply = outcome.2.supply := by
  obtain ⟨r, memory⟩ := outcome
  cases r <;> rfl

/-- A fault in a live session rolls it back. -/
lemma exists_exit_error {base memory : Memory} {session : Session World Copy}
    (h : Live base session memory) (e : Fault) :
    ∃ after, (coordinator.exit (.error e : Except Fault α)).outcome session = (.error e, after) ∧
      after.world.store = { base with supply := memory.supply } := by
  obtain ⟨undone, hrollback, hstore⟩ := exists_rollback h
  exact ⟨_, Coordinator.outcome_exit_error h.active hrollback e, hstore⟩

/-- A good result of a live session is committed. -/
lemma exists_complete_ok {base memory : Memory} {session : Session World Copy}
    (h : Live base session memory) (a : α) :
    ∃ after, (coordinator.complete (.ok a)).outcome session = (.ok a, after) ∧
      after.world.store = memory := by
  obtain ⟨committed, hcommit, hstore, -⟩ := exists_commit h
  rw [Coordinator.outcome_complete_ok hcommit]
  exact ⟨_, coordinator.outcome_exit_ok a committed, hstore⟩

/-- What the service commits has the outcome of working directly on what is committed, and settles
it. -/
theorem outcome_perform (h : Matches (Live world.store) body y) :
    ((service.perform body).outcome world).1 = (y.outcome world.store).1 ∧
      ((service.perform body).outcome world).2.store =
        settled world.store (y.outcome world.store) := by
  obtain ⟨session, henter, hlive⟩ := exists_enter world
  obtain ⟨hvalue, hafter⟩ := h session world.store hlive
  have hattempt : coordinator.enter.attempt.outcome { world } = (.ok (.ok ()), session) := by
    rw [Action.outcome_attempt, henter]
  have hperform : (coordinator.perform body).outcome { world } =
      (coordinator.complete (body.outcome session).1).outcome (body.outcome session).2 := by
    rw [Coordinator.perform, Action.outcome_bind_ok hattempt]
    dsimp only
    rw [Action.outcome_bind_ok (Action.outcome_attempt body session)]
  show ((Coordinator.alone (coordinator.perform body)).outcome world).1 = _ ∧
    ((Coordinator.alone (coordinator.perform body)).outcome world).2.store = _
  rw [outcome_alone, hperform, hvalue]
  generalize y.outcome world.store = outcome at *
  obtain ⟨r, memory⟩ := outcome
  -- a value is committed, and a fault is rolled back
  cases r with
  | ok a =>
    obtain ⟨after, hcomplete, hstore⟩ := exists_complete_ok hafter a
    rw [hcomplete]
    exact ⟨rfl, hstore⟩
  | error e =>
    obtain ⟨after, hexit, hstore⟩ := exists_exit_error hafter e
    rw [Coordinator.complete, hexit]
    exact ⟨rfl, hstore⟩

/-- What the service only looks at has the outcome of working directly on what is committed, which
stays as it is but for the supply. -/
theorem outcome_observe (h : Matches (Live world.store) body y) :
    ((service.observe body).outcome world).1 = (y.outcome world.store).1 ∧
      ((service.observe body).outcome world).2.store =
        { world.store with supply := (y.outcome world.store).2.supply } := by
  obtain ⟨session, henter, hlive⟩ := exists_enter world
  obtain ⟨hvalue, hafter⟩ := h session world.store hlive
  have hattempt : coordinator.enter.attempt.outcome { world } = (.ok (.ok ()), session) := by
    rw [Action.outcome_attempt, henter]
  have hobserve : (coordinator.observe body).outcome { world } =
      (coordinator.exit (body.outcome session).1).outcome (body.outcome session).2 := by
    rw [Coordinator.observe, Action.outcome_bind_ok hattempt]
    dsimp only
    rw [Action.outcome_bind_ok (Action.outcome_attempt body session)]
  show ((Coordinator.alone (coordinator.observe body)).outcome world).1 = _ ∧
    ((Coordinator.alone (coordinator.observe body)).outcome world).2.store = _
  rw [outcome_alone, hobserve, hvalue]
  generalize y.outcome world.store = outcome at *
  obtain ⟨r, memory⟩ := outcome
  cases r with
  | ok a =>
    rw [coordinator.outcome_exit_ok a (body.outcome session).2]
    exact ⟨rfl, hafter.works.store_eq⟩
  | error e =>
    obtain ⟨after, hexit, hstore⟩ := exists_exit_error hafter e
    rw [hexit]
    exact ⟨rfl, hstore⟩

/-- Working directly only uses the supply further. -/
theorem precedes_of_matches (memory : Memory)
    (h : ∀ base : Memory, Matches (Live base) body y) :
    memory.supply.Precedes (y.outcome memory).2.supply := by
  obtain ⟨session, -, hlive⟩ := exists_enter { store := memory }
  exact (h memory session memory hlive).2.works.precedes

end Operation

end LinkedNotes.Store.Memory
