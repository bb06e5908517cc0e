import LinkedNotes.Proofs.Service.Agreement
import LinkedNotes.Proofs.Store.Keywords
import LinkedNotes.Proofs.Transaction.Outcomes
import LinkedNotes.Store.Memory

/-!
# Working on a memory directly

An operation works on copies of the two stores that its session holds; the graph is copied when it
is first used. None of that shows in what it does: it is as if it worked on a memory of its own
(`direct`), which the session starts as a copy of the committed one (`Live`).
-/

namespace LinkedNotes.Store

open Transaction
open LinkedNotes.Action (Matches)

namespace Memory

/-! ## The direct backend -/

/-- Look something up. -/
def look {α : Type} (f : Memory → α) : Action Memory α := Action.extract fun m => (f m, m)

/-- Change the rows, or fail and leave them. -/
def tryRows (step : Relational → Except Fault Relational) : Action Memory Unit := fun m =>
  match step m.relational with
  | .ok relational => .ok () { m with relational }
  | .error fault => .error fault m

/-- Change the rows. -/
def rows (step : Relational → Relational) : Action Memory Unit :=
  Action.extract fun m => ((), { m with relational := step m.relational })

/-- Change the graph, or fail if it cannot be written. -/
def nodes (step : Graph → Graph) : Action Memory Unit := fun m =>
  if m.graphReadOnly then .error (.internal "graph write failed") m
  else .ok () { m with graph := step m.graph }

/-- Take something from the supply. -/
def take {α : Type} (take : StateM Supply α) : Action Memory α :=
  Action.extract fun m => ((take m.supply).1, { m with supply := (take m.supply).2 })

/-- The backend of the service on a memory, without units of work. -/
def direct : Service.Backend (Action Memory) where
  note? note := look (·.relational.note? note)
  noteForUpdate? note := look (·.relational.note? note)
  noteTitled? user title exactly := look (·.relational.noteTitled? user title exactly)
  insertNote note := tryRows (·.insertNote note)
  updateNote note := tryRows (·.updateNote note)
  deleteNote note := rows (·.deleteNote note)
  ensureKeywords user names := Action.extract fun m =>
    let taken := m.relational.ensureKeywords user names m.supply
    (taken.1.1, { m with relational := taken.1.2, supply := taken.2 })
  keywordNamed? user name := look (·.relational.keywordNamed? user name)
  linkedNames note := look (·.relational.linkedNames note)
  replaceLinks note keywords := rows (·.replaceLinks note keywords)
  unlink note := rows (·.unlink note)
  deleteUnused user names := Action.extract fun m =>
    let deleted := Relational.deleteUnused user names m.relational
    (deleted.1, { m with relational := deleted.2 })
  putNode note := nodes (·.putNote note)
  deleteNode note := nodes (·.deleteNote note)
  countTitled user title := look (·.graph.countTitled user title)
  replaceEdges note linked represents := do
    nodes (·.replaceEdges note.id linked represents)
    look (·.graph.edgesOf note.id)
  edgesOf note := look (·.graph.edgesOf note)
  deleteKeywordNodes user names :=
    if names ≠ [] then nodes (·.deleteKeywords user names) else pure ()
  newIdentifier := take Supply.draw
  now := take Supply.now
  flush := pure ()

section Outcome

variable {m : Memory}

lemma outcome_tryRows_ok {step : Relational → Except Fault Relational} {relational : Relational}
    (h : step m.relational = .ok relational) :
    (tryRows step).outcome m = (.ok (), { m with relational }) := by
  simp only [Action.outcome, tryRows, h]

lemma outcome_tryRows_error {step : Relational → Except Fault Relational} {fault : Fault}
    (h : step m.relational = .error fault) : (tryRows step).outcome m = (.error fault, m) := by
  simp only [Action.outcome, tryRows, h]

lemma outcome_nodes (h : m.graphReadOnly = false) (step : Graph → Graph) :
    (nodes step).outcome m = (.ok (), { m with graph := step m.graph }) := by
  simp only [Action.outcome, nodes, h, Bool.false_eq_true, if_false]

lemma outcome_nodes_readOnly (h : m.graphReadOnly = true) (step : Graph → Graph) :
    (nodes step).outcome m = (.error (.internal "graph write failed"), m) := by
  simp only [Action.outcome, nodes, h, if_true]

end Outcome

/-! ## Working copies -/

/-- A scene holds the copies that an operation works on, over the committed memory `base`. The
graph is copied when it is first used; until then it is the committed one. -/
structure Works (base : Memory) (scene : Scene World Copy) (memory : Memory) : Prop where
  relational_eq : scene.world.store.relational = base.relational
  graph_eq : scene.world.store.graph = base.graph
  readOnly_eq : scene.world.store.graphReadOnly = memory.graphReadOnly
  base_readOnly_eq : base.graphReadOnly = memory.graphReadOnly
  supply_eq : scene.world.store.supply = memory.supply
  precedes : base.supply.Precedes memory.supply
  started : scene.handles.isStarted "sql" = true
  copy_eq : scene.handles.get? Copy.relationalKind "sql" = some memory.relational
  graphCopy_eq :
    scene.handles.isStarted "graph" = true ∧
        scene.handles.get? Copy.graphKind "graph" = some memory.graph ∨
      scene.handles.isStarted "graph" = false ∧ scene.handles.find? "graph" = none ∧
        memory.graph = base.graph

section Scene

variable {base : Memory} {scene : Scene World Copy} {memory : Memory}

/-- A backend that has been started is not started again. -/
lemma outcome_start {α : Type} {snapshot : Snapshot Memory Copy α}
    (h : scene.handles.isStarted snapshot.key = true) :
    snapshot.start.outcome scene = (.ok (), scene) := by
  rw [Snapshot.start, Action.outcome_get_bind, h]
  rfl

/-- The rows are copied already. -/
lemma outcome_copy_relational (h : Works base scene memory) :
    relationalStore.copy.outcome scene = (.ok memory.relational, scene) := by
  rw [Snapshot.copy, Action.outcome_bind_ok (outcome_start h.started)]
  exact Scene.outcome_handle_some h.copy_eq

/-- Other rows are put in the place of the copy. -/
lemma works_put_relational (h : Works base scene memory) (relational : Relational) :
    Works base ((relationalStore.put relational).outcome scene).2 { memory with relational } where
  relational_eq := h.relational_eq
  graph_eq := h.graph_eq
  readOnly_eq := h.readOnly_eq
  base_readOnly_eq := h.base_readOnly_eq
  supply_eq := h.supply_eq
  precedes := h.precedes
  started := h.started
  copy_eq := by
    show ((scene.handles.set "sql" (.relational relational)).find? "sql").bind _ = _
    rw [Handles.find?_set_self]
    rfl
  graphCopy_eq := by
    have hother : (scene.handles.set "sql" (.relational relational)).find? "graph" =
        scene.handles.find? "graph" := Handles.find?_set_of_ne (by decide) _ _
    rcases h.graphCopy_eq with ⟨hstarted, hcopy⟩ | ⟨hstarted, hcopy, hgraph⟩
    · refine Or.inl ⟨hstarted, ?_⟩
      show ((scene.handles.set "sql" (.relational relational)).find? "graph").bind _ = _
      rw [hother]
      exact hcopy
    · exact Or.inr ⟨hstarted, hother.trans hcopy, hgraph⟩

/-- The scene in which the graph has just been copied. -/
def copyGraph (scene : Scene World Copy) : Scene World Copy :=
  ⟨{ scene.world with calls := scene.world.calls ++ [Bench.spell "start" "graph"] },
    (scene.handles.set "graph" (.graph scene.world.store.graph)).markStarted "graph"⟩

lemma find?_copyGraph_self (scene : Scene World Copy) :
    (copyGraph scene).handles.find? "graph" = some (.graph scene.world.store.graph) := by
  unfold copyGraph Handles.markStarted
  split <;> exact Handles.find?_set_self _ _ _

lemma find?_copyGraph_of_ne {key : String} (h : "graph" ≠ key) (scene : Scene World Copy) :
    (copyGraph scene).handles.find? key = scene.handles.find? key := by
  unfold copyGraph Handles.markStarted
  split <;> exact Handles.find?_set_of_ne h _ _

lemma isStarted_copyGraph (scene : Scene World Copy) (key : String) :
    (copyGraph scene).handles.isStarted key = (key = "graph" || scene.handles.isStarted key) := by
  have hmem : key ∈ (copyGraph scene).handles.started ↔
      key = "graph" ∨ key ∈ scene.handles.started := Handles.mem_started_markStarted
  simp only [Handles.isStarted, hmem, Bool.decide_or]

lemma outcome_start_graph (h : scene.handles.isStarted "graph" = false) :
    graphStore.start.outcome scene = (.ok (), copyGraph scene) := by
  unfold Snapshot.start
  rw [Action.outcome_get_bind]
  have hkey : scene.handles.isStarted graphStore.key = false := h
  rw [hkey]
  rfl

/-- The graph is copied when it is asked for the first time. -/
lemma exists_copy_graph (h : Works base scene memory) :
    ∃ after, graphStore.copy.outcome scene = (.ok memory.graph, after) ∧
      Works base after memory ∧ after.handles.isStarted "graph" = true := by
  -- a copy that is there is used, and otherwise the committed graph is copied
  rcases h.graphCopy_eq with ⟨hstarted, hcopy⟩ | ⟨hstarted, hcopy, hgraph⟩
  · refine ⟨scene, ?_, h, hstarted⟩
    rw [Snapshot.copy, Action.outcome_bind_ok (outcome_start hstarted)]
    exact Scene.outcome_handle_some hcopy
  · have hcommitted : scene.world.store.graph = memory.graph := h.graph_eq.trans hgraph.symm
    have hget : (copyGraph scene).handles.get? Copy.graphKind "graph" = some memory.graph := by
      rw [Handles.get?, find?_copyGraph_self, hcommitted]
      rfl
    have hself : (copyGraph scene).handles.isStarted "graph" = true := by
      rw [isStarted_copyGraph]
      rfl
    refine ⟨copyGraph scene, ?_, ?_, hself⟩
    · rw [Snapshot.copy, Action.outcome_bind_ok (outcome_start_graph hstarted)]
      exact Scene.outcome_handle_some hget
    · exact {
        relational_eq := h.relational_eq
        graph_eq := h.graph_eq
        readOnly_eq := h.readOnly_eq
        base_readOnly_eq := h.base_readOnly_eq
        supply_eq := h.supply_eq
        precedes := h.precedes
        started := by
          rw [isStarted_copyGraph, h.started, Bool.or_true]
        copy_eq := by
          rw [Handles.get?, find?_copyGraph_of_ne (by decide)]
          exact h.copy_eq
        graphCopy_eq := Or.inl ⟨hself, hget⟩ }

/-- Another graph is put in the place of the copy. -/
lemma works_put_graph (h : Works base scene memory)
    (hstarted : scene.handles.isStarted "graph" = true) (graph : Graph) :
    Works base ((graphStore.put graph).outcome scene).2 { memory with graph } where
  relational_eq := h.relational_eq
  graph_eq := h.graph_eq
  readOnly_eq := h.readOnly_eq
  base_readOnly_eq := h.base_readOnly_eq
  supply_eq := h.supply_eq
  precedes := h.precedes
  started := h.started
  copy_eq := by
    show ((scene.handles.set "graph" (.graph graph)).find? "sql").bind _ = _
    rw [Handles.find?_set_of_ne (by decide)]
    exact h.copy_eq
  graphCopy_eq := by
    refine Or.inl ⟨hstarted, ?_⟩
    show ((scene.handles.set "graph" (.graph graph)).find? "graph").bind _ = _
    rw [Handles.find?_set_self]
    rfl

end Scene

/-! ## Calls to the stores -/

section Calls

variable {base : Memory} {α : Type}

lemma matches_read_relational (f : Relational → α) :
    Matches (Works base) (relationalStore.read f) (look fun m => f m.relational) := by
  intro scene memory h
  rw [Snapshot.read, Action.outcome_bind_ok (outcome_copy_relational h)]
  exact ⟨rfl, h⟩

lemma matches_change_relational (step : Relational → Relational) :
    Matches (Works base) (relationalStore.change step) (rows step) := by
  intro scene memory h
  rw [Snapshot.change, Action.outcome_bind_ok (outcome_copy_relational h)]
  exact ⟨rfl, works_put_relational h _⟩

lemma matches_tryChange_relational (step : Relational → Except Fault Relational) :
    Matches (Works base) (relationalStore.tryChange step) (tryRows step) := by
  intro scene memory h
  rw [Snapshot.tryChange, Action.outcome_bind_ok (outcome_copy_relational h)]
  cases hstep : step memory.relational with
  | ok relational =>
    rw [outcome_tryRows_ok hstep]
    exact ⟨rfl, works_put_relational h relational⟩
  | error fault =>
    rw [outcome_tryRows_error hstep]
    exact ⟨rfl, h⟩

lemma matches_read_graph (f : Graph → α) :
    Matches (Works base) (graphStore.read f) (look fun m => f m.graph) := by
  intro scene memory h
  obtain ⟨after, hcopy, hafter, -⟩ := exists_copy_graph h
  rw [Snapshot.read, Action.outcome_bind_ok hcopy]
  exact ⟨rfl, hafter⟩

/-- A write to the graph fails before the graph is copied, or changes the copy. -/
lemma matches_change_graph (step : Graph → Graph) :
    Matches (Works base) (do checkWritable; graphStore.change step) (nodes step) := by
  intro scene memory h
  have hreadOnly := h.readOnly_eq
  -- the check looks at the world, which no operation changes in this respect
  cases hfails : memory.graphReadOnly with
  | true =>
    rw [hfails] at hreadOnly
    have hcheck : checkWritable.outcome scene =
        (.error (.internal "graph write failed"), scene) := by
      unfold checkWritable
      rw [Action.outcome_get_bind, if_pos hreadOnly]
      rfl
    rw [Action.outcome_bind_error hcheck, outcome_nodes_readOnly hfails]
    exact ⟨rfl, h⟩
  | false =>
    rw [hfails] at hreadOnly
    have hcheck : checkWritable.outcome scene = (.ok (), scene) := by
      unfold checkWritable
      rw [Action.outcome_get_bind, if_neg (by rw [hreadOnly]; decide)]
      rfl
    obtain ⟨after, hcopy, hafter, hstarted⟩ := exists_copy_graph h
    rw [Action.outcome_bind_ok hcheck, Snapshot.change, Action.outcome_bind_ok hcopy,
      outcome_nodes hfails]
    exact ⟨rfl, works_put_graph hafter hstarted _⟩

/-- The supply is not copied: what is taken from it is used up. -/
lemma works_fromSupply {scene : Scene World Copy} {memory : Memory} (h : Works base scene memory)
    {t : StateM Supply α} (ht : ∀ supply : Supply, supply.Precedes (t supply).2) :
    (fromSupply t).outcome scene =
        (.ok (t memory.supply).1, ((fromSupply t).outcome scene).2) ∧
      Works base ((fromSupply t).outcome scene).2
        { memory with supply := (t memory.supply).2 } := by
  have hsupply := h.supply_eq
  refine ⟨?_, ?_⟩
  · rw [← hsupply]
    rfl
  · exact {
      relational_eq := h.relational_eq
      graph_eq := h.graph_eq
      readOnly_eq := h.readOnly_eq
      base_readOnly_eq := h.base_readOnly_eq
      supply_eq := by
        rw [← hsupply]
        rfl
      precedes := h.precedes.trans (ht memory.supply)
      started := h.started
      copy_eq := h.copy_eq
      graphCopy_eq := h.graphCopy_eq }

lemma matches_fromSupply {t : StateM Supply α}
    (ht : ∀ supply : Supply, supply.Precedes (t supply).2) :
    Matches (Works base) (fromSupply t) (take t) := by
  intro scene memory h
  obtain ⟨hvalue, hworks⟩ := works_fromSupply h ht
  exact ⟨congrArg Prod.fst hvalue, hworks⟩

lemma matches_ensureKeywords (user : Identifier) (names : List String) :
    Matches (Works base) (ensureKeywords user names) (direct.ensureKeywords user names) := by
  intro scene memory h
  obtain ⟨hvalue, hworks⟩ := works_fromSupply h
    (t := memory.relational.ensureKeywords user names)
    fun supply => Relational.precedes_ensureDistinct user _ _ supply
  unfold ensureKeywords
  rw [Action.outcome_bind_ok (outcome_copy_relational h), Action.outcome_bind_ok hvalue]
  exact ⟨rfl, works_put_relational hworks _⟩

lemma matches_deleteUnused (user : Identifier) (names : List String) :
    Matches (Works base) (deleteUnused user names) (direct.deleteUnused user names) := by
  intro scene memory h
  unfold deleteUnused
  rw [Action.outcome_bind_ok (outcome_copy_relational h)]
  exact ⟨rfl, works_put_relational h _⟩

lemma matches_replaceEdges (note : Note) (linked : List Keyword) (represents : Option Keyword) :
    Matches (Works base) (replaceEdges note linked represents)
      (direct.replaceEdges note linked represents) := by
  have hassoc : replaceEdges note linked represents =
      (do checkWritable; graphStore.change (·.replaceEdges note.id linked represents)) >>=
        fun _ => graphStore.read (·.edgesOf note.id) := by
    rw [bind_assoc]
    rfl
  rw [hassoc]
  exact (matches_change_graph _).bind fun _ => matches_read_graph _

lemma matches_deleteKeywordNodes (user : Identifier) (names : List String) :
    Matches (Works base) (deleteKeywordNodes user names)
      (direct.deleteKeywordNodes user names) :=
  (matches_change_graph _).ite (.pure ())

end Calls

end Memory

end LinkedNotes.Store
