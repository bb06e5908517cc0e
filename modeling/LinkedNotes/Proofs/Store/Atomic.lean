import LinkedNotes.Proofs.Store.Session

/-!
# All or nothing

An operation of the service that fails leaves both stores as they were, wherever in it the fault
arose. One that succeeds leaves in both stores what its working copies hold at its end. Looking at
notes never changes a store.
-/

namespace LinkedNotes.Store

open Transaction
open Memory (World Live backend coordinator service)
open LinkedNotes.Action (Matches)

/-! ## Operations -/

/-- The operations that change notes, by the type of their results. -/
inductive Change : Type → Type where
  | create (request : CreateRequest) : Change Identifier
  | update (request : UpdateRequest) : Change Note
  | delete (note : Identifier) : Change Unit
  | merge (request : MergeRequest) : Change Note

/-- The operations that look at notes. -/
inductive Query : Type → Type where
  | get (note : Identifier) : Query Note
  | newTitle (user : Identifier) : Query String

section Operations

variable {α : Type}

/-- What is done within the unit of work. -/
def Change.body : Change α → Action (Session World Copy) α
  | .create request => Service.create (backend coordinator) request
  | .update request => Service.update (backend coordinator) request
  | .delete note => Service.delete (backend coordinator) note
  | .merge request => Service.merge (backend coordinator) request

/-- The operation as the service offers it. -/
def Change.call : Change α → Action World α
  | .create request => service.create request
  | .update request => service.update request
  | .delete note => service.delete note
  | .merge request => service.merge request

@[inherit_doc Change.call]
def Query.call : Query α → Action World α
  | .get note => service.get note
  | .newTitle user => service.newTitle user

/-- The operation done directly on what is committed. -/
def Change.direct : Change α → Action Memory α
  | .create request => Service.create Memory.direct request
  | .update request => Service.update Memory.direct request
  | .delete note => Service.delete Memory.direct note
  | .merge request => Service.merge Memory.direct request

lemma Change.call_eq (change : Change α) : change.call = service.perform change.body := by
  cases change <;> rfl

lemma Change.matches_direct (change : Change α) (base : Memory) :
    Matches (Live base) change.body change.direct := by
  have hagrees := Memory.agrees_direct base
  cases change with
  | create request => exact hagrees.create request
  | update request => exact hagrees.update request
  | delete note => exact hagrees.delete note
  | merge request => exact hagrees.merge request

/-- A call has the outcome of the operation done directly, and settles it. -/
lemma Change.outcome_call (change : Change α) (world : World) :
    (change.call.outcome world).1 = (change.direct.outcome world.store).1 ∧
      (change.call.outcome world).2.store =
        Memory.settled world.store (change.direct.outcome world.store) := by
  rw [change.call_eq]
  exact Memory.outcome_perform (change.matches_direct world.store)

/-- A call that succeeds commits what the operation does. -/
lemma Change.outcome_direct_of_call (change : Change α) {world after : World} {a : α}
    (h : change.call.outcome world = (.ok a, after)) :
    change.direct.outcome world.store = (.ok a, after.store) := by
  obtain ⟨hresult, hstore⟩ := change.outcome_call world
  rw [h] at hresult hstore
  have hdirect : change.direct.outcome world.store =
      (.ok a, (change.direct.outcome world.store).2) := Prod.ext hresult.symm rfl
  rw [hdirect] at hstore
  rw [hdirect]
  exact congrArg (Prod.mk _) hstore.symm

@[inherit_doc Change.outcome_direct_of_call]
lemma Change.exists_call_of_direct (change : Change α) {world : World} {m : Memory} {a : α}
    (h : change.direct.outcome world.store = (.ok a, m)) :
    ∃ after, change.call.outcome world = (.ok a, after) ∧ after.store = m := by
  obtain ⟨hresult, hstore⟩ := change.outcome_call world
  rw [h] at hresult hstore
  exact ⟨_, Prod.ext hresult rfl, hstore⟩

/-! ## Working copies -/

/-- The working copies of both stores. The copy of a store that was not used yet is started. -/
def workingCopies : Action (Session World Copy) (Relational × Graph) := do
  let relational ← Session.onScene Memory.relationalStore.copy
  let graph ← Session.onScene Memory.graphStore.copy
  pure (relational, graph)

/-- The working copies of a live session make up the memory it works on. -/
lemma outcome_workingCopies {base memory : Memory} {session : Session World Copy}
    (h : Live base session memory) :
    (workingCopies.outcome session).1 = .ok (memory.relational, memory.graph) := by
  have hrelational : (Session.onScene Memory.relationalStore.copy).outcome session =
      (.ok memory.relational, session) :=
    session.outcome_onScene_eq (Memory.outcome_copy_relational h.works)
  obtain ⟨after, hgraph, -, -⟩ := Memory.exists_copy_graph h.works
  rw [workingCopies, Action.outcome_bind_ok hrelational,
    Action.outcome_bind_ok (session.outcome_onScene_eq hgraph)]
  rfl

/-! ## Atomicity -/

/-- The unit of work entered and the operation done in it, without its end. -/
def inside (body : Action (Session World Copy) α) (world : World) :
    Except Fault α × Session World Copy :=
  (do coordinator.enter; body : Action (Session World Copy) α).outcome { world }

/-- What the caller sees of an operation on a world is all or nothing of what is done inside. -/
structure AllOrNothing (world : World) (body : Action (Session World Copy) α)
    (call : Action World α) : Prop where
  /-- The caller gets the result from inside. -/
  result_eq : (call.outcome world).1 = (inside body world).1
  /-- With a fault, both stores are as they were. -/
  of_error : ∀ fault, (call.outcome world).1 = .error fault →
    (call.outcome world).2.store.relational = world.store.relational ∧
      (call.outcome world).2.store.graph = world.store.graph
  /-- Without a fault, both stores are the working copies. -/
  of_ok : ∀ a, (call.outcome world).1 = .ok a →
    (workingCopies.outcome (inside body world).2).1 =
      .ok ((call.outcome world).2.store.relational, (call.outcome world).2.store.graph)

variable {world : World} {body : Action (Session World Copy) α} {y : Action Memory α}

/-- An operation that is as good as working directly on what is committed is all or nothing. -/
lemma allOrNothing_perform (h : Matches (Live world.store) body y) :
    AllOrNothing world body (service.perform body) := by
  obtain ⟨hresult, hstore⟩ := Memory.outcome_perform h
  obtain ⟨session, henter, hlive⟩ := Memory.exists_enter world
  obtain ⟨hvalue, hafter⟩ := h session world.store hlive
  have hinside : inside body world = body.outcome session := Action.outcome_bind_ok henter
  constructor
  · rw [hresult, hinside, hvalue]
  · intro fault hfault
    have hdirect : y.outcome world.store = (.error fault, (y.outcome world.store).2) :=
      Prod.ext (hresult.symm.trans hfault) rfl
    rw [hstore, hdirect]
    exact ⟨rfl, rfl⟩
  · intro a hok
    have hdirect : y.outcome world.store = (.ok a, (y.outcome world.store).2) :=
      Prod.ext (hresult.symm.trans hok) rfl
    rw [hinside, hstore, outcome_workingCopies hafter, hdirect]
    rfl

/-- Looking at what is committed leaves it as it is. -/
lemma stores_eq_observe (h : Matches (Live world.store) body y) :
    ((service.observe body).outcome world).2.store.relational = world.store.relational ∧
      ((service.observe body).outcome world).2.store.graph = world.store.graph := by
  rw [(Memory.outcome_observe h).2]
  exact ⟨rfl, rfl⟩

end Operations

/-- Whatever is committed and whether or not the graph can be written, each operation that changes
notes is all or nothing, and each that looks at them leaves both stores as they are. -/
theorem allOrNothing_call (world : World) :
    (∀ {α : Type} (change : Change α), AllOrNothing world change.body change.call) ∧
      ∀ {α : Type} (query : Query α),
        (query.call.outcome world).2.store.relational = world.store.relational ∧
          (query.call.outcome world).2.store.graph = world.store.graph := by
  have hagrees := Memory.agrees_direct world.store
  constructor
  · intro α change
    cases change with
    | create request => exact allOrNothing_perform (hagrees.create request)
    | update request => exact allOrNothing_perform (hagrees.update request)
    | delete note => exact allOrNothing_perform (hagrees.delete note)
    | merge request => exact allOrNothing_perform (hagrees.merge request)
  · intro α query
    cases query with
    | get note => exact stores_eq_observe (hagrees.noteOf note)
    | newTitle user => exact stores_eq_observe (hagrees.nextUntitled user)

end LinkedNotes.Store
