import LinkedNotes.Service.Notes
import LinkedNotes.Store.Graph
import LinkedNotes.Store.Relational
import LinkedNotes.Store.Snapshot

/-!
# Stores in memory

Both stores as parts of one world, with the controllers and the backend of the service over them.
-/

namespace LinkedNotes.Store

open Transaction
open Time (Timestamp)

/-- What is committed, and where identifiers and times come from. -/
structure Memory where
  relational : Relational := {}
  graph : Graph := {}
  /-- Writing to the graph fails. -/
  graphReadOnly : Bool := false
  supply : Supply

/-- The working copy of an operation. -/
inductive Copy where
  | relational (store : Relational)
  | graph (graph : Graph)

namespace Copy

/-- The copies of the relational store. -/
def relationalKind : HandleKind Copy Relational where
  wrap := .relational
  unwrap? | .relational r => some r | .graph _ => none
  unwrap?_wrap _ := rfl

/-- The copies of the graph. -/
def graphKind : HandleKind Copy Graph where
  wrap := .graph
  unwrap? | .graph g => some g | .relational _ => none
  unwrap?_wrap _ := rfl

end Copy

namespace Memory

/-- A world with both stores. -/
abbrev World : Type := Bench Memory

/-- Two empty stores. -/
def empty (supply : Supply) : World := { store := { supply } }

/-- The relational store, which starts when an operation begins. -/
def relationalStore : Snapshot Memory Copy Relational where
  key := "sql"
  eager := true
  kind := Copy.relationalKind
  committed := (·.relational)
  publish relational memory := { memory with relational }

/-- The graph, which starts when it is first used. -/
def graphStore : Snapshot Memory Copy Graph where
  key := "graph"
  eager := false
  kind := Copy.graphKind
  committed := (·.graph)
  publish graph memory := { memory with graph }

/-- Both controllers, the relational one first. -/
def controllers : List (Controller World Copy) :=
  [relationalStore.controller, graphStore.controller]

/-- Units of work over both stores. -/
def coordinator : Coordinator World Copy := { controllers }

/-- Take something from the supply. -/
def fromSupply {α : Type} (take : StateM Supply α) : Action (Scene World Copy) α :=
  Action.extract fun scene =>
    let taken := take scene.world.store.supply
    (taken.1, { scene with
      world := { scene.world with store := { scene.world.store with supply := taken.2 } } })

/-- Fail if writing to the graph does. -/
def checkWritable : Action (Scene World Copy) Unit := do
  if (← get).world.store.graphReadOnly then throw (.internal "graph write failed")

/-- Find or add keywords in the working copy. -/
def ensureKeywords (user : Identifier) (names : List String) :
    Action (Scene World Copy) (List Keyword) := do
  let store ← relationalStore.copy
  let (keywords, store) ← fromSupply (store.ensureKeywords user names)
  relationalStore.put store
  pure keywords

/-- Drop unused keywords in the working copy. -/
def deleteUnused (user : Identifier) (names : List String) :
    Action (Scene World Copy) (List String) := do
  let (deleted, store) := Relational.deleteUnused user names (← relationalStore.copy)
  relationalStore.put store
  pure deleted

/-- Replace the edges of a note in the working copy. -/
def replaceEdges (note : Note) (linked : List Keyword) (represents : Option Keyword) :
    Action (Scene World Copy) (List Edge) := do
  checkWritable
  graphStore.change (·.replaceEdges note.id linked represents)
  graphStore.read (·.edgesOf note.id)

/-- Drop keywords in the working copy of the graph. -/
def deleteKeywordNodes (user : Identifier) (names : List String) :
    Action (Scene World Copy) Unit := do
  if names ≠ [] then
    checkWritable
    graphStore.change (·.deleteKeywords user names)

/-- The backend of the service, in units of work of a coordinator. -/
def backend (coordinator : Coordinator World Copy) :
    Service.Backend (Action (Session World Copy)) where
  note? note := Session.onScene (relationalStore.read (·.note? note))
  noteForUpdate? note := Session.onScene (relationalStore.read (·.note? note))
  noteTitled? user title exactly :=
    Session.onScene (relationalStore.read (·.noteTitled? user title exactly))
  insertNote note := Session.onScene (relationalStore.tryChange (·.insertNote note))
  updateNote note := Session.onScene (relationalStore.tryChange (·.updateNote note))
  deleteNote note := Session.onScene (relationalStore.change (·.deleteNote note))
  ensureKeywords user names := Session.onScene (ensureKeywords user names)
  keywordNamed? user name := Session.onScene (relationalStore.read (·.keywordNamed? user name))
  linkedNames note := Session.onScene (relationalStore.read (·.linkedNames note))
  replaceLinks note keywords :=
    Session.onScene (relationalStore.change (·.replaceLinks note keywords))
  unlink note := Session.onScene (relationalStore.change (·.unlink note))
  deleteUnused user names := Session.onScene (deleteUnused user names)
  putNode note := Session.onScene (do checkWritable; graphStore.change (·.putNote note))
  deleteNode note := Session.onScene (do checkWritable; graphStore.change (·.deleteNote note))
  countTitled user title := Session.onScene (graphStore.read (·.countTitled user title))
  replaceEdges note linked represents :=
    Session.onScene (replaceEdges note linked represents)
  edgesOf note := Session.onScene (graphStore.read (·.edgesOf note))
  deleteKeywordNodes user names := Session.onScene (deleteKeywordNodes user names)
  newIdentifier := Session.onScene (fromSupply Supply.draw)
  now := Session.onScene (fromSupply Supply.now)
  flush := coordinator.flush

/-- The service over units of work of a coordinator. -/
def serviceOver (coordinator : Coordinator World Copy) : Service.Notes World Copy :=
  { coordinator, backend := backend coordinator }

/-- The service over both stores. -/
def service : Service.Notes World Copy := serviceOver coordinator

end Memory

end LinkedNotes.Store
