import LinkedNotes.Database.Connection
import LinkedNotes.Service.Notes

/-!
# Databases without connections

Both stores over pools that are closed. No transaction can be opened, so a call fails as soon as it
needs one. Some calls have nothing to do when they are given no names, and then need none.
-/

namespace LinkedNotes.Database

open Transaction

/-- A source that opens no transaction. -/
def closedSource : Source Unit Empty where
  acquire := throw (.database "attempted to acquire a connection on a closed pool")
  commit t := t.elim
  rollback t := t.elim
  check t := t.elim

/-- A session on closed pools. -/
abbrev ClosedSession : Type := Session Unit (Held Empty)

/-- A call that needs the transaction of a backend. -/
def needing {α : Type} (key : String) : Action ClosedSession α := do
  let t ← Session.onScene (transaction closedSource key)
  t.elim

/-- The units of work on closed pools. -/
def closedCoordinator : Coordinator Unit (Held Empty) := coordinator closedSource closedSource

/-- A call that does nothing without names. -/
def unlessEmpty {α : Type} (names : List String) (nothing : α) (call : Action ClosedSession α) :
    Action ClosedSession α :=
  if names = [] then pure nothing else call

/-- The calls of the service on closed pools. -/
def closedBackend (newIdentifier : Identifier) (now : Time.Timestamp) :
    Service.Backend (Action ClosedSession) where
  note? _ := needing "sql"
  noteForUpdate? _ := needing "sql"
  noteTitled? _ _ _ := needing "sql"
  insertNote _ := needing "sql"
  updateNote _ := needing "sql"
  deleteNote _ := needing "sql"
  ensureKeywords _ names := unlessEmpty names [] (needing "sql")
  keywordNamed? _ _ := needing "sql"
  linkedNames _ := needing "sql"
  replaceLinks _ _ := needing "sql"
  unlink _ := needing "sql"
  deleteUnused _ names := unlessEmpty names [] (needing "sql")
  putNode _ := needing "graph"
  deleteNode _ := needing "graph"
  countTitled _ _ := needing "graph"
  replaceEdges _ _ _ := needing "graph"
  edgesOf _ := needing "graph"
  deleteKeywordNodes _ names := unlessEmpty names () (needing "graph")
  newIdentifier := pure newIdentifier
  now := pure now
  flush := closedCoordinator.flush

/-- The service on closed pools. -/
def closedService (newIdentifier : Identifier) (now : Time.Timestamp) :
    Service.Notes Unit (Held Empty) :=
  { coordinator := closedCoordinator, backend := closedBackend newIdentifier now }

end LinkedNotes.Database
