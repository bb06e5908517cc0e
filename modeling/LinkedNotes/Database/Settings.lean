import LinkedNotes.Database.Pool
import LinkedNotes.Fault
import LinkedNotes.Text.Character

/-!
# Database settings

Where the two stores are and how to connect to them, read from named variables.
-/

namespace LinkedNotes.Database

/-- Where and how to connect both stores. -/
structure Settings where
  relationalUrl : String
  graphUrl : String
  pool : PoolLimits := {}

namespace Settings

/-- Both stores in one database. -/
def new (url : String) : Settings := { relationalUrl := url, graphUrl := url }

/-- Put the graph into another database. -/
def withGraphUrl (settings : Settings) (url : String) : Settings :=
  { settings with graphUrl := url }

/-- Use other limits for the pools. -/
def withPool (settings : Settings) (pool : PoolLimits) : Settings := { settings with pool }

/-- Both stores are in the same database. -/
def sharesDatabase (settings : Settings) : Bool := settings.relationalUrl == settings.graphUrl

/-! ## Variables -/

/-- The variable for the location of the relational store. -/
def urlVariable : String := "DATABASE_URL"

/-- The variable for the location of the graph, which may share the other's. -/
def graphUrlVariable : String := "GRAPH_DATABASE_URL"

/-- The variable for the number of connections to each store. -/
def maxConnectionsVariable : String := "DB_MAX_CONNECTIONS"

/-- A value that is not blank. -/
def filled (value : Option String) : Option String :=
  value.filter fun v => Text.trim v.toList ≠ []

/-- The fault of a number of connections that is none. -/
def badMaxConnections (value : String) : Fault :=
  .config (maxConnectionsVariable ++ " must be a positive integer, got '" ++ value ++ "'")

/-- The number of connections a value asks for. -/
def readMaxConnections (value : Option String) : Except Fault Nat :=
  match value with
  | none => .ok defaultMaxConnections
  | some value =>
    match Text.readSignedNat? Text.countLimit (Text.trim value.toList) with
    | none => .error (badMaxConnections value)
    | some n => if n = 0 then .error (badMaxConnections "0") else .ok n

/-- The settings that variables give. -/
def ofVariables (lookup : String → Option String) : Except Fault Settings :=
  match filled (lookup urlVariable) with
  | none => .error (.config (urlVariable ++ " is not set"))
  | some url => do
    let n ← readMaxConnections (lookup maxConnectionsVariable)
    return {
      relationalUrl := url
      graphUrl := (filled (lookup graphUrlVariable)).getD url
      pool := ({} : PoolLimits).withMaxConnections n }

end Settings

end LinkedNotes.Database
