/-!
# Connection pools

The limits of a pool of database connections, and how busy one is.
-/

namespace LinkedNotes.Database

/-- Which store a pool serves. -/
inductive Store where
  | relational
  | graph
  deriving DecidableEq, Repr

/-- The word for a store. -/
def Store.toText : Store → String
  | .relational => "relational"
  | .graph => "graph"

/-- The number of connections a pool opens at most, unless told otherwise. -/
def defaultMaxConnections : Nat := 10

/-- The limits of a pool. Times are in seconds. -/
structure PoolLimits where
  maxConnections : Nat := defaultMaxConnections
  minConnections : Nat := 1
  /-- How long to wait for a connection. -/
  acquireTimeout : Nat := 30
  /-- How long a connection may be idle. -/
  idleTimeout : Nat := 600
  /-- How long a connection may live; without a limit, until it goes idle. -/
  maxLifetime : Option Nat := some 1800
  deriving DecidableEq, Repr

namespace PoolLimits

/-- Allow at most `n` connections, and lower the least number to fit. -/
def withMaxConnections (limits : PoolLimits) (n : Nat) : PoolLimits :=
  { limits with maxConnections := n, minConnections := min limits.minConnections n }

/-- Wait for a connection so many seconds. -/
def withAcquireTimeout (limits : PoolLimits) (seconds : Nat) : PoolLimits :=
  { limits with acquireTimeout := seconds }

/-- Let connections live so many seconds, or as long as they are used. -/
def withMaxLifetime (limits : PoolLimits) (seconds : Option Nat) : PoolLimits :=
  { limits with maxLifetime := seconds }

end PoolLimits

/-- How many connections a pool has, and how many of them are idle. -/
structure PoolHealth where
  size : Nat
  idle : Nat
  deriving DecidableEq, Repr

namespace PoolHealth

/-- The pool has connections, and all of them are in use. -/
def isExhausted (health : PoolHealth) : Bool := 0 < health.size && health.idle == 0

/-- The health of a pool that has been closed: it has no connections. -/
def closed : PoolHealth := ⟨0, 0⟩

end PoolHealth

end LinkedNotes.Database
