import LinkedNotes.Keyed
import LinkedNotes.Text.Collection
import LinkedNotes.Text.Quoted

/-!
# Transaction contexts

What one operation holds of its backends: under the key of a backend a handle, such as an open
transaction or a working copy, and which backends have been started. The context does not look into
handles. Each backend has one kind of handle and finds only handles of its kind.
-/

namespace LinkedNotes.Transaction

/-- Handles by key, and the keys of the backends that have been started. -/
structure Handles (η : Type) where
  entries : List (String × η) := []
  started : List String := []

/-- A kind of handle, whose values are kept among handles of every kind. -/
structure HandleKind (η α : Type) where
  wrap : α → η
  unwrap? : η → Option α
  unwrap?_wrap : ∀ a, unwrap? (wrap a) = some a

namespace Handles

variable {η α : Type}

/-- The handle under a key. -/
def find? (handles : Handles η) (key : String) : Option η :=
  (Keyed.find? Prod.fst key handles.entries).map Prod.snd

/-- There is a handle under the key. -/
def has (handles : Handles η) (key : String) : Bool := (handles.find? key).isSome

/-- Put a handle under a key, in place of the one that was there. -/
def set (handles : Handles η) (key : String) (handle : η) : Handles η :=
  { handles with entries := Keyed.put Prod.fst (key, handle) handles.entries }

/-- Drop the handle under a key. -/
def remove (handles : Handles η) (key : String) : Handles η :=
  { handles with entries := Keyed.erase Prod.fst key handles.entries }

/-- The backend has been started. -/
def isStarted (handles : Handles η) (key : String) : Bool := key ∈ handles.started

/-- Remember that a backend has been started. -/
def markStarted (handles : Handles η) (key : String) : Handles η :=
  if key ∈ handles.started then handles
  else { handles with started := handles.started ++ [key] }

/-- The handle under a key, if it is of the kind. -/
def get? (kind : HandleKind η α) (handles : Handles η) (key : String) : Option α :=
  (handles.find? key).bind kind.unwrap?

/-- Take out the handle under a key, if it is of the kind. Another one stays. -/
def take (kind : HandleKind η α) (handles : Handles η) (key : String) : Option α × Handles η :=
  match handles.get? kind key with
  | some a => (some a, handles.remove key)
  | none => (none, handles)

/-- Change the handle under a key, if it is of the kind. -/
def modify (kind : HandleKind η α) (change : α → α) (handles : Handles η) (key : String) :
    Handles η :=
  match handles.get? kind key with
  | some a => handles.set key (kind.wrap (change a))
  | none => handles

theorem find?_set_self (handles : Handles η) (key : String) (handle : η) :
    (handles.set key handle).find? key = some handle := by
  have h := Keyed.find?_put_self Prod.fst (key, handle) handles.entries
  simp only [find?, set, h, Option.map_some]

theorem find?_set_of_ne {key other : String} (h : key ≠ other) (handles : Handles η)
    (handle : η) : (handles.set key handle).find? other = handles.find? other := by
  simp only [find?, set]
  rw [Keyed.find?_put_of_ne h]

theorem find?_remove_self (handles : Handles η) (key : String) :
    (handles.remove key).find? key = none := by
  simp only [find?, remove, Keyed.find?_erase_self, Option.map_none]

theorem find?_remove_of_ne {key other : String} (h : other ≠ key) (handles : Handles η) :
    (handles.remove key).find? other = handles.find? other := by
  simp only [find?, remove, Keyed.find?_erase_of_ne h]

theorem mem_started_markStarted {handles : Handles η} {key other : String} :
    other ∈ (handles.markStarted key).started ↔ other = key ∨ other ∈ handles.started := by
  unfold markStarted
  split <;> simp_all [or_comm]

end Handles

/-- The handles of an operation, and how it ended. -/
structure Context (η : Type) where
  handles : Handles η := {}
  committed : Bool := false
  rolledBack : Bool := false

namespace Context

variable {η : Type}

/-- The context of an operation that has not begun. -/
def empty : Context η := {}

/-- Note that the operation was committed. -/
def markCommitted (context : Context η) : Context η := { context with committed := true }

/-- Note that the operation was rolled back. -/
def markRolledBack (context : Context η) : Context η := { context with rolledBack := true }

/-- The context in words, without what the handles hold. -/
def describe (context : Context η) : String :=
  "TxContext \x7b handles: " ++
    Text.quoteList (Text.sorted (context.handles.entries.map Prod.fst)) ++
    ", started: " ++ Text.quoteSet context.handles.started ++
    ", committed: " ++ toString context.committed ++
    ", rolled_back: " ++ toString context.rolledBack ++ " \x7d"

end Context

end LinkedNotes.Transaction
