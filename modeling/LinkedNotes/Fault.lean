import LinkedNotes.Identifier
import LinkedNotes.Patch.Fault

/-!
# Faults

Everything that can go wrong in an operation on notes, with its wording.
-/

namespace LinkedNotes

/-- Why an operation failed. -/
inductive Fault where
  /-- A database refused. -/
  | database (reason : String)
  /-- Something asked for does not exist. -/
  | notFound (what : String)
  /-- There is no note with the identifier. -/
  | noteNotFound (note : Identifier)
  /-- A patch does not fit the current text. -/
  | patchApply (reason : String)
  /-- Another note of the user has the title. -/
  | titleTaken (title : String)
  /-- A request makes no sense. -/
  | invalidInput (reason : String)
  /-- The user may not do this. -/
  | forbidden (reason : String)
  /-- A backend was started but its handle is gone. -/
  | missingHandle (backend : String)
  /-- No controller is registered for a backend. -/
  | unknownBackend (backend : String)
  /-- A unit of work was used out of turn. -/
  | unitOfWork (reason : String)
  /-- Some backends had committed when another one failed. They stay committed. -/
  | partialCommit (committed : List String) (failed : String) (source : Fault)
  /-- A value could not be written or read. -/
  | serialization (reason : String)
  /-- The settings are not usable. -/
  | config (reason : String)
  /-- Something failed that should not have. -/
  | internal (reason : String)
  deriving DecidableEq, Inhabited

namespace Fault

/-- The wording of a fault. -/
def message : Fault → String
  | database reason => "Database error: " ++ reason
  | notFound what => "Not found: " ++ what
  | noteNotFound note => "Note not found: " ++ note.toText
  | patchApply reason => "Failed to apply patch: " ++ reason
  | titleTaken title => "Note title already exists: " ++ title
  | invalidInput reason => "Invalid input: " ++ reason
  | forbidden reason => "Forbidden: " ++ reason
  | missingHandle backend => "Transaction handle not available for backend: " ++ backend
  | unknownBackend backend => "Unknown transaction backend: " ++ backend
  | unitOfWork reason => "Unit of work error: " ++ reason
  | partialCommit committed failed source =>
    "Partial commit: committed " ++ Text.quoteList committed ++ ", failed on " ++ failed ++ ": " ++
      source.message
  | serialization reason => "Serialization error: " ++ reason
  | config reason => "Configuration error: " ++ reason
  | internal reason => "Internal error: " ++ reason

/-- The fault means that what was asked for does not exist. -/
def isNotFound : Fault → Bool
  | notFound _ | noteNotFound _ => true
  | _ => false

/-- The fault of an operation whose patch has a fault. -/
def ofPatch (fault : Patch.Fault) : Fault := .patchApply fault.message

end Fault

end LinkedNotes
