import LinkedNotes.Identifier

/-!
# Requests

What the operations on notes are asked to do.
-/

namespace LinkedNotes

/-- Create a note. -/
structure CreateRequest where
  user : Identifier
  /-- A missing or blank title asks for a generated one. -/
  title : Option String := none
  text : Option String := none

/-- Change a note. What is missing stays as it is. -/
structure UpdateRequest where
  note : Identifier
  title : Option String := none
  /-- The whole new text, or that the note is to have none. -/
  text : Option (Option String) := none
  /-- A patch of the current text. It goes before `text`; an empty one counts as missing. -/
  patch : Option String := none
  pinned : Option Bool := none
  archived : Option Bool := none

/-- The patch of a request, if it asks for one. -/
def UpdateRequest.patch? (request : UpdateRequest) : Option String :=
  request.patch.filter (· ≠ "")

/-- Append the texts of some notes of a user to another one and delete them. -/
structure MergeRequest where
  user : Identifier
  sources : List Identifier
  target : Identifier

end LinkedNotes
