import LinkedNotes.Identifier
import LinkedNotes.Text.Place
import LinkedNotes.Time.Timestamp

/-!
# Notes, keywords and edges

A note belongs to a user and has a title that no other note of the user has. Every title, and
every target of a link, is the name of a keyword of the user. In the graph, an edge leads from a
note to each keyword it links to and to the one its title names.
-/

namespace LinkedNotes

open Text (Interval)
open Time (Timestamp)

/-- A note as it is stored. -/
structure Note where
  id : Identifier
  user : Identifier
  title : String
  text : Option String
  /-- The keyword named by the title. -/
  represents : Option Identifier
  pinned : Bool
  archived : Bool
  created : Timestamp
  updated : Timestamp
  /-- Where the links stood in the text when it was last written. -/
  links : List Interval
  deriving DecidableEq

namespace Note

/-- A new note, neither pinned nor archived. -/
def new (id user : Identifier) (now : Timestamp) (title : String) (text : Option String) : Note :=
  { id, user, title, text, represents := none, pinned := false, archived := false,
    created := now, updated := now, links := [] }

/-- The text, where a missing text counts as empty. -/
def body (note : Note) : String := note.text.getD ""

end Note

/-- A name that notes link to or bear as their title. -/
structure Keyword where
  id : Identifier
  user : Identifier
  name : String
  deriving DecidableEq

/-- What an edge from a note to a keyword says. -/
inductive EdgeKind where
  /-- The text of the note links to the keyword. -/
  | linksTo
  /-- The title of the note is the keyword. -/
  | represents
  deriving DecidableEq, Repr

namespace EdgeKind

/-- The word for a kind of edge. -/
def toText : EdgeKind → String
  | .linksTo => "links_to"
  | .represents => "represents"

/-- The kind of edge a word stands for. -/
def ofText? : String → Option EdgeKind
  | "links_to" => some .linksTo
  | "represents" => some .represents
  | _ => none

end EdgeKind

/-- An edge of the graph. -/
structure Edge where
  note : Identifier
  keyword : Identifier
  keywordName : String
  kind : EdgeKind
  deriving DecidableEq

end LinkedNotes
