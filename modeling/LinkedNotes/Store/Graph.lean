import LinkedNotes.Keyed
import LinkedNotes.Note.Basic
import LinkedNotes.Text.Collection

/-!
# Graph

Nodes for notes and keywords, and the edges between them in the order in which they were written.
-/

namespace LinkedNotes.Store

/-- What the graph knows of a note. -/
structure Node where
  note : Identifier
  user : Identifier
  title : String
  pinned : Bool
  archived : Bool
  deriving DecidableEq

/-- The node of a note. -/
def Node.of (note : Note) : Node :=
  ⟨note.id, note.user, note.title, note.pinned, note.archived⟩

/-- The nodes and edges. -/
structure Graph where
  nodes : List Node := []
  keywords : List Keyword := []
  edges : List Edge := []
  deriving DecidableEq

namespace Graph

/-- Write the node of a note. -/
def putNote (graph : Graph) (note : Note) : Graph :=
  { graph with nodes := Keyed.put (·.note) (Node.of note) graph.nodes }

/-- Drop the edges of a note. -/
def unlink (graph : Graph) (note : Identifier) : Graph :=
  { graph with edges := graph.edges.filter fun edge => edge.note ≠ note }

/-- Drop the node of a note and its edges. -/
def deleteNote (graph : Graph) (note : Identifier) : Graph :=
  { graph.unlink note with nodes := Keyed.erase (·.note) note graph.nodes }

/-- How many notes of a user have exactly the title. -/
def countTitled (graph : Graph) (user : Identifier) (title : String) : Nat :=
  (graph.nodes.filter fun node => node.user = user && node.title = title).length

/-- The edges of a note. -/
def edgesOf (graph : Graph) (note : Identifier) : List Edge :=
  graph.edges.filter fun edge => edge.note = note

/-- The names of the keywords of a user, in order. -/
def keywordNames (graph : Graph) (user : Identifier) : List String :=
  Text.sorted ((graph.keywords.filter fun keyword => keyword.user = user).map (·.name))

/-- The keyword of the same user and name, added if there is none. -/
def ensureKeyword (graph : Graph) (keyword : Keyword) : Keyword × Graph :=
  match graph.keywords.find? fun k => k.user = keyword.user && k.name = keyword.name with
  | some existing => (existing, graph)
  | none => (keyword, { graph with keywords := Keyed.put (·.id) keyword graph.keywords })

/-- Add an edge from a note to a keyword. -/
def connect (note : Identifier) (kind : EdgeKind) (graph : Graph) (keyword : Keyword) : Graph :=
  let ensured := graph.ensureKeyword keyword
  { ensured.2 with edges := ensured.2.edges ++ [⟨note, ensured.1.id, keyword.name, kind⟩] }

/-- Let a note have edges to the keywords it links to and the one it represents, and no others. -/
def replaceEdges (graph : Graph) (note : Identifier) (linked : List Keyword)
    (represents : Option Keyword) : Graph :=
  represents.toList.foldl (connect note .represents)
    (linked.foldl (connect note .linksTo) (graph.unlink note))

/-- Drop the keywords of a user with the names, and the edges to them. -/
def deleteKeywords (graph : Graph) (user : Identifier) (names : List String) : Graph :=
  let doomed := fun keyword : Keyword => keyword.user = user && names.contains keyword.name
  let ids := (graph.keywords.filter doomed).map (·.id)
  { graph with
    keywords := graph.keywords.filter fun keyword => keyword.id ∉ ids
    edges := graph.edges.filter fun edge => edge.keyword ∉ ids }

theorem edgesOf_unlink (graph : Graph) (note : Identifier) :
    (graph.unlink note).edgesOf note = [] := by
  simp [unlink, edgesOf]

theorem edgesOf_unlink_of_ne {note other : Identifier} (h : other ≠ note) (graph : Graph) :
    (graph.unlink note).edgesOf other = graph.edgesOf other := by
  simp only [unlink, edgesOf, List.filter_filter]
  congr 1
  funext edge
  by_cases he : edge.note = other <;> simp [he, h]

end Graph

end LinkedNotes.Store
