import LinkedNotes.Note.Basic

/-!
# Backends of the service

What the operations on notes ask of the two stores, and of the unit of work they run in.
-/

namespace LinkedNotes.Service

open Time (Timestamp)

/-- The calls to the relational store, to the graph and to the unit of work. -/
structure Backend (m : Type → Type) where
  /-- The note with the identifier. -/
  note? : Identifier → m (Option Note)
  /-- The same, where no other operation may change the note until this one ends. -/
  noteForUpdate? : Identifier → m (Option Note)
  /-- The note of a user with exactly the title, or else the latest one whose title holds it. -/
  noteTitled? : Identifier → String → Bool → m (Option Note)
  insertNote : Note → m Unit
  updateNote : Note → m Unit
  deleteNote : Identifier → m Unit
  /-- The keywords of a user with the names. Missing ones are added. -/
  ensureKeywords : Identifier → List String → m (List Keyword)
  keywordNamed? : Identifier → String → m (Option Keyword)
  /-- The names of the keywords a note links to, in order. -/
  linkedNames : Identifier → m (List String)
  /-- Let a note link to the keywords and no others. -/
  replaceLinks : Identifier → List Identifier → m Unit
  unlink : Identifier → m Unit
  /-- Drop those keywords of a user with the names that no note refers to, and tell their
  names. -/
  deleteUnused : Identifier → List String → m (List String)
  /-- Write the node of a note. -/
  putNode : Note → m Unit
  /-- Drop the node of a note and its edges. -/
  deleteNode : Identifier → m Unit
  /-- How many nodes of a user have exactly the title. -/
  countTitled : Identifier → String → m Nat
  /-- Let a note have edges to the keywords it links to and the one it represents, and no others.
  The result is the edges. -/
  replaceEdges : Note → List Keyword → Option Keyword → m (List Edge)
  edgesOf : Identifier → m (List Edge)
  /-- Drop the keyword nodes of a user with the names, and the edges to them. -/
  deleteKeywordNodes : Identifier → List String → m Unit
  /-- An identifier that was never used. -/
  newIdentifier : m Identifier
  now : m Timestamp
  /-- Make what was written so far take effect. -/
  flush : m Unit

end LinkedNotes.Service
