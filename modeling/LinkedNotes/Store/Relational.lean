import LinkedNotes.Fault
import LinkedNotes.Keyed
import LinkedNotes.Note.Basic
import LinkedNotes.Text.Collection
import LinkedNotes.Text.Letter
import LinkedNotes.Text.Place

/-!
# Relational store

Rows of notes and keywords, and rows that link a note to a keyword. A user has at most one note
with a title and one keyword with a name. This store is the one that counts; the graph follows it.
New rows take their identifiers and times from a supply.
-/

namespace LinkedNotes.Store

open Time (Timestamp)

/-! ## Supplies

Where new identifiers and the present time come from. Each is used once. -/

/-- Sequences of identifiers and of points in time, and how many of each have been used. -/
structure Supply where
  identifier : Nat → Identifier
  instant : Nat → Timestamp
  identifiersUsed : Nat := 0
  instantsUsed : Nat := 0

namespace Supply

/-- The next identifier. -/
def draw : StateM Supply Identifier := fun supply =>
  (supply.identifier supply.identifiersUsed,
    { supply with identifiersUsed := supply.identifiersUsed + 1 })

/-- The present time. -/
def now : StateM Supply Timestamp := fun supply =>
  (supply.instant supply.instantsUsed, { supply with instantsUsed := supply.instantsUsed + 1 })

end Supply

/-! ## Rows -/

/-- The rows. -/
structure Relational where
  notes : List Note := []
  keywords : List Keyword := []
  /-- A note, and a keyword it links to. -/
  links : List (Identifier × Identifier) := []
  deriving DecidableEq

namespace Relational

/-! ## Notes -/

/-- The note with the identifier. -/
def note? (store : Relational) (note : Identifier) : Option Note :=
  Keyed.find? (·.id) note store.notes

/-- Another note of the same user has the title of the note. -/
def isTitleTaken (store : Relational) (note : Note) : Bool :=
  store.notes.any fun other =>
    other.id ≠ note.id && other.user = note.user && other.title = note.title

/-- Write a row for the note. -/
def putNote (store : Relational) (note : Note) : Relational :=
  { store with notes := Keyed.put (·.id) note store.notes }

/-- Add a note. -/
def insertNote (store : Relational) (note : Note) : Except Fault Relational :=
  if (store.note? note.id).isSome then
    .error (.invalidInput ("note " ++ note.id.toText ++ " already exists"))
  else if store.isTitleTaken note then .error (.titleTaken note.title)
  else .ok (store.putNote note)

/-- Replace a note. -/
def updateNote (store : Relational) (note : Note) : Except Fault Relational :=
  if (store.note? note.id).isNone then .error (.noteNotFound note.id)
  else if store.isTitleTaken note then .error (.titleTaken note.title)
  else .ok (store.putNote note)

/-- Drop the links of a note. -/
def unlink (store : Relational) (note : Identifier) : Relational :=
  { store with links := store.links.filter fun link => link.1 ≠ note }

/-- Drop a note and its links. -/
def deleteNote (store : Relational) (note : Identifier) : Relational :=
  { store.unlink note with notes := Keyed.erase (·.id) note store.notes }

/-- The note that was updated last, and of several the last one. -/
def latest? (notes : List Note) : Option Note :=
  notes.foldl (fun best note =>
    match best with
    | none => some note
    | some other => if other.updated.notAfter note.updated then some note else some other) none

/-- The title holds the text, whatever the case of either. -/
def titleHolds (title text : String) : Bool :=
  !(Text.occurrences (Text.lower title.toList) (Text.lower text.toList)).isEmpty

/-- The note of a user with exactly the title, or the latest one whose title holds it. -/
def noteTitled? (store : Relational) (user : Identifier) (title : String) (exactly : Bool) :
    Option Note :=
  latest? (store.notes.filter fun note =>
    note.user = user && if exactly then note.title = title else titleHolds note.title title)

/-! ## Keywords -/

/-- The names of the keywords of a user, in order. -/
def keywordNames (store : Relational) (user : Identifier) : List String :=
  Text.sorted ((store.keywords.filter fun keyword => keyword.user = user).map (·.name))

/-- The keyword of a user with the name. -/
def keywordNamed? (store : Relational) (user : Identifier) (name : String) : Option Keyword :=
  store.keywords.find? fun keyword => keyword.user = user && keyword.name = name

/-- The keyword of a user with the name, added if there is none. -/
def ensureKeyword (user : Identifier) (name : String) (store : Relational) :
    StateM Supply (Keyword × Relational) :=
  match store.keywordNamed? user name with
  | some keyword => pure (keyword, store)
  | none => do
    let keyword : Keyword := ⟨← Supply.draw, user, name⟩
    pure (keyword, { store with keywords := Keyed.put (·.id) keyword store.keywords })

/-- The keywords of a user with the names, which do not repeat, in their order. -/
def ensureDistinct (user : Identifier) :
    List String → Relational → StateM Supply (List Keyword × Relational)
  | [], store => pure ([], store)
  | name :: rest, store => do
    let (keyword, store) ← ensureKeyword user name store
    let (keywords, store) ← ensureDistinct user rest store
    pure (keyword :: keywords, store)

/-- The keywords of a user with the names, each once. Missing ones are added. -/
def ensureKeywords (store : Relational) (user : Identifier) (names : List String) :
    StateM Supply (List Keyword × Relational) :=
  ensureDistinct user (Text.distinct names) store

/-- The names of the keywords a note links to, in order. -/
def linkedNames (store : Relational) (note : Identifier) : List String :=
  Text.sorted ((store.links.filter fun link => link.1 = note).filterMap fun link =>
    (Keyed.find? (·.id) link.2 store.keywords).map (·.name))

/-- Let a note link to the keywords and no others. -/
def replaceLinks (store : Relational) (note : Identifier) (keywords : List Identifier) :
    Relational :=
  { store with
    links := (store.unlink note).links ++ (Text.distinct keywords).map fun keyword =>
      (note, keyword) }

/-- A note links to the keyword or has it as its title. -/
def isReferenced (store : Relational) (keyword : Identifier) : Bool :=
  (store.links.any fun link => link.2 = keyword) ||
    store.notes.any fun note => note.represents = some keyword

/-- Drop a keyword. -/
def eraseKeyword (store : Relational) (keyword : Identifier) : Relational :=
  { store with keywords := Keyed.erase (·.id) keyword store.keywords }

/-- Drop those keywords of a user with the names that no note refers to, and tell their names. -/
def deleteUnused (user : Identifier) : List String → Relational → List String × Relational
  | [], store => ([], store)
  | name :: rest, store =>
    match store.keywordNamed? user name with
    | none => deleteUnused user rest store
    | some keyword =>
      if store.isReferenced keyword.id then deleteUnused user rest store
      else
        let deleted := deleteUnused user rest (store.eraseKeyword keyword.id)
        (name :: deleted.1, deleted.2)

/-! ## What the operations do -/

theorem note?_putNote_self (store : Relational) (note : Note) :
    (store.putNote note).note? note.id = some note :=
  Keyed.find?_put_self (fun n : Note => n.id) note store.notes

theorem note?_deleteNote_self (store : Relational) (note : Identifier) :
    (store.deleteNote note).note? note = none :=
  Keyed.find?_erase_self note store.notes

theorem mem_links_unlink {store : Relational} {note : Identifier}
    {link : Identifier × Identifier} :
    link ∈ (store.unlink note).links ↔ link ∈ store.links ∧ link.1 ≠ note := by
  simp [unlink]

theorem mem_links_replaceLinks {store : Relational} {note : Identifier}
    {keywords : List Identifier} {link : Identifier × Identifier} :
    link ∈ (store.replaceLinks note keywords).links ↔
      (link ∈ store.links ∧ link.1 ≠ note) ∨ (link.1 = note ∧ link.2 ∈ keywords) := by
  obtain ⟨source, target⟩ := link
  simp only [replaceLinks, List.mem_append, mem_links_unlink, List.mem_map, Text.mem_distinct,
    Prod.mk.injEq]
  constructor
  · rintro (h | ⟨keyword, hk, rfl, rfl⟩)
    · exact Or.inl h
    · exact Or.inr ⟨rfl, hk⟩
  · rintro (h | ⟨rfl, hk⟩)
    · exact Or.inl h
    · exact Or.inr ⟨target, hk, rfl, rfl⟩

end Relational

end LinkedNotes.Store
