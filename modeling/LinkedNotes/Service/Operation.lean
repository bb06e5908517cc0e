import LinkedNotes.Fault
import LinkedNotes.Note.Content
import LinkedNotes.Note.Request
import LinkedNotes.Note.Resync
import LinkedNotes.Patch.Wire
import LinkedNotes.Service.Backend
import LinkedNotes.Wikilink

/-!
# Operations on notes

Each operation keeps the rows of notes, the rows of keywords and the graph in step. It runs within
a unit of work and does not commit, so operations can be put together: a merge is an update and
several deletions.
-/

namespace LinkedNotes.Service

variable {m : Type → Type} [Monad m] [MonadExceptOf Fault m]

/-! ## Keywords -/

/-- Rewrite the links of a note in both stores from its text and title. -/
def resync (backend : Backend m) (note : Note) : m (List Edge) := do
  let linked ← backend.ensureKeywords note.user (Wikilink.targets note.body)
  backend.replaceLinks note.id (linked.map (·.id))
  let represents ←
    if note.represents.isSome then backend.keywordNamed? note.user note.title else pure none
  backend.replaceEdges note linked represents

/-- Rewrite the links of a note if the decision is to. -/
def resyncIf (decision : Resync.Decision) (backend : Backend m) (note : Note) : m Unit :=
  if decision.isResync then discard (resync backend note) else pure ()

/-- Drop those of the keywords in both stores that no note refers to. -/
def cleanUp (backend : Backend m) (user : Identifier) (names : List String) : m Unit := do
  if names = [] then pure ()
  else
    let deleted ← backend.deleteUnused user names
    if deleted = [] then pure () else backend.deleteKeywordNodes user deleted

/-- The keyword that a title names. -/
def titleKeyword (backend : Backend m) (user : Identifier) (title : String) : m Keyword := do
  discard (backend.ensureKeywords user [title])
  match ← backend.keywordNamed? user title with
  | some keyword => pure keyword
  | none => throw (.internal ("Keyword '" ++ title ++ "' missing after ensure"))

/-! ## Titles -/

/-- The first generated title from the `n`-th on, of `count` many, that no note of the user has. -/
def untitledFrom (backend : Backend m) (user : Identifier) : Nat → Nat → m String
  | _, 0 => throw (.internal "no generated title is free")
  | n, count + 1 => do
    match ← backend.noteTitled? user (Title.untitled n) true with
    | none => pure (Title.untitled n)
    | some _ => untitledFrom backend user (n + 1) count

/-- The number of generated titles: their numbers start at one and have 32 bits. -/
def untitledCount : Nat := Text.countLimit - 1

/-- The first generated title that no note of the user has. -/
def nextUntitled (backend : Backend m) (user : Identifier) : m String :=
  untitledFrom backend user 1 untitledCount

/-- Fail if a note of the user has the title, other than the note that asks for it. -/
def requireFree (backend : Backend m) (user : Identifier) (title : String)
    (asking : Option Identifier) : m Unit := do
  match ← backend.noteTitled? user title true with
  | none => pure ()
  | some other => if some other.id = asking then pure () else throw (.titleTaken title)

/-- The title of a note that is to be created: the one asked for, if no note of the user has it, or
a generated one. -/
def newTitle (backend : Backend m) (user : Identifier) (requested : Option String) : m String := do
  match Title.normalize? requested with
  | none => nextUntitled backend user
  | some title =>
    requireFree backend user title none
    pure title

/-- The note with a title that it did not have, if no other note of the user has it. -/
def giveTitle (backend : Backend m) (note : Note) (title : String) : m Note := do
  requireFree backend note.user title (some note.id)
  let keyword ← titleKeyword backend note.user title
  pure { note with title, represents := some keyword.id }

/-- The note with the title asked for. -/
def retitle (backend : Backend m) (note : Note) (requested : Option String) : m Note :=
  match requested with
  | none => pure note
  | some requested =>
    match Title.normalize? (some requested) with
    | none => throw (.invalidInput "Note title must not be blank")
    | some title => if title = note.title then pure note else giveTitle backend note title

/-! ## Operations -/

/-- The note with the identifier. -/
def noteOf (backend : Backend m) (id : Identifier) : m Note := do
  match ← backend.note? id with
  | some note => pure note
  | none => throw (.noteNotFound id)

/-- The note with the identifier, kept from other operations. -/
def noteToUpdate (backend : Backend m) (id : Identifier) : m Note := do
  match ← backend.noteForUpdate? id with
  | some note => pure note
  | none => throw (.noteNotFound id)

/-- The note with the identifier, if it belongs to the user. -/
def ownedNote (backend : Backend m) (user id : Identifier) : m Note := do
  let note ← noteOf backend id
  if note.user = user then pure note
  else throw (.forbidden ("Note " ++ id.toText ++ " belongs to another user"))

/-- Create a note. What the relational store finds wrong with it shows before the graph is
touched. -/
def create (backend : Backend m) (request : CreateRequest) : m Identifier := do
  let title ← newTitle backend request.user request.title
  let keyword ← titleKeyword backend request.user title
  let plain := Note.new (← backend.newIdentifier) request.user (← backend.now) title request.text
  let note :=
    { plain with represents := some keyword.id, links := Wikilink.intervals plain.body }
  backend.insertNote note
  backend.flush
  backend.putNode note
  discard (resync backend note)
  pure note.id

/-- The text a note gets from a request. -/
def newText (request : UpdateRequest) (note : Note) : Except Fault (Option String) :=
  match request.patch? with
  | none => .ok (request.text.getD note.text)
  | some patch =>
    match Patch.apply note.body.toList patch.toList with
    | .ok text => .ok (some (String.ofList text))
    | .error fault => .error (.ofPatch fault)

/-- The keyword names a note refers to. -/
def referencedNames (note : Note) : List String :=
  Reference.names (Wikilink.targets note.body) note.represents note.title

/-- Change a note. A patch that leaves its links alone leaves the keywords alone too. -/
def update (backend : Backend m) (request : UpdateRequest) : m Note := do
  let previous ← noteToUpdate backend request.note
  let retitled ← retitle backend previous request.title
  let updated ← backend.now
  let text ← MonadExcept.ofExcept (newText request previous)
  let changed := { retitled with
    updated, text
    pinned := request.pinned.getD previous.pinned
    archived := request.archived.getD previous.archived }
  let note := { changed with links := Wikilink.intervals changed.body }
  backend.updateNote note
  backend.putNode note
  let decision := Resync.decision previous note.body request.patch?.isSome
    (note.title ≠ previous.title)
  resyncIf decision backend note
  cleanUp backend note.user (Reference.removed (referencedNames previous) (referencedNames note))
  pure note

/-- Delete a note, and the keywords that only it referred to. Its own rows go first, or else its
own title would keep a keyword. -/
def delete (backend : Backend m) (id : Identifier) : m Unit := do
  let note ← noteToUpdate backend id
  let linked ← backend.linkedNames id
  backend.deleteNote id
  backend.unlink id
  cleanUp backend note.user (Reference.names linked note.represents note.title)
  backend.deleteNode id

/-- What is wrong with a request to merge, before any note is looked at. -/
def mergeFault? (request : MergeRequest) : Option Fault :=
  if request.sources = [] then some (.invalidInput "At least one source note is required")
  else if ¬request.sources.Nodup then some (.invalidInput "Source notes must not repeat")
  else if request.target ∈ request.sources then
    some (.invalidInput "Target note cannot also be a source")
  else none

/-- Append the texts of the sources to the target and delete the sources. Sources without text
leave the target as it is. -/
def merge (backend : Backend m) (request : MergeRequest) : m Note := do
  match mergeFault? request with
  | some fault => throw fault
  | none =>
    let target ← ownedNote backend request.user request.target
    let sources ← request.sources.mapM (ownedNote backend request.user)
    let merged ←
      match Joined.chain (sources.map (·.text)) with
      | none => pure target
      | some appended =>
        update backend
          { note := target.id, text := some (Joined.append target.text (some appended)) }
    sources.forM fun source => delete backend source.id
    pure merged

end LinkedNotes.Service
