import LinkedNotes.Proofs.Transaction.Matching
import LinkedNotes.Service.Operation

/-!
# Operations on backends that agree

An operation asks its backend for everything it does. So if two backends agree on every call, along
a relation between their states, the operations over them agree.
-/

namespace LinkedNotes.Service

open LinkedNotes.Action (Matches)

variable {σ τ : Type} {R : σ → τ → Prop}

/-- Each call to one backend matches the call to the other. -/
structure Agrees (R : σ → τ → Prop) (b : Backend (Action σ)) (c : Backend (Action τ)) :
    Prop where
  note? : ∀ note, Matches R (b.note? note) (c.note? note)
  noteForUpdate? : ∀ note, Matches R (b.noteForUpdate? note) (c.noteForUpdate? note)
  noteTitled? : ∀ user title exactly,
    Matches R (b.noteTitled? user title exactly) (c.noteTitled? user title exactly)
  insertNote : ∀ note, Matches R (b.insertNote note) (c.insertNote note)
  updateNote : ∀ note, Matches R (b.updateNote note) (c.updateNote note)
  deleteNote : ∀ note, Matches R (b.deleteNote note) (c.deleteNote note)
  ensureKeywords : ∀ user names,
    Matches R (b.ensureKeywords user names) (c.ensureKeywords user names)
  keywordNamed? : ∀ user name, Matches R (b.keywordNamed? user name) (c.keywordNamed? user name)
  linkedNames : ∀ note, Matches R (b.linkedNames note) (c.linkedNames note)
  replaceLinks : ∀ note keywords,
    Matches R (b.replaceLinks note keywords) (c.replaceLinks note keywords)
  unlink : ∀ note, Matches R (b.unlink note) (c.unlink note)
  deleteUnused : ∀ user names, Matches R (b.deleteUnused user names) (c.deleteUnused user names)
  putNode : ∀ note, Matches R (b.putNode note) (c.putNode note)
  deleteNode : ∀ note, Matches R (b.deleteNode note) (c.deleteNode note)
  replaceEdges : ∀ note linked represents,
    Matches R (b.replaceEdges note linked represents) (c.replaceEdges note linked represents)
  deleteKeywordNodes : ∀ user names,
    Matches R (b.deleteKeywordNodes user names) (c.deleteKeywordNodes user names)
  newIdentifier : Matches R b.newIdentifier c.newIdentifier
  now : Matches R b.now c.now
  flush : Matches R b.flush c.flush

namespace Agrees

variable {b : Backend (Action σ)} {c : Backend (Action τ)} (h : Agrees R b c)

include h

/-! ## Keywords -/

lemma resync (note : Note) : Matches R (resync b note) (resync c note) := by
  refine (h.ensureKeywords _ _).bind fun linked => (h.replaceLinks _ _).bind fun _ => ?_
  dsimp only
  split
  · exact (h.keywordNamed? _ _).bind fun represents => h.replaceEdges _ _ _
  · exact (Matches.pure none).bind fun represents => h.replaceEdges _ _ _

lemma resyncIf (decision : Resync.Decision) (note : Note) :
    Matches R (resyncIf decision b note) (resyncIf decision c note) :=
  (h.resync note).discard.ite (.pure ())

lemma cleanUp (user : Identifier) (names : List String) :
    Matches R (cleanUp b user names) (cleanUp c user names) := by
  refine (Matches.pure ()).ite ((h.deleteUnused user names).bind fun deleted => ?_)
  exact (Matches.pure ()).ite (h.deleteKeywordNodes user deleted)

lemma titleKeyword (user : Identifier) (title : String) :
    Matches R (titleKeyword b user title) (titleKeyword c user title) := by
  refine (h.ensureKeywords user [title]).discard.bind fun _ => ?_
  refine (h.keywordNamed? user title).bind fun keyword => ?_
  cases keyword with
  | none => exact .throw _
  | some keyword => exact .pure keyword

/-! ## Titles -/

lemma untitledFrom (user : Identifier) (n count : Nat) :
    Matches R (untitledFrom b user n count) (untitledFrom c user n count) := by
  induction count generalizing n with
  | zero => exact .throw _
  | succ count ih =>
    refine (h.noteTitled? user (Title.untitled n) true).bind fun other => ?_
    cases other with
    | none => exact .pure _
    | some other => exact ih (n + 1)

lemma nextUntitled (user : Identifier) : Matches R (nextUntitled b user) (nextUntitled c user) :=
  h.untitledFrom user 1 untitledCount

lemma requireFree (user : Identifier) (title : String) (asking : Option Identifier) :
    Matches R (requireFree b user title asking) (requireFree c user title asking) := by
  refine (h.noteTitled? user title true).bind fun other => ?_
  cases other with
  | none => exact .pure ()
  | some other => exact (Matches.pure ()).ite (.throw _)

lemma newTitle (user : Identifier) (requested : Option String) :
    Matches R (newTitle b user requested) (newTitle c user requested) := by
  unfold Service.newTitle
  cases Title.normalize? requested with
  | none => exact h.nextUntitled user
  | some title => exact (h.requireFree user title none).bind fun _ => .pure title

lemma giveTitle (note : Note) (title : String) :
    Matches R (giveTitle b note title) (giveTitle c note title) := by
  refine (h.requireFree note.user title (some note.id)).bind fun _ => ?_
  exact (h.titleKeyword note.user title).bind fun keyword => .pure _

lemma retitle (note : Note) (requested : Option String) :
    Matches R (retitle b note requested) (retitle c note requested) := by
  unfold Service.retitle
  cases requested with
  | none => exact .pure note
  | some requested =>
    dsimp only
    cases Title.normalize? (some requested) with
    | none => exact .throw _
    | some title => exact (Matches.pure note).ite (h.giveTitle note title)

/-! ## Operations -/

lemma noteOf (id : Identifier) : Matches R (noteOf b id) (noteOf c id) := by
  refine (h.note? id).bind fun note => ?_
  cases note with
  | none => exact .throw _
  | some note => exact .pure note

lemma noteToUpdate (id : Identifier) : Matches R (noteToUpdate b id) (noteToUpdate c id) := by
  refine (h.noteForUpdate? id).bind fun note => ?_
  cases note with
  | none => exact .throw _
  | some note => exact .pure note

lemma ownedNote (user id : Identifier) : Matches R (ownedNote b user id) (ownedNote c user id) :=
  (h.noteOf id).bind fun note => (Matches.pure note).ite (.throw _)

theorem create (request : CreateRequest) : Matches R (create b request) (create c request) := by
  refine (h.newTitle _ _).bind fun title => (h.titleKeyword _ _).bind fun keyword => ?_
  refine h.newIdentifier.bind fun id => h.now.bind fun now => ?_
  refine (h.insertNote _).bind fun _ => h.flush.bind fun _ => (h.putNode _).bind fun _ => ?_
  exact (h.resync _).discard.bind fun _ => .pure _

theorem update (request : UpdateRequest) : Matches R (update b request) (update c request) := by
  refine (h.noteToUpdate _).bind fun previous => (h.retitle _ _).bind fun retitled => ?_
  refine h.now.bind fun updated => (Matches.ofExcept _).bind fun text => ?_
  refine (h.updateNote _).bind fun _ => (h.putNode _).bind fun _ => ?_
  exact (h.resyncIf _ _).bind fun _ => (h.cleanUp _ _).bind fun _ => .pure _

theorem delete (id : Identifier) : Matches R (delete b id) (delete c id) := by
  refine (h.noteToUpdate _).bind fun note => (h.linkedNames _).bind fun linked => ?_
  refine (h.deleteNote _).bind fun _ => (h.unlink _).bind fun _ => ?_
  exact (h.cleanUp _ _).bind fun _ => h.deleteNode _

theorem merge (request : MergeRequest) : Matches R (merge b request) (merge c request) := by
  unfold Service.merge
  cases mergeFault? request with
  | some fault => exact .throw fault
  | none =>
    refine (h.ownedNote _ _).bind fun target => ?_
    refine (Matches.mapM (h.ownedNote _) _).bind fun sources => ?_
    dsimp only
    cases Joined.chain (sources.map (·.text)) with
    | none =>
      exact (Matches.pure target).bind fun merged =>
        (Matches.forM (fun source : Note => h.delete source.id) _).bind fun _ => .pure _
    | some appended =>
      exact (h.update _).bind fun merged =>
        (Matches.forM (fun source : Note => h.delete source.id) _).bind fun _ => .pure _

end Agrees

end LinkedNotes.Service
