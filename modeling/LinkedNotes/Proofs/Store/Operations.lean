import LinkedNotes.Proofs.Note.Skip
import LinkedNotes.Proofs.Store.Dropped
import LinkedNotes.Proofs.Store.Kept
import LinkedNotes.Proofs.Store.Placed

/-!
# Operations keep a memory tidy

Each operation puts together the changes that a memory can undergo: a note is `Created`, `Updated`
or `Deleted`. It leaves a tidy memory tidy, if it comes to an end and the supply did not repeat
itself.
-/

namespace LinkedNotes.Store

open Service
open Memory (direct)

variable {m m' : Memory}

/-! ## Cleaning up -/

/-- Cleaning up drops the unused keywords, even if there is no name to look at. -/
lemma cleaned_of_cleanUp {user : Identifier} {names : List String}
    (h : (cleanUp direct user names).outcome m = (.ok (), m')) : Cleaned m user names m' := by
  have hnothing : m.graph.deleteKeywords user [] = m.graph := by
    simp [Graph.deleteKeywords]
  unfold cleanUp at h
  split at h
  · next hnames =>
    cases h
    rw [hnames]
    exact ⟨rfl, hnothing.symm, rfl⟩
  · let deleted := Relational.deleteUnused user names m.relational
    have hdeleted : (direct.deleteUnused user names).outcome m =
        (.ok deleted.1, { m with relational := deleted.2 }) := rfl
    rw [Action.outcome_bind_ok hdeleted] at h
    split at h
    · next hnone =>
      cases h
      refine ⟨rfl, ?_, rfl⟩
      show m.graph = m.graph.deleteKeywords user deleted.1
      rw [hnone, hnothing]
    · next hsome =>
      have hnodes : (Memory.nodes (·.deleteKeywords user deleted.1)).outcome
          { m with relational := deleted.2 } = (.ok (), m') := by
        rw [← h]
        show _ = Action.outcome (if deleted.1 ≠ [] then _ else _) _
        rw [if_pos hsome]
      rw [eq_of_outcome_nodes hnodes]
      exact ⟨rfl, rfl, rfl⟩

/-! ## Creating -/

/-- From one memory to the other, a note was created. -/
structure Created (m : Memory) (note : Note) (m' : Memory) : Prop where
  new : ∀ n ∈ m.relational.notes, n.id ≠ note.id
  free : m.relational.isTitleTaken note = false
  trimmed : Title.IsTrimmed note.title
  exists_renewed : ∃ title linked, Renewed m note title linked m'

/-- What a creation makes of a tidy memory. -/
lemma exists_created {request : CreateRequest} {id : Identifier}
    (h : (create direct request).outcome m = (.ok id, m')) (hm : Tidy m)
    (hfresh : m'.supply.Fresh) :
    ∃ note, note.id = id ∧ note.user = request.user ∧
      (newTitle direct request.user request.title).outcome m = (.ok note.title, m) ∧
      Created m note m' := by
  obtain ⟨title, note, m₁, supply, edges, hid, huser, hname, htitle, hrepresents, hrecorded,
    hdrawn, hprecedes, hnew, hfree, hresync⟩ := exists_of_create h
  have hlater := precedes_of_resync hresync
  have htitled : Titled m note.user note.title title m₁ :=
    titled_of_titleKeyword htitle hm.consistent.registered
      (hprecedes.fresh (hlater.fresh hfresh))
  have hplaced : Placed m note title { m₁ with
      relational := m₁.relational.putNote note, graph := m₁.graph.putNote note, supply } :=
    htitled.placed hprecedes rfl rfl hrepresents hrecorded hdrawn
  obtain ⟨linked, hrenewed⟩ := hplaced.exists_renewed hresync hfresh
  rw [Relational.isTitleTaken, htitled.notes_eq] at hfree
  rw [htitled.notes_eq] at hnew
  exact ⟨note, hid, huser, hname, hnew, hfree, isTrimmed_of_newTitle hname, title, linked,
    hrenewed⟩

/-- The note is there now, and the other notes still are. -/
lemma Created.mem_notes {note : Note} (h : Created m note m') (hm : Tidy m) (n : Note) :
    n ∈ m'.relational.notes ↔ n = note ∨ (n ∈ m.relational.notes ∧ n.id ≠ note.id) := by
  obtain ⟨title, linked, hrenewed⟩ := h.exists_renewed
  exact hrenewed.mem_notes hm.consistent n

/-- Creating a note keeps a memory tidy. -/
theorem tidy_of_create {request : CreateRequest} {id : Identifier}
    (h : (create direct request).outcome m = (.ok id, m')) (hm : Tidy m)
    (hfresh : m'.supply.Fresh) : Tidy m' := by
  obtain ⟨note, -, -, -, hcreated⟩ := exists_created h hm hfresh
  obtain ⟨title, linked, hrenewed⟩ := hcreated.exists_renewed
  exact hrenewed.tidy_of_new hm hcreated.new

/-! ## Updating -/

/-- From one memory to the other, the note was written in the place of its previous state, and its
links with it if that was called for. What it no longer refers to may be left over. -/
inductive Rewritten (m : Memory) (previous note : Note) (m' : Memory) : Prop where
  | renewed (title : Keyword) (linked : List Keyword) (h : Renewed m note title linked m')
  | kept (h : Kept m previous note m')

/-- From one memory to the other, a note was updated. -/
structure Updated (m : Memory) (previous note : Note) (m' : Memory) : Prop where
  mem : previous ∈ m.relational.notes
  id_eq : note.id = previous.id
  user_eq : note.user = previous.user
  free : m.relational.isTitleTaken note = false
  trimmed : note.title ≠ previous.title → Title.IsTrimmed note.title
  exists_cleaned : ∃ written names, Rewritten m previous note written ∧
    written.relational.Spares note.user names ∧ Cleaned written note.user names m'

/-- A note that is rewritten leaves rows and graph in order. -/
lemma Rewritten.consistent {previous note : Note} (h : Rewritten m previous note m')
    (hm : Tidy m) :
    m'.relational.Consistent m'.supply ∧ Projection m'.relational m'.graph := by
  cases h with
  | renewed title linked h =>
    exact ⟨h.consistent hm.consistent, h.projection hm.consistent hm.projection⟩
  | kept h => exact ⟨h.consistent hm, h.projection hm⟩

lemma Updated.tidy {previous note : Note} (h : Updated m previous note m') (hm : Tidy m) :
    Tidy m' := by
  obtain ⟨written, names, hwritten, hspares, hcleaned⟩ := h.exists_cleaned
  obtain ⟨hconsistent, hprojection⟩ := hwritten.consistent hm
  exact tidy_of_cleaned hcleaned hconsistent hprojection hspares

/-- The note has taken the place of its previous state, and the other notes are still there. -/
lemma Updated.mem_notes {previous note : Note} (h : Updated m previous note m') (hm : Tidy m)
    (n : Note) :
    n ∈ m'.relational.notes ↔ n = note ∨ (n ∈ m.relational.notes ∧ n.id ≠ note.id) := by
  obtain ⟨written, names, hwritten, -, hcleaned⟩ := h.exists_cleaned
  rw [hcleaned.notes_eq (hwritten.consistent hm).1]
  cases hwritten with
  | renewed title linked hrenewed => exact hrenewed.mem_notes hm.consistent n
  | kept hkept => exact hkept.mem_notes hm n

/-- A skipped resync keeps links that the new text still names. -/
lemma kept_of_skip {previous note : Note} {isPatch titleChanged : Bool} {supply : Supply}
    (hm : Tidy m) (hmem : previous ∈ m.relational.notes)
    (hprecedes : m.supply.Precedes supply) (hid : note.id = previous.id)
    (huser : note.user = previous.user) (htitle : note.title = previous.title)
    (hrepresents : note.represents = previous.represents)
    (hrecorded : note.links = Wikilink.intervals note.body)
    (hskip : Resync.decision previous note.body isPatch titleChanged = .skip) :
    Kept m previous note { m with
      relational := m.relational.putNote note
      graph := m.graph.putNote note
      supply } where
  mem := hmem
  relational_eq := rfl
  graph_eq := rfl
  precedes := hprecedes
  id_eq := hid
  user_eq := huser
  title_eq := htitle
  represents_eq := hrepresents
  targets_subset :=
    Resync.targets_subset_of_skip (hm.consistent.settles previous hmem).recorded hskip
  recorded := hrecorded

/-- A resync writes a note anew that was given its title. -/
lemma exists_renewed_of_retitle {previous retitled note : Note} {requested : Option String}
    {m₁ written : Memory} {supply : Supply} {edges : List Edge}
    (hretitled : (retitle direct previous requested).outcome m = (.ok retitled, m₁)) (hm : Tidy m)
    (hprevious : previous ∈ m.relational.notes) (hid : note.id = retitled.id)
    (huser : note.user = retitled.user) (htitle : note.title = retitled.title)
    (hrepresents : note.represents = retitled.represents)
    (hrecorded : note.links = Wikilink.intervals note.body)
    (hprecedes : m₁.supply.Precedes supply)
    (hresync : (resync direct note).outcome { m₁ with
      relational := m₁.relational.putNote note
      graph := m₁.graph.putNote note
      supply } = (.ok edges, written)) (hfresh : written.supply.Fresh) :
    ∃ title linked, Renewed m note title linked written := by
  have hlater := hprecedes.trans (precedes_of_resync hresync)
  obtain ⟨title, htitled, hkeyword, hid', -⟩ :=
    exists_titled_of_retitle hretitled hm hprevious (hlater.fresh hfresh)
  rw [← huser, ← htitle] at htitled
  have hdrawn : supply.Drawn note.id := by
    rw [hid, hid']
    exact (htitled.precedes.trans hprecedes).drawn (hm.consistent.notes_drawn previous hprevious)
  have hplaced : Placed m note title { m₁ with
      relational := m₁.relational.putNote note
      graph := m₁.graph.putNote note
      supply } :=
    htitled.placed hprecedes rfl rfl (hrepresents.trans hkeyword) hrecorded hdrawn
  exact ⟨title, hplaced.exists_renewed hresync hfresh⟩

/-- What an update makes of a tidy memory, whether the links of the note are written again or
not. -/
lemma exists_updated {request : UpdateRequest} {result : Note}
    (h : (update direct request).outcome m = (.ok result, m')) (hm : Tidy m)
    (hfresh : m'.supply.Fresh) :
    ∃ previous, previous.id = request.note ∧ Updated m previous result m' := by
  obtain ⟨previous, retitled, m₁, written, hmem, hrequested, hfree, hretitled, hid, huser, htitle,
    hrepresents, hrecorded, hresync, hclean⟩ := exists_of_update h
  have hcleaned := cleaned_of_cleanUp hclean
  rw [hcleaned.supply_eq] at hfresh
  have htimed : m₁.supply.Precedes (Supply.now m₁.supply).2 := .now _
  have hlater := htimed.trans (precedes_of_resyncIf hresync)
  obtain ⟨title, htitled, -, hid', huser', hsame, htrimmed⟩ :=
    exists_titled_of_retitle hretitled hm hmem (hlater.fresh hfresh)
  have hsource := hid.trans hid'
  have howner := huser.trans huser'
  rw [Relational.isTitleTaken, htitled.notes_eq] at hfree
  rw [← htitle] at htrimmed
  -- with a resync the note is written anew; without one it kept its title, and its links with it
  unfold resyncIf at hresync
  split at hresync
  · obtain ⟨edges, hedges⟩ := Action.exists_of_outcome_discard hresync
    obtain ⟨title, linked, hrenewed⟩ := exists_renewed_of_retitle hretitled hm hmem hid huser
      htitle hrepresents hrecorded htimed hedges hfresh
    exact ⟨previous, hrequested, hmem, hsource, howner, hfree, htrimmed, written, _,
      .renewed title linked hrenewed, hrenewed.spares_of_mem hm hmem hsource.symm howner.symm,
      hcleaned⟩
  · next hdecision =>
    have hskip := Resync.eq_skip_of_not_isResync hdecision
    -- only a note with its old title can skip the resync
    obtain ⟨-, hunchanged, -⟩ := Resync.of_decision_eq_skip hskip
    have hkeeps : result.title = previous.title := by simpa using hunchanged
    obtain ⟨rfl, rfl⟩ := hsame (htitle.symm.trans hkeeps)
    cases hresync
    have hkept := kept_of_skip hm hmem htimed hid huser htitle hrepresents hrecorded hskip
    exact ⟨retitled, hrequested, hmem, hsource, howner, hfree, htrimmed, _, _, .kept hkept,
      (hkept.tidy hm).spares _ _, hcleaned⟩

/-- An update without a patch writes the note anew, and its links with it. -/
lemma exists_renewed_of_update {request : UpdateRequest} {result : Note}
    (h : (update direct request).outcome m = (.ok result, m')) (hm : Tidy m)
    (hfresh : m'.supply.Fresh) (hpatch : request.patch? = none) :
    ∃ title linked written names, Renewed m result title linked written ∧
      written.graphReadOnly = false ∧
      (cleanUp direct result.user names).outcome written = (.ok (), m') := by
  obtain ⟨previous, retitled, m₁, written, hmem, -, -, hretitled, hid, huser, htitle, hrepresents,
    hrecorded, hresync, hclean⟩ := exists_of_update h
  rw [(cleaned_of_cleanUp hclean).supply_eq] at hfresh
  have hdecision : (Resync.decision previous result.body request.patch?.isSome
      (result.title ≠ previous.title)).isResync = true := by
    rw [hpatch]
    rfl
  rw [resyncIf, if_pos hdecision] at hresync
  obtain ⟨edges, hedges⟩ := Action.exists_of_outcome_discard hresync
  obtain ⟨title, linked, hrenewed⟩ := exists_renewed_of_retitle hretitled hm hmem hid huser htitle
    hrepresents hrecorded (.now _) hedges hfresh
  exact ⟨title, linked, written, _, hrenewed, writable_of_resync hedges, hclean⟩

/-- Updating a note keeps a memory tidy. -/
theorem tidy_of_update {request : UpdateRequest} {result : Note}
    (h : (update direct request).outcome m = (.ok result, m')) (hm : Tidy m)
    (hfresh : m'.supply.Fresh) : Tidy m' := by
  obtain ⟨previous, -, hupdated⟩ := exists_updated h hm hfresh
  exact hupdated.tidy hm

/-! ## Deleting -/

/-- From one memory to the other, a note was deleted. -/
structure Deleted (m : Memory) (note : Note) (m' : Memory) : Prop where
  exists_cleaned : ∃ dropped names, Dropped m note dropped ∧ Cleaned dropped note.user names m'
    ∧ dropped.relational.Spares note.user names

/-- What a deletion makes of a tidy memory. -/
lemma exists_deleted {id : Identifier} (h : (delete direct id).outcome m = (.ok (), m'))
    (hm : Tidy m) : ∃ note, note.id = id ∧ Deleted m note m' := by
  obtain ⟨note, cleaned, hmem, hid, hclean, heq⟩ := exists_of_delete h
  have hcleaned := cleaned_of_cleanUp hclean
  let dropped : Memory := { m with
    relational := m.relational.deleteNote note.id, graph := m.graph.deleteNote note.id }
  have hdropped : Dropped m note dropped := ⟨hmem, rfl, rfl, rfl⟩
  refine ⟨note, hid, dropped, _, hdropped, ?_, hdropped.spares hm⟩
  -- the node is dropped last, but might as well have been dropped before
  rw [heq]
  refine ⟨hcleaned.relational_eq, ?_, hcleaned.supply_eq⟩
  rw [hcleaned.graph_eq]
  exact Graph.deleteNote_deleteKeywords _ _ _ _

lemma Deleted.mem_notes {note : Note} (h : Deleted m note m') (hm : Tidy m) (n : Note) :
    n ∈ m'.relational.notes ↔ n ∈ m.relational.notes ∧ n.id ≠ note.id := by
  obtain ⟨dropped, names, hdropped, hcleaned, -⟩ := h.exists_cleaned
  rw [hcleaned.notes_eq (hdropped.consistent hm)]
  exact hdropped.mem_notes n

/-- Deleting a note takes nothing from the supply. -/
lemma supply_eq_of_delete {id : Identifier} (h : (delete direct id).outcome m = (.ok (), m')) :
    m'.supply = m.supply := by
  obtain ⟨note, cleaned, -, -, hclean, heq⟩ := exists_of_delete h
  rw [heq]
  exact (cleaned_of_cleanUp hclean).supply_eq

/-- Deleting a note keeps a memory tidy. -/
theorem tidy_of_delete {id : Identifier} (h : (delete direct id).outcome m = (.ok (), m'))
    (hm : Tidy m) : Tidy m' := by
  obtain ⟨note, -, hdeleted⟩ := exists_deleted h hm
  obtain ⟨dropped, names, hdropped, hcleaned, hspares⟩ := hdeleted.exists_cleaned
  exact tidy_of_cleaned hcleaned (hdropped.consistent hm) (hdropped.projection hm) hspares

end LinkedNotes.Store
