import LinkedNotes.Proofs.Note.Title
import LinkedNotes.Proofs.Store.Session

/-!
# What the operations do

What is known of an operation on a memory that comes to an end: which steps it took, and what they
made of rows, graph and supply. Whatever else is to be shown of an operation follows from that,
without another look at its definition.
-/

namespace LinkedNotes.Store

open Service
open Memory (direct)

variable {m m' : Memory}

/-! ## Lookups -/

lemma quiet_look {α : Type} (f : Memory → α) : (Memory.look f).Quiet := fun _ => rfl

lemma quiet_requireFree (user : Identifier) (title : String) (asking : Option Identifier) :
    (requireFree direct user title asking).Quiet := by
  refine (quiet_look _).bind fun other => ?_
  cases other with
  | none => exact .pure ()
  | some other =>
    dsimp only
    split
    · exact .pure ()
    · exact .throw _

lemma quiet_untitledFrom (user : Identifier) (n count : Nat) :
    (untitledFrom direct user n count).Quiet := by
  induction count generalizing n with
  | zero => exact .throw _
  | succ count ih =>
    refine (quiet_look _).bind fun other => ?_
    cases other with
    | none => exact .pure _
    | some other => exact ih (n + 1)

lemma quiet_newTitle (user : Identifier) (requested : Option String) :
    (newTitle direct user requested).Quiet := by
  unfold newTitle
  cases Title.normalize? requested with
  | none => exact quiet_untitledFrom user 1 untitledCount
  | some title => exact (quiet_requireFree user title none).bind fun _ => .pure title

/-- A generated title that is found is trimmed. -/
lemma isTrimmed_of_untitledFrom {user : Identifier} {n count : Nat} {title : String}
    (h : (untitledFrom direct user n count).outcome m = (.ok title, m')) :
    Title.IsTrimmed title := by
  induction count generalizing n with
  | zero => cases h
  | succ count ih =>
    have hlook : (direct.noteTitled? user (Title.untitled n) true).outcome m =
        (.ok (m.relational.noteTitled? user (Title.untitled n) true), m) := rfl
    rw [untitledFrom, Action.outcome_bind_ok hlook] at h
    cases hfound : m.relational.noteTitled? user (Title.untitled n) true with
    | none =>
      rw [hfound] at h
      cases h
      exact Title.isTrimmed_untitled n
    | some other =>
      rw [hfound] at h
      exact ih h

/-- The title of a new note is trimmed, whether it was asked for or generated. -/
lemma isTrimmed_of_newTitle {user : Identifier} {requested : Option String} {title : String}
    (h : (newTitle direct user requested).outcome m = (.ok title, m')) :
    Title.IsTrimmed title := by
  unfold newTitle at h
  cases hnormal : Title.normalize? requested with
  | none =>
    rw [hnormal] at h
    exact isTrimmed_of_untitledFrom h
  | some name =>
    rw [hnormal] at h
    obtain ⟨⟨⟩, m₁, -, h⟩ := Action.outcome_bind_eq_ok.1 h
    cases h
    exact Title.isTrimmed_of_normalize? hnormal

lemma quiet_noteOf (id : Identifier) : (noteOf direct id).Quiet := by
  refine (quiet_look _).bind fun note => ?_
  cases note with
  | none => exact .throw _
  | some note => exact .pure note

lemma quiet_ownedNote (user id : Identifier) : (ownedNote direct user id).Quiet := by
  refine (quiet_noteOf id).bind fun note => ?_
  split
  · exact .pure note
  · exact .throw _

/-- A note that is found to be updated is one of the rows. -/
lemma outcome_noteToUpdate {id : Identifier} {note : Note}
    (h : (noteToUpdate direct id).outcome m = (.ok note, m')) :
    m' = m ∧ note ∈ m.relational.notes ∧ note.id = id := by
  have hfound : (direct.noteForUpdate? id).outcome m = (.ok (m.relational.note? id), m) := rfl
  rw [noteToUpdate, Action.outcome_bind_ok hfound] at h
  cases hnote : m.relational.note? id with
  | none =>
    rw [hnote] at h
    cases h
  | some found =>
    rw [hnote] at h
    cases h
    obtain ⟨hmem, hid⟩ := Keyed.of_find?_eq_some hnote
    exact ⟨rfl, hmem, hid⟩

/-- A row is found to be updated. -/
lemma outcome_noteToUpdate_of_some {id : Identifier} {note : Note}
    (h : m.relational.note? id = some note) :
    (noteToUpdate direct id).outcome m = (.ok note, m) := by
  have hlook : (direct.noteForUpdate? id).outcome m = (.ok (some note), m) := by
    rw [← h]
    rfl
  rw [noteToUpdate, Action.outcome_bind_ok hlook]
  rfl

/-! ## Single calls -/

lemma eq_of_outcome_nodes {step : Graph → Graph}
    (h : (Memory.nodes step).outcome m = (.ok (), m')) : m' = { m with graph := step m.graph } := by
  by_cases hfails : m.graphReadOnly = true
  · rw [Memory.outcome_nodes_readOnly hfails] at h
    cases h
  · rw [Bool.not_eq_true] at hfails
    rw [Memory.outcome_nodes hfails] at h
    exact (congrArg Prod.snd h).symm

/-- The graph can be written after it was. -/
lemma writable_of_nodes {step : Graph → Graph}
    (h : (Memory.nodes step).outcome m = (.ok (), m')) : m'.graphReadOnly = false := by
  by_cases hfails : m.graphReadOnly = true
  · rw [Memory.outcome_nodes_readOnly hfails] at h
    cases h
  · rw [Bool.not_eq_true] at hfails
    rw [eq_of_outcome_nodes h]
    exact hfails

lemma of_outcome_putNode {note : Note} (h : (direct.putNode note).outcome m = (.ok (), m')) :
    m' = { m with graph := m.graph.putNote note } := by
  have hnodes : (Memory.nodes (·.putNote note)).outcome m = (.ok (), m') := h
  exact eq_of_outcome_nodes hnodes

lemma of_outcome_deleteNode {note : Identifier}
    (h : (direct.deleteNode note).outcome m = (.ok (), m')) :
    m' = { m with graph := m.graph.deleteNote note } := by
  have hnodes : (Memory.nodes (·.deleteNote note)).outcome m = (.ok (), m') := h
  exact eq_of_outcome_nodes hnodes

/-- A note that is inserted is a new one, and its title is free. -/
lemma of_outcome_insertNote {note : Note}
    (h : (direct.insertNote note).outcome m = (.ok (), m')) :
    (∀ n ∈ m.relational.notes, n.id ≠ note.id) ∧ m.relational.isTitleTaken note = false ∧
      m' = { m with relational := m.relational.putNote note } := by
  have htry : (Memory.tryRows (·.insertNote note)).outcome m = (.ok (), m') := h
  cases hinsert : m.relational.insertNote note with
  | error fault =>
    rw [Memory.outcome_tryRows_error hinsert] at htry
    cases htry
  | ok rows =>
    rw [Memory.outcome_tryRows_ok hinsert] at htry
    unfold Relational.insertNote at hinsert
    split at hinsert
    · cases hinsert
    · next hnew =>
      split at hinsert
      · cases hinsert
      · next hfree =>
        cases hinsert
        cases htry
        rw [Bool.not_eq_true, Option.isSome_eq_false_iff, Option.isNone_iff_eq_none] at hnew
        exact ⟨Keyed.find?_eq_none.1 hnew, eq_false_of_ne_true hfree, rfl⟩

/-- A note is updated only if its title is free. -/
lemma of_outcome_updateNote {note : Note}
    (h : (direct.updateNote note).outcome m = (.ok (), m')) :
    m.relational.isTitleTaken note = false ∧
      m' = { m with relational := m.relational.putNote note } := by
  have htry : (Memory.tryRows (·.updateNote note)).outcome m = (.ok (), m') := h
  cases hupdate : m.relational.updateNote note with
  | error fault =>
    rw [Memory.outcome_tryRows_error hupdate] at htry
    cases htry
  | ok rows =>
    rw [Memory.outcome_tryRows_ok hupdate] at htry
    unfold Relational.updateNote at hupdate
    split at hupdate
    · cases hupdate
    · split at hupdate
      · cases hupdate
      · next hfree =>
        cases hupdate
        cases htry
        exact ⟨eq_false_of_ne_true hfree, rfl⟩

/-! ## Parts of operations -/

/-- The keyword that a note represents. -/
def Relational.represented (store : Relational) (note : Note) : Option Keyword :=
  if note.represents.isSome then store.keywordNamed? note.user note.title else none

/-- The keywords that the text of a note names, where those that were missing have been added. -/
def asked (note : Note) (m : Memory) : (List Keyword × Relational) × Supply :=
  m.relational.ensureKeywords note.user (Wikilink.targets note.body) m.supply

/-- A resync asks for the keywords that the text names, writes the links to them and then the
edges. -/
lemma outcome_resync_eq (note : Note) (m : Memory) : (resync direct note).outcome m =
    (direct.replaceEdges note (asked note m).1.1 ((asked note m).1.2.represented note)).outcome
      { m with
        relational := (asked note m).1.2.replaceLinks note.id ((asked note m).1.1.map (·.id))
        supply := (asked note m).2 } := by
  have hasked : (direct.ensureKeywords note.user (Wikilink.targets note.body)).outcome m =
      (.ok (asked note m).1.1,
        { m with relational := (asked note m).1.2, supply := (asked note m).2 }) := rfl
  have hlinked : (direct.replaceLinks note.id ((asked note m).1.1.map (·.id))).outcome
      { m with relational := (asked note m).1.2, supply := (asked note m).2 } = (.ok (), _) := rfl
  rw [resync, Action.outcome_bind_ok hasked, Action.outcome_bind_ok hlinked,
    Relational.represented]
  dsimp only
  split <;> rfl

lemma exists_of_outcome_resync {note : Note} {edges : List Edge}
    (h : (resync direct note).outcome m = (.ok edges, m'))
    (hrows : Registered m.supply m.relational.keywords) (hfresh : m'.supply.Fresh)
    (hsome : note.represents.isSome = true) :
    ∃ keywords store,
      Relational.Ensures note.user (Wikilink.targets note.body) m.relational m.supply keywords
        store m'.supply ∧
      m'.relational = store.replaceLinks note.id (keywords.map (·.id)) ∧
      m'.graph = m.graph.replaceEdges note.id keywords
        (store.keywordNamed? note.user note.title) := by
  rw [outcome_resync_eq, Relational.represented, if_pos hsome] at h
  obtain ⟨⟨⟩, written, hwritten, hread⟩ := Action.outcome_bind_eq_ok.1 h
  have hafter : m' = written := (congrArg Prod.snd hread).symm
  have heq := hafter.trans (eq_of_outcome_nodes hwritten)
  rw [heq] at hfresh ⊢
  have hdistinct : Text.distinct (Wikilink.targets note.body) = Wikilink.targets note.body :=
    Text.distinct_eq_self (Text.nodup_distinct _)
  have hensures := Relational.ensures_ensureKeywords _ hrows hfresh
  rw [hdistinct] at hensures
  exact ⟨_, _, hensures, rfl, rfl⟩

lemma writable_of_resync {note : Note} {edges : List Edge}
    (h : (resync direct note).outcome m = (.ok edges, m')) : m'.graphReadOnly = false := by
  rw [outcome_resync_eq] at h
  obtain ⟨⟨⟩, written, hwritten, hread⟩ := Action.outcome_bind_eq_ok.1 h
  have hafter : m' = written := (congrArg Prod.snd hread).symm
  rw [hafter]
  exact writable_of_nodes hwritten

lemma precedes_of_resync {note : Note} {r : Except Fault (List Edge)}
    (h : (resync direct note).outcome m = (r, m')) : m.supply.Precedes m'.supply := by
  have hprecedes := Memory.precedes_of_matches m fun base =>
    (Memory.agrees_direct base).resync note
  rw [h] at hprecedes
  exact hprecedes

lemma precedes_of_resyncIf {note : Note} {decision : Resync.Decision} {r : Except Fault Unit}
    (h : (resyncIf decision direct note).outcome m = (r, m')) :
    m.supply.Precedes m'.supply := by
  have hprecedes := Memory.precedes_of_matches m fun base =>
    (Memory.agrees_direct base).resyncIf decision note
  rw [h] at hprecedes
  exact hprecedes

/-! ## Whole operations -/

/-- A new note is put into rows and graph before its links are written. -/
lemma exists_of_insert (note : Note) {id : Identifier}
    (h : Action.outcome (do
      direct.insertNote note
      direct.flush
      direct.putNode note
      discard (resync direct note)
      pure note.id) m = (.ok id, m')) :
    note.id = id ∧ (∀ n ∈ m.relational.notes, n.id ≠ note.id) ∧
      m.relational.isTitleTaken note = false ∧
      ∃ edges, (resync direct note).outcome { m with
        relational := m.relational.putNote note, graph := m.graph.putNote note } =
          (.ok edges, m') := by
  obtain ⟨⟨⟩, inserted, hinserted, h⟩ := Action.outcome_bind_eq_ok.1 h
  obtain ⟨hnew, hfree, rfl⟩ := of_outcome_insertNote hinserted
  obtain ⟨⟨⟩, flushed, hflushed, h⟩ := Action.outcome_bind_eq_ok.1 h
  cases hflushed
  obtain ⟨⟨⟩, placed, hplaced, h⟩ := Action.outcome_bind_eq_ok.1 h
  have heq := of_outcome_putNode hplaced
  obtain ⟨⟨⟩, written, hwritten, h⟩ := Action.outcome_bind_eq_ok.1 h
  obtain ⟨edges, hedges⟩ := Action.exists_of_outcome_discard hwritten
  cases h
  rw [heq] at hedges
  exact ⟨rfl, hnew, hfree, edges, hedges⟩

/-- What a creation does that comes to an end. -/
lemma exists_of_create {request : CreateRequest} {id : Identifier}
    (h : (create direct request).outcome m = (.ok id, m')) :
    ∃ title note m₁ supply edges, note.id = id ∧ note.user = request.user ∧
      (newTitle direct request.user request.title).outcome m = (.ok note.title, m) ∧
      (titleKeyword direct note.user note.title).outcome m = (.ok title, m₁) ∧
      note.represents = some title.id ∧ note.links = Wikilink.intervals note.body ∧
      supply.Drawn note.id ∧ m₁.supply.Precedes supply ∧
      (∀ n ∈ m₁.relational.notes, n.id ≠ note.id) ∧
      m₁.relational.isTitleTaken note = false ∧
      (resync direct note).outcome { m₁ with
        relational := m₁.relational.putNote note
        graph := m₁.graph.putNote note
        supply } = (.ok edges, m') := by
  obtain ⟨name, m₀, hname, h⟩ := Action.outcome_bind_eq_ok.1 h
  have hquiet := (quiet_newTitle _ _).of_outcome_eq hname
  rw [hquiet] at h hname
  obtain ⟨title, m₁, htitle, h⟩ := Action.outcome_bind_eq_ok.1 h
  let drawn : Memory := { m₁ with supply := (Supply.draw m₁.supply).2 }
  let timed : Memory := { drawn with supply := (Supply.now drawn.supply).2 }
  have hdrawn : direct.newIdentifier.outcome m₁ = (.ok (Supply.draw m₁.supply).1, drawn) := rfl
  have htimed : direct.now.outcome drawn = (.ok (Supply.now drawn.supply).1, timed) := rfl
  rw [Action.outcome_bind_ok hdrawn, Action.outcome_bind_ok htimed] at h
  let plain := Note.new (Supply.draw m₁.supply).1 request.user (Supply.now drawn.supply).1 name
    request.text
  let note : Note :=
    { plain with represents := some title.id, links := Wikilink.intervals plain.body }
  obtain ⟨hid, hnew, hfree, edges, hresync⟩ := exists_of_insert note h
  refine ⟨title, note, m₁, timed.supply, edges, hid, rfl, hname, htitle, rfl, rfl, ?_, ?_, hnew,
    hfree, hresync⟩
  · exact (Supply.Precedes.now _).drawn (Supply.drawn_draw m₁.supply)
  · exact (Supply.Precedes.draw _).trans (.now _)

/-- A changed note is put into rows and graph before its links are written. -/
lemma exists_of_replace (note : Note) {result : Note} {decision : Resync.Decision}
    {names : List String}
    (h : Action.outcome (do
      direct.updateNote note
      direct.putNode note
      resyncIf decision direct note
      cleanUp direct note.user names
      pure note) m = (.ok result, m')) :
    result = note ∧ m.relational.isTitleTaken note = false ∧ ∃ written,
      (resyncIf decision direct note).outcome { m with
        relational := m.relational.putNote note, graph := m.graph.putNote note } =
          (.ok (), written) ∧
      (cleanUp direct note.user names).outcome written = (.ok (), m') := by
  obtain ⟨⟨⟩, updated, hupdated, h⟩ := Action.outcome_bind_eq_ok.1 h
  obtain ⟨hfree, rfl⟩ := of_outcome_updateNote hupdated
  obtain ⟨⟨⟩, placed, hplaced, h⟩ := Action.outcome_bind_eq_ok.1 h
  have heq := of_outcome_putNode hplaced
  obtain ⟨⟨⟩, written, hwritten, h⟩ := Action.outcome_bind_eq_ok.1 h
  obtain ⟨⟨⟩, cleaned, hcleaned, h⟩ := Action.outcome_bind_eq_ok.1 h
  cases h
  rw [heq] at hwritten
  exact ⟨rfl, hfree, written, hwritten, hcleaned⟩

/-- What an update does that comes to an end. -/
lemma exists_of_update {request : UpdateRequest} {result : Note}
    (h : (update direct request).outcome m = (.ok result, m')) :
    ∃ previous retitled m₁ written, previous ∈ m.relational.notes ∧
      previous.id = request.note ∧ m₁.relational.isTitleTaken result = false ∧
      (retitle direct previous request.title).outcome m = (.ok retitled, m₁) ∧
      result.id = retitled.id ∧ result.user = retitled.user ∧ result.title = retitled.title ∧
      result.represents = retitled.represents ∧
      result.links = Wikilink.intervals result.body ∧
      (resyncIf (Resync.decision previous result.body request.patch?.isSome
          (result.title ≠ previous.title)) direct result).outcome { m₁ with
        relational := m₁.relational.putNote result
        graph := m₁.graph.putNote result
        supply := (Supply.now m₁.supply).2 } = (.ok (), written) ∧
      (cleanUp direct result.user (Reference.removed (referencedNames previous)
        (referencedNames result))).outcome written = (.ok (), m') := by
  obtain ⟨previous, m₀, hprevious, h⟩ := Action.outcome_bind_eq_ok.1 h
  obtain ⟨hsame, hmem, hprevious⟩ := outcome_noteToUpdate hprevious
  rw [hsame] at h
  obtain ⟨retitled, m₁, hretitled, h⟩ := Action.outcome_bind_eq_ok.1 h
  let timed : Memory := { m₁ with supply := (Supply.now m₁.supply).2 }
  have htimed : direct.now.outcome m₁ = (.ok (Supply.now m₁.supply).1, timed) := rfl
  rw [Action.outcome_bind_ok htimed] at h
  obtain ⟨text, m₂, htext, h⟩ := Action.outcome_bind_eq_ok.1 h
  rw [(Action.Quiet.ofExcept _).of_outcome_eq htext] at h
  let changed : Note := { retitled with
    updated := (Supply.now m₁.supply).1, text
    pinned := request.pinned.getD previous.pinned
    archived := request.archived.getD previous.archived }
  let note : Note := { changed with links := Wikilink.intervals changed.body }
  obtain ⟨rfl, hfree, written, hwritten, hcleaned⟩ := exists_of_replace note h
  exact ⟨previous, retitled, m₁, written, hmem, hprevious, hfree, hretitled, rfl, rfl, rfl, rfl,
    rfl, hwritten, hcleaned⟩

/-- What a deletion does that comes to an end. -/
lemma exists_of_delete {id : Identifier} (h : (delete direct id).outcome m = (.ok (), m')) :
    ∃ note cleaned, note ∈ m.relational.notes ∧ note.id = id ∧
      (cleanUp direct note.user (Reference.names (m.relational.linkedNames note.id)
        note.represents note.title)).outcome
          { m with relational := m.relational.deleteNote note.id } = (.ok (), cleaned) ∧
      m' = { cleaned with graph := cleaned.graph.deleteNote note.id } := by
  obtain ⟨note, m₀, hnote, h⟩ := Action.outcome_bind_eq_ok.1 h
  obtain ⟨hsame, hmem, hid⟩ := outcome_noteToUpdate hnote
  rw [hsame, ← hid] at h
  let linked := m.relational.linkedNames note.id
  let dropped : Memory := { m with relational := m.relational.deleteNote note.id }
  have hlinked : (direct.linkedNames note.id).outcome m = (.ok linked, m) := rfl
  have hdropped : (direct.deleteNote note.id).outcome m = (.ok (), dropped) := rfl
  -- the links of the note went along with it, so there are none to drop
  have hunlinked : (direct.unlink note.id).outcome dropped = (.ok (), dropped) := by
    have hagain : dropped.relational.unlink note.id = dropped.relational := by
      simp [dropped, Relational.unlink, Relational.deleteNote]
    show (_, { dropped with relational := dropped.relational.unlink note.id }) = _
    rw [hagain]
  rw [Action.outcome_bind_ok hlinked, Action.outcome_bind_ok hdropped,
    Action.outcome_bind_ok hunlinked] at h
  obtain ⟨⟨⟩, cleaned, hcleaned, h⟩ := Action.outcome_bind_eq_ok.1 h
  exact ⟨note, cleaned, hmem, hid, hcleaned, of_outcome_deleteNode h⟩

/-- What a merge does that comes to an end: an update, unless the sources have no text, and a
deletion of each source. -/
lemma exists_of_merge {request : MergeRequest} {result : Note}
    (h : (merge direct request).outcome m = (.ok result, m')) :
    ∃ (target : Note) (sources : List Note) (m₁ : Memory), mergeFault? request = none ∧
      (ownedNote direct request.user request.target).outcome m = (.ok target, m) ∧
      (request.sources.mapM (ownedNote direct request.user)).outcome m = (.ok sources, m) ∧
      ((Joined.chain (sources.map (·.text)) = none ∧ result = target ∧ m₁ = m) ∨
        ∃ appended, Joined.chain (sources.map (·.text)) = some appended ∧
          (update direct {
            note := target.id
            text := some (Joined.append target.text (some appended)) }).outcome m =
              (.ok result, m₁)) ∧
      (sources.forM fun source => delete direct source.id).outcome m₁ = (.ok ⟨⟩, m') := by
  unfold merge at h
  cases hfault : mergeFault? request with
  | some fault =>
    rw [hfault] at h
    cases h
  | none =>
    rw [hfault] at h
    dsimp only at h
    obtain ⟨target, m₂, htarget, h⟩ := Action.outcome_bind_eq_ok.1 h
    have hsame := (quiet_ownedNote _ _).of_outcome_eq htarget
    rw [hsame] at h htarget
    obtain ⟨sources, m₃, hsources, h⟩ := Action.outcome_bind_eq_ok.1 h
    have hsame' := (Action.Quiet.mapM (quiet_ownedNote _) _).of_outcome_eq hsources
    rw [hsame'] at h hsources
    -- the sources are deleted after an update, or at once
    cases hjoined : Joined.chain (sources.map (·.text)) with
    | none =>
      rw [hjoined] at h
      obtain ⟨merged, m₁, hmerged, h⟩ := Action.outcome_bind_eq_ok.1 h
      cases hmerged
      obtain ⟨⟨⟩, deleted, hdeleted, h⟩ := Action.outcome_bind_eq_ok.1 h
      cases h
      exact ⟨_, sources, _, rfl, htarget, hsources, Or.inl ⟨hjoined, rfl, rfl⟩, hdeleted⟩
    | some appended =>
      rw [hjoined] at h
      obtain ⟨merged, m₁, hmerged, h⟩ := Action.outcome_bind_eq_ok.1 h
      obtain ⟨⟨⟩, deleted, hdeleted, h⟩ := Action.outcome_bind_eq_ok.1 h
      cases h
      exact ⟨target, sources, m₁, rfl, htarget, hsources, Or.inr ⟨appended, hjoined, hmerged⟩,
        hdeleted⟩

end LinkedNotes.Store
