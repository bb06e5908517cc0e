import LinkedNotes.Proofs.Store.Restored
import LinkedNotes.Proofs.Store.Resynced
import LinkedNotes.Proofs.Store.Titles

/-!
# Notes with another text

While the graph can be written, a note that is there can be given any text (`Reworded`). In both
stores it then links to everything that the text names (`Links`), and that lasts as long as the note
is left alone.
-/

namespace LinkedNotes.Store

open Service
open Memory (direct)

variable {m m' : Memory} {target note : Note}

/-! ## Links in both stores -/

/-- In both stores, the note links to the keyword of its user with the name. -/
def Links (m : Memory) (note : Note) (name : String) : Prop :=
  ∃ k ∈ m.relational.keywords, k.user = note.user ∧ k.name = name ∧
    (note.id, k.id) ∈ m.relational.links ∧ k ∈ m.graph.keywords ∧
    Edge.of note.id .linksTo k ∈ m.graph.edges

/-- A link row has its edge. -/
lemma Tidy.links (hm : Tidy m) {k : Keyword} (hk : k ∈ m.relational.keywords)
    (huser : k.user = note.user) (hlink : (note.id, k.id) ∈ m.relational.links) :
    Links m note k.name :=
  ⟨k, hk, huser, rfl, hlink, (hm.projection.mem_keywords k).2 hk,
    (hm.projection.mem_edges _).2 ⟨k, hk, rfl, hlink⟩⟩

/-- A note that is left alone links to what it linked to. -/
lemma Links.of_untouched {name : String} (h : Links m note name) (hm' : Tidy m')
    (huntouched : Untouched note.id m m') : Links m' note name := by
  obtain ⟨k, hk, huser, rfl, hlink, -⟩ := h
  have hpoints : m.relational.Points note.id .linksTo k.id := hlink
  exact hm'.links ((huntouched.keyword_iff _ k hpoints).2 hk) huser
    (huntouched.points_iff.2 hpoints)

/-- A note that was written anew links to what its text names, and cleaning up changes nothing
about that. -/
lemma Renewed.links_of_cleaned {written : Memory} {title : Keyword} {linked : List Keyword}
    {names : List String} (h : Renewed m note title linked written) (hm : Tidy m)
    (hcleaned : Cleaned written note.user names m') (hm' : Tidy m') :
    ∀ name ∈ Wikilink.targets note.body, Links m' note name := by
  rw [← h.names_eq]
  intro name hname
  obtain ⟨k, hk, rfl⟩ := List.mem_map.1 hname
  have hc := h.consistent hm.consistent
  have hmem := h.linked_subset hk
  have hlink : (note.id, k.id) ∈ written.relational.links := (h.mem_links_note hmem).2 hk
  have hpoints : written.relational.Points note.id .linksTo k.id := hlink
  refine hm'.links (hcleaned.mem_of_isReferenced hc hmem
    (Relational.isReferenced_iff.2 ⟨_, _, hpoints⟩)) (h.user_eq k hk) ?_
  rw [hcleaned.links_eq hc]
  exact hlink

/-! ## Another text -/

/-- A row with a title of its own can be updated. -/
lemma Relational.updateNote_eq_ok {rows : Relational} (h : rows.note? note.id = some target)
    (hfree : rows.isTitleTaken note = false) : rows.updateNote note = .ok (rows.putNote note) := by
  rw [updateNote, h, hfree]
  rfl

/-- A title that stays is not taken. -/
lemma Relational.WellTitled.isTitleTaken_eq_false {rows : Relational} (h : rows.WellTitled)
    (htarget : target ∈ rows.notes) (hid : note.id = target.id) (huser : note.user = target.user)
    (htitle : note.title = target.title) : rows.isTitleTaken note = false := by
  rw [Relational.isTitleTaken_eq_false]
  intro n hn hne huser' htitle'
  refine hne ?_
  rw [h.unique n hn target htarget (huser'.trans huser) (htitle'.trans htitle), hid]

/-- The memory in which a note was put, and its links are yet to be written. -/
def placed (note : Note) (m : Memory) : Memory :=
  { m with relational := m.relational.putNote note, graph := m.graph.putNote note }

/-- The memory in which a note was written, with its links if the decision is to. -/
def rewritten (decision : Resync.Decision) (note : Note) (m : Memory) : Memory :=
  if decision.isResync then resynced note (placed note m) else placed note m

/-- While the graph can be written, a row with a title of its own can be written anew. -/
lemma exists_outcome_replace (note : Note) (decision : Resync.Decision) (names : List String)
    (hfound : m.relational.note? note.id = some target)
    (hfree : m.relational.isTitleTaken note = false) (hwritable : m.graphReadOnly = false) :
    ∃ m', Action.outcome (do
        direct.updateNote note
        direct.putNode note
        resyncIf decision direct note
        cleanUp direct note.user names
        pure note) m = (.ok note, m') ∧
      (cleanUp direct note.user names).outcome (rewritten decision note m) = (.ok (), m') ∧
      m'.graphReadOnly = false := by
  let listed : Memory := { m with relational := m.relational.putNote note }
  have hlisted : (Memory.tryRows (·.updateNote note)).outcome m = (.ok (), listed) :=
    Memory.outcome_tryRows_ok (Relational.updateNote_eq_ok hfound hfree)
  have hplaced : (Memory.nodes (·.putNote note)).outcome listed = (.ok (), placed note m) :=
    Memory.outcome_nodes (m := listed) hwritable _
  have hresynced : (resyncIf decision direct note).outcome (placed note m) =
      (.ok (), rewritten decision note m) := by
    unfold resyncIf rewritten
    split
    · exact Action.outcome_discard (outcome_resync (m := placed note m) hwritable note)
    · rfl
  have hstill : (rewritten decision note m).graphReadOnly = false := by
    unfold rewritten
    split <;> exact hwritable
  obtain ⟨m', hcleaned, hstill⟩ := exists_outcome_cleanUp hstill note.user names
  refine ⟨m', ?_, hcleaned, hstill⟩
  refine (Action.outcome_bind_ok hlisted).trans ((Action.outcome_bind_ok hplaced).trans ?_)
  exact (Action.outcome_bind_ok hresynced).trans (Action.outcome_bind_ok hcleaned)

/-- The note that an update makes of one that has its title already. -/
def edited (request : UpdateRequest) (previous retitled : Note) (updated : Time.Timestamp)
    (text : Option String) : Note :=
  { retitled with
    updated, text
    pinned := request.pinned.getD previous.pinned
    archived := request.archived.getD previous.archived
    links := Wikilink.intervals (text.getD "") }

/-- While the graph can be written, an update comes to an end once the title and the text are
there. -/
lemma exists_outcome_update {request : UpdateRequest} {previous retitled : Note} {m₁ : Memory}
    {text : Option String} (hfound : m.relational.note? request.note = some previous)
    (hretitled : (retitle direct previous request.title).outcome m = (.ok retitled, m₁))
    (htext : newText request previous = .ok text)
    (hthere : m₁.relational.note? retitled.id = some previous)
    (hfree : m₁.relational.isTitleTaken retitled = false) (hwritable : m₁.graphReadOnly = false) :
    ∃ m', (update direct request).outcome m =
        (.ok (edited request previous retitled (Supply.now m₁.supply).1 text), m') ∧
      (cleanUp direct retitled.user (Reference.removed (referencedNames previous) (referencedNames
        (edited request previous retitled (Supply.now m₁.supply).1 text)))).outcome
          (rewritten (Resync.decision previous (text.getD "") request.patch?.isSome
              (retitled.title ≠ previous.title))
            (edited request previous retitled (Supply.now m₁.supply).1 text)
            { m₁ with supply := (Supply.now m₁.supply).2 }) = (.ok (), m') ∧
      m'.graphReadOnly = false := by
  let timed : Memory := { m₁ with supply := (Supply.now m₁.supply).2 }
  have htimed : direct.now.outcome m₁ = (.ok (Supply.now m₁.supply).1, timed) := rfl
  have hread : (MonadExcept.ofExcept (newText request previous) :
      Action Memory (Option String)).outcome timed = (.ok text, timed) := by
    rw [htext]
    rfl
  obtain ⟨m', hreplaced, hcleaned, hstill⟩ := exists_outcome_replace (m := timed)
    (edited request previous retitled (Supply.now m₁.supply).1 text)
    (Resync.decision previous (text.getD "") request.patch?.isSome
      (retitled.title ≠ previous.title))
    (Reference.removed (referencedNames previous) (referencedNames
      (edited request previous retitled (Supply.now m₁.supply).1 text)))
    hthere hfree hwritable
  refine ⟨m', ?_, hcleaned, hstill⟩
  rw [update, Action.outcome_bind_ok (outcome_noteToUpdate_of_some hfound),
    Action.outcome_bind_ok hretitled, Action.outcome_bind_ok htimed, Action.outcome_bind_ok hread]
  exact hreplaced

/-- From one memory to the other, the note got another text. -/
structure Reworded (m : Memory) (target : Note) (text : Option String) (note : Note)
    (m' : Memory) : Prop where
  updated : Updated m target note m'
  kept : { note with
    updated := target.updated, text := target.text, links := target.links } = target
  text_eq : note.text = text
  links : ∀ name ∈ Wikilink.targets note.body, Links m' note name

/-- A note that is there can be given any text, and links to what that names. -/
lemma exists_reworded (hm : Tidy m) (ht : m.relational.WellTitled)
    (hwritable : m.graphReadOnly = false) (htarget : target ∈ m.relational.notes)
    (text : Option String) :
    ∃ note m', (update direct { note := target.id, text := some text }).outcome m =
        (.ok note, m') ∧ m'.graphReadOnly = false ∧
      (m'.supply.Fresh → Reworded m target text note m') := by
  have hfound : m.relational.note? target.id = some target :=
    Keyed.find?_key hm.consistent.notes_nodup htarget
  let request : UpdateRequest := { note := target.id, text := some text }
  let note : Note := edited request target target (Supply.now m.supply).1 text
  have hretitled : (retitle direct target request.title).outcome m = (.ok target, m) := rfl
  have htext : newText request target = .ok text := rfl
  have hfree : m.relational.isTitleTaken target = false :=
    ht.isTitleTaken_eq_false htarget rfl rfl rfl
  obtain ⟨m', hupdate, -, hstill⟩ :=
    exists_outcome_update hfound hretitled htext hfound hfree hwritable
  refine ⟨note, m', hupdate, hstill, fun hfresh => ?_⟩
  obtain ⟨previous, hid, hupdated⟩ := exists_updated hupdate hm hfresh
  have hsame : previous = target :=
    Keyed.eq_of_key_eq hm.consistent.notes_nodup hupdated.mem htarget hid
  rw [hsame] at hupdated
  obtain ⟨title, linked, written, names, hrenewed, -, hclean⟩ :=
    exists_renewed_of_update hupdate hm hfresh rfl
  exact ⟨hupdated, rfl, rfl,
    hrenewed.links_of_cleaned hm (cleaned_of_cleanUp hclean) (hupdated.tidy hm)⟩

end LinkedNotes.Store
