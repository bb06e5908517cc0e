import LinkedNotes.Proofs.Store.Edited

/-!
# An update made again

A resync leaves the links and the edges of a note behind those of all other notes (`Trailing`).
Written again, they are found there as they are. So an update without a patch that is made again
succeeds again, and changes nothing but the time at which the note was updated (`update_again_run`).
-/

namespace LinkedNotes.Store

open Service
open Memory (World direct service)
open Time (Timestamp)

variable {m m' : Memory} {note : Note} {title : Keyword} {linked : List Keyword}

/-! ## Links and edges at the end -/

/-- The links and the edges of the note stand behind all others, in the order in which a resync
writes them, and lead to keywords that are there. -/
structure Trailing (m : Memory) (note : Note) (title : Keyword) (linked : List Keyword) :
    Prop where
  mem_linked : ∀ k ∈ linked, k ∈ m.relational.keywords ∧ k.user = note.user
  names_eq : linked.map (·.name) = Wikilink.targets note.body
  title_mem : title ∈ m.relational.keywords
  title_user : title.user = note.user
  title_name : title.name = note.title
  represents_eq : note.represents = some title.id
  links_eq : m.relational.links = (m.relational.replaceLinks note.id (linked.map (·.id))).links
  edges_eq : m.graph.edges = (m.graph.unlink note.id).edges ++
    (linked.map (Edge.of note.id .linksTo) ++ [Edge.of note.id .represents title])

/-- Links that were replaced are the same when they are replaced again. -/
lemma Relational.links_replaceLinks_replaceLinks (rows : Relational) (id : Identifier)
    (keywords : List Identifier) :
    ((rows.replaceLinks id keywords).replaceLinks id keywords).links =
      (rows.replaceLinks id keywords).links := by
  simp [replaceLinks, unlink, List.filter_append, List.filter_filter, List.filter_map,
    Function.comp_def]

/-- A note that was written anew is left so when unused keywords are dropped. -/
lemma Renewed.trailing {written : Memory} {names : List String}
    (h : Renewed m note title linked written) (hm : Tidy m)
    (hcleaned : Cleaned written note.user names m') : Trailing m' note title linked := by
  have hc := h.consistent hm.consistent
  have hp := h.projection hm.consistent hm.projection
  have hgains := h.gains hm.projection
  -- the keywords that were written to are referred to, so they are still there
  have hthere : ∀ {kind k}, k ∈ written.relational.keywords →
      written.relational.Points note.id kind k.id → k ∈ m'.relational.keywords :=
    fun hk hpoints => hcleaned.mem_of_isReferenced hc hk
      (Relational.isReferenced_iff.2 ⟨_, _, hpoints⟩)
  have hlinks : m'.relational.links =
      (m.relational.replaceLinks note.id (linked.map (·.id))).links :=
    (hcleaned.links_eq hc).trans h.links_eq
  have hedges : m'.graph.edges = ((m.graph.putNote note).unlink note.id).edges ++
      (linked.map (Edge.of note.id .linksTo) ++ [Edge.of note.id .represents title]) :=
    (hcleaned.edges_eq hc hp).trans hgains.edges_eq
  exact {
    mem_linked := fun k hk =>
      have hmem := h.linked_subset hk
      ⟨hthere hmem ((h.points_self hm.consistent hmem).2 (Or.inl ⟨rfl, hk⟩)), h.user_eq k hk⟩
    names_eq := h.names_eq
    title_mem := hthere h.title_mem
      ((h.points_self hm.consistent h.title_mem).2 (Or.inr ⟨rfl, rfl⟩))
    title_user := h.title_user
    title_name := h.title_name
    represents_eq := h.represents_eq
    links_eq := by
      have hagain := Relational.links_replaceLinks_replaceLinks m.relational note.id
        (linked.map (·.id))
      rw [hlinks, ← hagain]
      show _ = m'.relational.links.filter _ ++ _
      rw [hlinks]
      rfl
    edges_eq := by
      rw [hedges]
      show _ = m'.graph.edges.filter _ ++ _
      rw [hedges, List.filter_append, filter_ne_eq_nil, List.append_nil]
      show _ = (m.graph.edges.filter _).filter _ ++ _
      rw [List.filter_filter]
      simp only [Bool.and_self]
      rfl }

/-! ## Writing again -/

/-- The rows as they are, but for the time at which a note was updated. -/
def Relational.touched (rows : Relational) (id : Identifier) (updated : Timestamp) : Relational :=
  { rows with notes := rows.notes.map fun n => if n.id = id then { n with updated } else n }

/-- Putting a note with another time changes nothing but that. -/
lemma Relational.putNote_eq_touched {rows : Relational} (hnodup : (rows.notes.map (·.id)).Nodup)
    (hnote : note ∈ rows.notes) (updated : Timestamp) :
    rows.putNote { note with updated } = rows.touched note.id updated := by
  have hput : (rows.putNote { note with updated }).notes =
      rows.notes.map fun n => if n.id = note.id then { note with updated } else n :=
    Keyed.put_eq_map hnodup hnote rfl
  have hsame : ∀ n ∈ rows.notes, (if n.id = note.id then { note with updated } else n) =
      if n.id = note.id then { n with updated } else n := by
    intro n hn
    split
    · next hid => rw [Keyed.eq_of_key_eq hnodup hn hnote hid]
    · rfl
  rw [Relational.mk.injEq]
  exact ⟨hput.trans (List.map_congr_left hsame), rfl, rfl⟩

/-- A graph in which the edges of a note are the last ones stays as it is when they are replaced by
the same ones. -/
lemma Trailing.replaceEdges_eq (h : Trailing m note title linked) (hm : Tidy m) :
    m.graph.replaceEdges note.id linked (some title) = m.graph := by
  have hgraph : m.graph.keywords ⊆ m.relational.keywords :=
    fun k hk => (hm.projection.mem_keywords k).1 hk
  have hgains := Graph.replaceEdges_spec hm.consistent.registered note.id hgraph
    (fun k hk => (h.mem_linked k hk).1) h.title_mem
  have hthere : linked ++ [title] ⊆ m.graph.keywords := by
    intro k hk
    refine (hm.projection.mem_keywords k).2 ?_
    rcases List.mem_append.1 hk with hk | hk
    · exact (h.mem_linked k hk).1
    · rw [List.mem_singleton.1 hk]
      exact h.title_mem
  rw [hgains.eq_of_subset hm.projection.keywords_nodup hthere, ← h.edges_eq]
  rfl

/-- The node of a note that is there is put where it was. -/
lemma Projection.putNote_eq {rows : Relational} {graph : Graph} (h : Projection rows graph)
    (hnodup : (rows.notes.map (·.id)).Nodup) (hnote : note ∈ rows.notes) :
    graph.putNote note = graph := by
  have hnodes : (graph.putNote note).nodes = graph.nodes := by
    rw [h.nodes_putNote, h.nodes_eq]
    show (Keyed.put _ note rows.notes).map _ = _
    rw [Keyed.put_of_mem hnodup hnote]
  rw [Graph.mk.injEq]
  exact ⟨hnodes, rfl, rfl⟩

/-- A note whose links and edges are the last ones is written again as it is. -/
lemma Trailing.resynced_eq (h : Trailing m note title linked) (hm : Tidy m)
    (hnote : note ∈ m.relational.notes) (updated : Timestamp) (supply : Supply) :
    resynced { note with updated } (placed { note with updated } { m with supply }) =
      { m with relational := m.relational.touched note.id updated, supply } := by
  let again : Note := { note with updated }
  let before : Memory := placed again { m with supply }
  have hasked : asked again before = ((linked, before.relational), supply) := by
    have hdistinct : Text.distinct (Wikilink.targets again.body) = linked.map (·.name) :=
      (Text.distinct_eq_self (Text.nodup_distinct _)).trans h.names_eq.symm
    rw [asked, Relational.ensureKeywords, hdistinct]
    exact Relational.ensureDistinct_of_mem hm.consistent.registered h.mem_linked
  have hregistered : Registered m.supply before.relational.keywords := hm.consistent.registered
  have hrepresented : before.relational.represented again = some title := by
    have hsome : again.represents.isSome = true := by
      rw [show again.represents = some title.id from h.represents_eq]
      rfl
    rw [Relational.represented, if_pos hsome]
    exact (Relational.keywordNamed?_eq_some hregistered).2
      ⟨h.title_mem, h.title_user, h.title_name⟩
  have hlinks : before.relational.replaceLinks note.id (linked.map (·.id)) =
      m.relational.touched note.id updated := by
    rw [← Relational.putNote_eq_touched hm.consistent.notes_nodup hnote, Relational.mk.injEq]
    exact ⟨rfl, rfl, h.links_eq.symm⟩
  -- the graph does not know when a note was updated
  have hgraph : before.graph = m.graph := by
    show m.graph.putNote note = m.graph
    exact hm.projection.putNote_eq hm.consistent.notes_nodup hnote
  have hedges : before.graph.replaceEdges note.id linked (some title) = m.graph := by
    rw [hgraph]
    exact h.replaceEdges_eq hm
  show resynced again before = _
  rw [resynced, hasked]
  dsimp only
  rw [hrepresented]
  show ({ m with
    relational := before.relational.replaceLinks note.id (linked.map (·.id))
    graph := before.graph.replaceEdges note.id linked (some title)
    supply } : Memory) = _
  rw [hlinks, hedges]

/-! ## Asking again -/

section Edited

variable {request : UpdateRequest} {previous : Note} (h : Edited request previous note m')

include h

/-- The note has the title asked for, and keeps it. -/
lemma Edited.outcome_retitle {m : Memory} (hasks : ¬request.AsksBlank) :
    (retitle direct note request.title).outcome m = (.ok note, m) := by
  have htitle := h.title_eq
  cases hasked : request.title with
  | none => rfl
  | some asked =>
    rw [hasked] at htitle
    rw [retitle]
    cases hnormal : Title.normalize? (some asked) with
    | none =>
      refine absurd ?_ hasks
      rw [UpdateRequest.AsksBlank, hasked]
      exact ⟨rfl, Title.normalize?_eq_none_iff.1 hnormal⟩
    | some name =>
      rw [hnormal] at htitle
      have hsame : name = note.title := htitle.symm
      dsimp only
      rw [if_pos hsame]
      rfl

/-- The note has the text asked for, unless that depends on the one it had. -/
lemma Edited.newText_eq (hpatch : ∀ patch, ¬request.AsksPatch patch) :
    newText request note = .ok note.text := by
  have hkeeps : request.text.getD note.text = note.text := by
    rw [h.text_of_not_patch hpatch]
    cases request.text <;> rfl
  rw [newText, UpdateRequest.patch?_eq_none_iff.2 hpatch]
  exact congrArg Except.ok hkeeps

/-- What an update makes of the note is the note, but for the time. -/
lemma Edited.edited_eq (updated : Timestamp) :
    edited request note note updated note.text = { note with updated } := by
  have hpinned : request.pinned.getD note.pinned = note.pinned := by
    rw [h.pinned_eq]
    cases request.pinned <;> rfl
  have harchived : request.archived.getD note.archived = note.archived := by
    rw [h.archived_eq]
    cases request.archived <;> rfl
  have hlinks : Wikilink.intervals (note.text.getD "") = note.links := h.links_eq.symm
  rw [edited, hpinned, harchived, hlinks]

/-- With the links and the edges of the note at the end, asking again changes nothing but the
time. -/
lemma Edited.exists_outcome_update (hasks : ¬request.AsksBlank)
    (hpatch : ∀ patch, ¬request.AsksPatch patch) (hid : note.id = request.note)
    (hm' : Tidy m') (ht' : m'.relational.WellTitled) (hwritable : m'.graphReadOnly = false)
    (htrailing : Trailing m' note title linked) :
    ∃ updated m'', (update direct request).outcome m' = (.ok { note with updated }, m'') ∧
      m''.relational = m'.relational.touched note.id updated ∧ m''.graph = m'.graph := by
  have hfound : m'.relational.note? request.note = some note := by
    rw [← hid]
    exact h.committed
  have hnote : note ∈ m'.relational.notes := (Keyed.of_find?_eq_some hfound).1
  have hfree := ht'.isTitleTaken_eq_false hnote rfl rfl rfl
  obtain ⟨m'', hupdate, hclean, -⟩ := Store.exists_outcome_update hfound
    (h.outcome_retitle hasks) (h.newText_eq hpatch) h.committed hfree hwritable
  rw [h.edited_eq] at hupdate hclean
  -- the note refers to what it referred to, so there is nothing to clean up
  have hnames : Reference.removed (referencedNames note) (referencedNames
      { note with updated := (Supply.now m'.supply).1 }) = [] :=
    List.filter_eq_nil_iff.2 fun name hname hgone => of_decide_eq_true hgone hname
  rw [hnames] at hclean
  obtain rfl : _ = m'' := congrArg Prod.snd hclean
  have hdecision : (Resync.decision note (note.text.getD "") request.patch?.isSome
      (note.title ≠ note.title)).isResync = true := by
    rw [UpdateRequest.patch?_eq_none_iff.2 hpatch]
    rfl
  rw [rewritten, if_pos hdecision, htrailing.resynced_eq hm' hnote] at hupdate
  exact ⟨_, _, hupdate, rfl, rfl⟩

end Edited

/-- An update without a patch that is made again changes nothing but the time. -/
theorem exists_outcome_update_again {request : UpdateRequest}
    (h : (update direct request).outcome m = (.ok note, m')) (hm : Tidy m)
    (ht : m.relational.WellTitled) (hwritable : m.graphReadOnly = false)
    (hfresh : m'.supply.Fresh) (hpatch : ∀ patch, ¬request.AsksPatch patch) :
    ∃ updated m'', (update direct request).outcome m' = (.ok { note with updated }, m'') ∧
      m''.relational = m'.relational.touched note.id updated ∧ m''.graph = m'.graph := by
  have hends : UpdateEnds m request ((update direct request).outcome m) :=
    updateEnds hm ht hwritable (by rw [h]; exact hfresh)
  rw [h] at hends
  obtain ⟨_, -, hupdated⟩ := exists_updated h hm hfresh
  obtain ⟨title, linked, written, names, hrenewed, hstill, hclean⟩ :=
    exists_renewed_of_update h hm hfresh (UpdateRequest.patch?_eq_none_iff.2 hpatch)
  have htrailing := hrenewed.trailing hm (cleaned_of_cleanUp hclean)
  obtain ⟨cleaned, hclean', hstill⟩ := exists_outcome_cleanUp hstill note.user names
  obtain rfl : cleaned = m' := congrArg Prod.snd (hclean'.symm.trans hclean)
  cases hends with
  | edited hfound hfits _ hedited =>
    exact hedited.exists_outcome_update hfits.not_blank hpatch
      (hedited.id_eq.trans (Keyed.of_find?_eq_some hfound).2) (hupdated.tidy hm)
      (hupdated.wellTitled ht hm) hstill htrailing

/-! ## Calls -/

/-- After every run from empty stores, if the graph can be written, an update without a patch that
has succeeded succeeds again, and leaves both stores as they are but for the time at which the note
was updated. -/
theorem update_again_run (supply : Supply) (calls : List Call) (request : UpdateRequest)
    {updated : World} (hwritable : (run calls (Memory.empty supply)).store.graphReadOnly = false)
    (hpatch : ∀ patch, ¬request.AsksPatch patch)
    (hupdated : (service.update request).outcome (run calls (Memory.empty supply)) =
      (.ok note, updated))
    (hfresh : updated.store.supply.Fresh) :
    ∃ time again, (service.update request).outcome updated =
        (.ok { note with updated := time }, again) ∧
      again.store.relational = updated.store.relational.touched note.id time ∧
      again.store.graph = updated.store.graph := by
  have hprecedes := (Change.update request).precedes_call (run calls (Memory.empty supply))
  have hafter : ((Change.update request).call.outcome (run calls (Memory.empty supply))).2 =
      updated := congrArg Prod.snd hupdated
  rw [hafter] at hprecedes
  obtain ⟨hm, ht⟩ := wellTitled_run supply calls (hprecedes.fresh hfresh)
  have hdirect := (Change.update request).outcome_direct_of_call hupdated
  obtain ⟨time, m'', hagain, hrelational, hgraph⟩ :=
    exists_outcome_update_again hdirect hm ht hwritable hfresh hpatch
  obtain ⟨again, houtcome, rfl⟩ := (Change.update request).exists_call_of_direct hagain
  exact ⟨time, again, houtcome, hrelational, hgraph⟩

/-- A request for another title and text: two keywords go, and two others come. -/
def rewriting : UpdateRequest :=
  { note := .ofNat 1, title := some " D", text := some (some "[[F]] [[B]] [[D]]"), patch := some ""
    pinned := some true }

lemma fresh_rewriting : ((service.update rewriting).outcome
    (run sharing (Memory.empty counting))).2.store.supply.Fresh :=
  (Change.update rewriting).fresh_of_counting sharing rfl (by decide +kernel)

theorem update_again_run_rewriting :
    (run sharing (Memory.empty counting)).store.graphReadOnly = false ∧
      (∀ patch, ¬rewriting.AsksPatch patch) ∧
      ((service.update rewriting).outcome
        (run sharing (Memory.empty counting))).2.store.relational.keywords.map (·.name) =
          ["B", "B", "E", "Untitled 1", "E", "D", "F"] ∧
      ∃ note updated, (service.update rewriting).outcome (run sharing (Memory.empty counting)) =
          (.ok note, updated) ∧
        updated.store.supply.Fresh ∧
        ∃ time again, (service.update rewriting).outcome updated =
            (.ok { note with updated := time }, again) ∧
          again.store.relational = updated.store.relational.touched note.id time ∧
          again.store.graph = updated.store.graph := by
  have hwritable : (run sharing (Memory.empty counting)).store.graphReadOnly = false := by
    decide +kernel
  have hpatch : ∀ patch, ¬rewriting.AsksPatch patch :=
    fun patch hasked => hasked.2 (Option.some.inj hasked.1).symm
  have hfresh := fresh_rewriting
  have hkeywords : ((service.update rewriting).outcome
      (run sharing (Memory.empty counting))).2.store.relational.keywords.map (·.name) =
        ["B", "B", "E", "Untitled 1", "E", "D", "F"] := by decide +kernel
  have hok : ((service.update rewriting).outcome
      (run sharing (Memory.empty counting))).1.isOk = true := by decide +kernel
  -- the world after the update is named, so that nothing below evaluates it
  generalize hupdated : (service.update rewriting).outcome
    (run sharing (Memory.empty counting)) = outcome at hfresh hkeywords hok ⊢
  obtain ⟨⟨fault⟩ | ⟨note⟩, updated⟩ := outcome
  · cases hok
  · exact ⟨hwritable, hpatch, hkeywords, note, updated, rfl, hfresh,
      update_again_run counting sharing rewriting hwritable hpatch hupdated hfresh⟩

end LinkedNotes.Store
