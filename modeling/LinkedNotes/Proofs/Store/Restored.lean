import LinkedNotes.Proofs.Store.Frame

/-!
# A deletion undoes a creation

A creation adds a note and the keywords that were missing, after those that were there. Deleting the
note right afterwards takes the same away again: the keywords that were there before are referred to
by other notes, and those that were added are not. So both stores are what they were, in every order
that they keep.
-/

namespace LinkedNotes.Store

open Service
open Memory (World direct service)

variable {m m' m'' : Memory} {note : Note}

/-! ## A deletion comes to an end -/

lemma exists_outcome_cleanUp (hwritable : m.graphReadOnly = false) (user : Identifier)
    (names : List String) : ∃ cleaned, (cleanUp direct user names).outcome m = (.ok (), cleaned) ∧
      cleaned.graphReadOnly = false := by
  unfold cleanUp
  split
  · exact ⟨m, rfl, hwritable⟩
  · let deleted := Relational.deleteUnused user names m.relational
    have hdeleted : (direct.deleteUnused user names).outcome m =
        (.ok deleted.1, { m with relational := deleted.2 }) := rfl
    rw [Action.outcome_bind_ok hdeleted]
    split
    · exact ⟨_, rfl, hwritable⟩
    · next hsome =>
      refine ⟨{ m with
        relational := deleted.2, graph := m.graph.deleteKeywords user deleted.1 }, ?_, hwritable⟩
      show Action.outcome (if deleted.1 ≠ [] then _ else _) _ = _
      rw [if_pos hsome]
      exact Memory.outcome_nodes (m := { m with relational := deleted.2 }) hwritable _

/-- A note that is there can be deleted while the graph can be written. -/
lemma exists_outcome_delete {id : Identifier} (hnote : m.relational.note? id = some note)
    (hwritable : m.graphReadOnly = false) :
    ∃ deleted, (delete direct id).outcome m = (.ok (), deleted) ∧
      deleted.graphReadOnly = false := by
  have hfound := outcome_noteToUpdate_of_some hnote
  let unlinked : Memory :=
    { m with relational := (m.relational.deleteNote id).unlink id }
  have hlinked : (direct.linkedNames id).outcome m = (.ok (m.relational.linkedNames id), m) := rfl
  have hdropped : (direct.deleteNote id).outcome m =
      (.ok (), { m with relational := m.relational.deleteNote id }) := rfl
  have hunlinked : (direct.unlink id).outcome
      { m with relational := m.relational.deleteNote id } = (.ok (), unlinked) := rfl
  obtain ⟨cleaned, hcleaned, hstill⟩ := exists_outcome_cleanUp (m := unlinked) hwritable note.user
    (Reference.names (m.relational.linkedNames id) note.represents note.title)
  refine ⟨{ cleaned with graph := cleaned.graph.deleteNote id }, ?_, hstill⟩
  rw [delete, Action.outcome_bind_ok hfound, Action.outcome_bind_ok hlinked,
    Action.outcome_bind_ok hdropped, Action.outcome_bind_ok hunlinked,
    Action.outcome_bind_ok hcleaned]
  exact Memory.outcome_nodes hstill (·.deleteNote id)

/-! ## What is left after both -/

/-- What comes after the old members goes if nothing else does. -/
lemma filter_eq_of_grows {α : Type} {old all : List α} {p : α → Bool} (hgrows : old <+: all)
    (hnodup : all.Nodup) (hmem : ∀ a ∈ all, p a = true ↔ a ∈ old) : all.filter p = old := by
  obtain ⟨added, rfl⟩ := hgrows
  have hkept : old.filter p = old :=
    List.filter_eq_self.2 fun a ha => (hmem a (List.mem_append_left _ ha)).2 ha
  have hgone : added.filter p = [] := by
    refine List.filter_eq_nil_iff.2 fun a ha hp => ?_
    have hold := (hmem a (List.mem_append_right _ ha)).1 hp
    exact (List.nodup_append.1 hnodup).2.2 a hold a ha rfl
  rw [List.filter_append, hkept, hgone, List.append_nil]

section Dropped

variable {title : Keyword} {linked : List Keyword} (h : Renewed m note title linked m')
  (hm : Tidy m) (hnew : ∀ n ∈ m.relational.notes, n.id ≠ note.id)
  (hdropped : Dropped m' note m'')

include h hnew hdropped

/-- The rows of notes are those from before. -/
lemma Renewed.notes_eq_of_dropped : m''.relational.notes = m.relational.notes := by
  have hput : (m.relational.putNote note).notes = m.relational.notes ++ [note] :=
    Keyed.put_of_forall_ne hnew
  rw [hdropped.relational_eq]
  show Keyed.erase _ note.id m'.relational.notes = _
  rw [h.notes_eq, hput, Keyed.erase, List.filter_append]
  simpa using hnew

include hm

/-- No link led from the note before it was created. -/
lemma Renewed.links_eq_of_dropped : m''.relational.links = m.relational.links := by
  have hold : ∀ link ∈ m.relational.links, link.1 ≠ note.id := by
    intro link hlink
    obtain ⟨n, hn, -, -, hsource, -⟩ := hm.consistent.refers link hlink
    rw [← hsource]
    exact hnew n hn
  rw [hdropped.relational_eq]
  show m'.relational.links.filter _ = _
  rw [h.links_eq, Relational.replaceLinks, Relational.unlink, List.filter_append,
    List.filter_filter, List.filter_map]
  simpa [Function.comp_def] using hold

/-- No edge led from the note before it was created. -/
lemma Renewed.edges_eq_of_dropped : m''.graph.edges = m.graph.edges := by
  have hold : ∀ e ∈ m.graph.edges, e.note ≠ note.id := by
    intro e he
    obtain ⟨k, -, -, hpoints⟩ := (hm.projection.mem_edges e).1 he
    obtain ⟨n, hn, -, -, hsource, -⟩ := hm.consistent.of_points hpoints
    rw [← hsource]
    exact hnew n hn
  have hunlinked : ((m.graph.putNote note).unlink note.id).edges = m.graph.edges :=
    List.filter_eq_self.2 fun e he => decide_eq_true (hold e he)
  rw [hdropped.graph_eq]
  show m'.graph.edges.filter _ = _
  rw [(h.gains hm.projection).edges_eq, hunlinked, List.filter_append, filter_ne_eq_nil,
    List.append_nil]
  exact List.filter_eq_self.2 fun e he => decide_eq_true (hold e he)

end Dropped

/-- Tidy memories with the same notes and links have the same keywords, if an identifier means the
same in both. -/
lemma Tidy.mem_keywords_iff {supply : Supply} {all : List Keyword} (hm : Tidy m) (hm' : Tidy m')
    (hnotes : m'.relational.notes = m.relational.notes)
    (hlinks : m'.relational.links = m.relational.links) (hall : Registered supply all)
    (hsubset : m.relational.keywords ⊆ all) (hsubset' : m'.relational.keywords ⊆ all)
    (k : Keyword) : k ∈ m'.relational.keywords ↔ k ∈ m.relational.keywords := by
  have hpoints : ∀ {n kind id}, m'.relational.Points n kind id ↔ m.relational.Points n kind id := by
    intro n kind id
    unfold Relational.Points
    rw [hnotes, hlinks]
  -- a keyword of one of them is referred to there, hence in the other one as well
  constructor
  · intro hk
    obtain ⟨n, kind, hn⟩ := Relational.isReferenced_iff.1 (hm'.referenced k hk)
    obtain ⟨-, -, l, hl, -, hid, -⟩ := hm.consistent.of_points (hpoints.1 hn)
    rw [hall.eq_of_id_eq (hsubset' hk) (hsubset hl) hid.symm]
    exact hl
  · intro hk
    obtain ⟨n, kind, hn⟩ := Relational.isReferenced_iff.1 (hm.referenced k hk)
    obtain ⟨-, -, l, hl, -, hid, -⟩ := hm'.consistent.of_points (hpoints.2 hn)
    rw [hall.eq_of_id_eq (hsubset hk) (hsubset' hl) hid.symm]
    exact hl

/-- Creating and deleting a note leaves both stores as they were. -/
theorem Created.restored (h : Created m note m') (hm : Tidy m) (hm' : Tidy m')
    (hdeleted : Deleted m' note m'') (hm'' : Tidy m'') :
    m''.relational = m.relational ∧ m''.graph = m.graph := by
  obtain ⟨title, linked, hrenewed⟩ := h.exists_renewed
  obtain ⟨dropped, names, hdropped, hcleaned, -⟩ := hdeleted.exists_cleaned
  have hc := hdropped.consistent hm'
  have hp := hdropped.projection hm'
  have hnotes : m''.relational.notes = m.relational.notes :=
    (hcleaned.notes_eq hc).trans (hrenewed.notes_eq_of_dropped h.new hdropped)
  have hlinks : m''.relational.links = m.relational.links :=
    (hcleaned.links_eq hc).trans (hrenewed.links_eq_of_dropped hm h.new hdropped)
  have hedges : m''.graph.edges = m.graph.edges :=
    (hcleaned.edges_eq hc hp).trans (hrenewed.edges_eq_of_dropped hm h.new hdropped)
  -- in both stores, the keywords are what is left of those after the creation
  have hrows : m''.relational.keywords = m'.relational.keywords.filter fun k =>
      !dropped.relational.isUnused note.user names k := by
    rw [hcleaned.rows_eq hc, ← hdropped.keywords_eq]
  have hsubset : m''.relational.keywords ⊆ m'.relational.keywords := by
    rw [hrows]
    exact List.filter_subset_self _
  have hmem := hm.mem_keywords_iff hm'' hnotes hlinks hm'.consistent.registered hrenewed.keeps
    hsubset
  have hkeywords : m''.relational.keywords = m.relational.keywords := by
    rw [hrows]
    refine filter_eq_of_grows hrenewed.grows (.of_map _ hm'.consistent.registered.nodup) ?_
    intro k hk
    rw [← hmem, hrows, List.mem_filter]
    exact ⟨fun hkept => ⟨hk, hkept⟩, And.right⟩
  have hnodes : m''.graph.keywords = m.graph.keywords := by
    have hgrows : m.graph.keywords <+: m'.graph.keywords := (hrenewed.gains hm.projection).grows
    obtain ⟨p, hkept⟩ : ∃ p, m''.graph.keywords = m'.graph.keywords.filter p := by
      rw [hcleaned.graph_eq, hdropped.graph_eq]
      exact ⟨_, rfl⟩
    rw [hkept]
    refine filter_eq_of_grows hgrows hm'.projection.keywords_nodup fun k hk => ?_
    rw [hm.projection.mem_keywords, ← hmem, ← hm''.projection.mem_keywords, hkept, List.mem_filter]
    exact ⟨fun hkept => ⟨hk, hkept⟩, And.right⟩
  constructor
  · rw [Relational.mk.injEq]
    exact ⟨hnotes, hkeywords, hlinks⟩
  · rw [Graph.mk.injEq]
    refine ⟨?_, hnodes, hedges⟩
    rw [hm''.projection.nodes_eq, hm.projection.nodes_eq, hnotes]

/-! ## Calls -/

lemma writable_of_create {request : CreateRequest} {id : Identifier}
    (h : (create direct request).outcome m = (.ok id, m')) : m'.graphReadOnly = false := by
  obtain ⟨title, note, m₁, supply, edges, -, -, -, -, -, -, -, -, -, -, hresync⟩ :=
    exists_of_create h
  exact writable_of_resync hresync

/-- What a deletion right after a creation does. -/
lemma exists_deleted_of_create {request : CreateRequest} {id : Identifier} (hm : Tidy m)
    (h : (create direct request).outcome m = (.ok id, m')) (hfresh : m'.supply.Fresh) :
    ∃ m'', (delete direct id).outcome m' = (.ok (), m'') ∧ m''.relational = m.relational ∧
      m''.graph = m.graph := by
  obtain ⟨note, rfl, -, -, hcreated⟩ := exists_created h hm hfresh
  have hm' := tidy_of_create h hm hfresh
  have hmem : note ∈ m'.relational.notes := (hcreated.mem_notes hm note).2 (Or.inl rfl)
  have hfound : m'.relational.note? note.id = some note :=
    Keyed.find?_key hm'.consistent.notes_nodup hmem
  obtain ⟨m'', hdeletes, -⟩ := exists_outcome_delete hfound (writable_of_create h)
  obtain ⟨other, hid, hdeleted⟩ := exists_deleted hdeletes hm'
  obtain ⟨dropped, names, hdropped, -⟩ := hdeleted.exists_cleaned
  have hsame : other = note := Keyed.eq_of_key_eq hm'.consistent.notes_nodup hdropped.mem hmem hid
  rw [hsame] at hdeleted
  exact ⟨m'', hdeletes, hcreated.restored hm hm' hdeleted (tidy_of_delete hdeletes hm')⟩

/-- After every run from empty stores, deleting a note right after it was created succeeds and
leaves both stores as they were before. -/
theorem restored_run (supply : Supply) (calls : List Call) (request : CreateRequest)
    {id : Identifier} {created : World}
    (hcreated : (service.create request).outcome (run calls (Memory.empty supply)) =
      (.ok id, created))
    (hfresh : created.store.supply.Fresh) :
    ∃ restored, (service.delete id).outcome created = (.ok (), restored) ∧
      restored.store.relational = (run calls (Memory.empty supply)).store.relational ∧
      restored.store.graph = (run calls (Memory.empty supply)).store.graph := by
  have hprecedes := (Change.create request).precedes_call (run calls (Memory.empty supply))
  have hafter : ((Change.create request).call.outcome (run calls (Memory.empty supply))).2 =
      created := congrArg Prod.snd hcreated
  rw [hafter] at hprecedes
  have hm := tidy_run calls (tidy_empty supply) (hprecedes.fresh hfresh)
  have hcreates := (Change.create request).outcome_direct_of_call hcreated
  obtain ⟨m'', hdeletes, hrelational, hgraph⟩ := exists_deleted_of_create hm hcreates hfresh
  obtain ⟨restored, hrestored, rfl⟩ := (Change.delete id).exists_call_of_direct hdeletes
  exact ⟨restored, hrestored, hrelational, hgraph⟩

/-- A request for a note that links to its own title, to a keyword of other notes and to a new
one, each more than once. -/
def repeating : CreateRequest :=
  { user := .ofNat 100, title := some "F", text := some "[[B]] [[F]] [[G]] [[G]] [[F]] [[B]]" }

lemma outcome_repeating : ((service.create repeating).outcome
    (run sharing (Memory.empty counting))).1 = .ok (.ofNat 11) := by
  decide +kernel

lemma fresh_repeating : ((service.create repeating).outcome
    (run sharing (Memory.empty counting))).2.store.supply.Fresh :=
  (Change.create repeating).fresh_of_counting sharing rfl (by decide +kernel)

theorem restored_run_repeating :
    ((service.create repeating).outcome (run sharing (Memory.empty counting))).1 =
        .ok (.ofNat 11) ∧
      ((service.create repeating).outcome
        (run sharing (Memory.empty counting))).2.store.supply.Fresh ∧
      (run sharing (Memory.empty counting)).store.relational.keywords.map (·.name) =
        ["A", "B", "C", "B", "E", "Untitled 1", "E"] ∧
      ∃ restored, (service.delete (.ofNat 11)).outcome ((service.create repeating).outcome
          (run sharing (Memory.empty counting))).2 = (.ok (), restored) ∧
        restored.store.relational = (run sharing (Memory.empty counting)).store.relational ∧
        restored.store.graph = (run sharing (Memory.empty counting)).store.graph := by
  have hfresh := fresh_repeating
  have hresult := outcome_repeating
  -- the world after the creation is named, so that nothing below evaluates it
  generalize hcreated : (service.create repeating).outcome
    (run sharing (Memory.empty counting)) = created at hfresh hresult ⊢
  obtain ⟨result, after⟩ := created
  obtain rfl : result = .ok (.ofNat 11) := hresult
  exact ⟨rfl, hfresh, by decide +kernel,
    restored_run counting sharing repeating hcreated hfresh⟩

end LinkedNotes.Store
