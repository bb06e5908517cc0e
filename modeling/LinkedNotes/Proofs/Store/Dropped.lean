import LinkedNotes.Proofs.Store.Tidy

/-!
# Dropping a note

A note that is deleted takes its links and edges along. What may be left over are the keywords that
it linked to and the one of its title (`Dropped.spares`).
-/

namespace LinkedNotes.Store

/-- From one memory to the other, the note was dropped from rows and graph. -/
structure Dropped (m : Memory) (note : Note) (m' : Memory) : Prop where
  mem : note ∈ m.relational.notes
  relational_eq : m'.relational = m.relational.deleteNote note.id
  graph_eq : m'.graph = m.graph.deleteNote note.id
  supply_eq : m'.supply = m.supply

/-- The linked names of a note are those of the keywords it links to. -/
lemma Relational.mem_linkedNames {rows : Relational} {supply : Supply} {note : Identifier}
    {k : Keyword} (hrows : Registered supply rows.keywords) (hk : k ∈ rows.keywords)
    (hlink : (note, k.id) ∈ rows.links) : k.name ∈ rows.linkedNames note := by
  have hfind : Keyed.find? (fun l : Keyword => l.id) k.id rows.keywords = some k :=
    Keyed.find?_key hrows.nodup hk
  refine (Text.perm_sorted _).mem_iff.2 (List.mem_filterMap.2 ⟨(note, k.id), ?_, ?_⟩)
  · exact List.mem_filter.2 ⟨hlink, decide_eq_true rfl⟩
  · rw [hfind]
    rfl

/-- It is all the same whether the node of a note goes before or after some keywords. -/
lemma Graph.deleteNote_deleteKeywords (graph : Graph) (note user : Identifier)
    (names : List String) : (graph.deleteKeywords user names).deleteNote note =
      (graph.deleteNote note).deleteKeywords user names := by
  unfold Graph.deleteNote Graph.unlink Graph.deleteKeywords
  rw [Graph.mk.injEq]
  exact ⟨rfl, rfl, List.filter_comm _ _ _⟩

namespace Dropped

variable {m m' : Memory} {note : Note} (h : Dropped m note m') (hm : Tidy m)

include h

lemma keywords_eq : m'.relational.keywords = m.relational.keywords := by rw [h.relational_eq]; rfl

lemma mem_notes (n : Note) : n ∈ m'.relational.notes ↔
    n ∈ m.relational.notes ∧ n.id ≠ note.id := by
  rw [h.relational_eq]
  exact Keyed.mem_erase

lemma mem_links (link : Identifier × Identifier) : link ∈ m'.relational.links ↔
    link ∈ m.relational.links ∧ link.1 ≠ note.id := by
  rw [h.relational_eq]
  exact Relational.mem_links_unlink

/-- The other notes point to what they pointed to. -/
lemma points_iff {n id : Identifier} {kind : EdgeKind} :
    m'.relational.Points n kind id ↔ m.relational.Points n kind id ∧ n ≠ note.id := by
  cases kind with
  | linksTo => exact h.mem_links (n, id)
  | represents =>
    constructor
    · intro hpoints
      rcases hpoints with ⟨other, hother, hid, hrepresents⟩
      obtain ⟨hother, hne⟩ := (h.mem_notes other).1 hother
      exact ⟨⟨other, hother, hid, hrepresents⟩, hid ▸ hne⟩
    · intro hpoints
      rcases hpoints with ⟨⟨other, hother, hid, hrepresents⟩, hne⟩
      have hother := (h.mem_notes other).2 ⟨hother, fun heq => hne (hid.symm.trans heq)⟩
      exact ⟨other, hother, hid, hrepresents⟩

include hm

lemma settles : ∀ n ∈ m'.relational.notes, m'.relational.Settles n := by
  intro n hn
  obtain ⟨hn, -⟩ := (h.mem_notes n).1 hn
  obtain ⟨hrecorded, k, hk, hrest⟩ := hm.consistent.settles n hn
  rw [← h.keywords_eq] at hk
  exact ⟨hrecorded, k, hk, hrest⟩

lemma refers : ∀ link ∈ m'.relational.links, m'.relational.Refers link := by
  intro link hlink
  obtain ⟨hlink, hother⟩ := (h.mem_links link).1 hlink
  obtain ⟨n, hn, k, hk, hsource, hrest⟩ := hm.consistent.refers link hlink
  rw [← h.keywords_eq] at hk
  rw [← hsource] at hother
  exact ⟨n, (h.mem_notes n).2 ⟨hn, hother⟩, k, hk, hsource, hrest⟩

theorem consistent : m'.relational.Consistent m'.supply where
  registered := by
    rw [h.keywords_eq, h.supply_eq]
    exact hm.consistent.registered
  notes_nodup := by
    rw [h.relational_eq]
    exact hm.consistent.notes_nodup.sublist (List.filter_sublist.map _)
  notes_drawn := by
    intro n hn
    rw [h.supply_eq]
    exact hm.consistent.notes_drawn n ((h.mem_notes n).1 hn).1
  settles := h.settles hm
  links_nodup := by
    rw [h.relational_eq]
    exact hm.consistent.links_nodup.filter _
  refers := h.refers hm

theorem projection : Projection m'.relational m'.graph := by
  have hp := hm.projection
  rw [h.graph_eq]
  constructor
  · show Keyed.erase (·.note) note.id m.graph.nodes = _
    rw [hp.nodes_eq, h.relational_eq]
    exact (Keyed.map_erase Node.of (fun _ => rfl) note.id m.relational.notes).symm
  · exact hp.keywords_nodup
  · rw [h.keywords_eq]
    exact hp.mem_keywords
  · exact hp.edges_nodup.filter _
  · intro e
    show e ∈ m.graph.edges.filter _ ↔ _
    rw [List.mem_filter, decide_eq_true_eq, hp.mem_edges]
    unfold Relational.HasEdge
    simp only [h.keywords_eq, h.points_iff]
    constructor
    · intro hedge
      rcases hedge with ⟨⟨k, hk, heq, hpoints⟩, hother⟩
      exact ⟨k, hk, heq, hpoints, hother⟩
    · intro hedge
      rcases hedge with ⟨k, hk, heq, hpoints, hother⟩
      exact ⟨⟨k, hk, heq, hpoints⟩, hother⟩

/-- What is left over is what only the note referred to. -/
theorem spares : m'.relational.Spares note.user
    (Reference.names (m.relational.linkedNames note.id) note.represents note.title) := by
  intro k hk hunreferenced
  have hc := hm.consistent
  rw [h.keywords_eq] at hk
  rw [← Bool.not_eq_true, Relational.isReferenced_iff] at hunreferenced
  obtain ⟨n, kind, hpoints⟩ := Relational.isReferenced_iff.1 (hm.referenced k hk)
  have hself : n = note.id := by
    by_contra hne
    exact hunreferenced ⟨n, kind, h.points_iff.2 ⟨hpoints, hne⟩⟩
  subst hself
  obtain ⟨owner, howner, l, hl, hid, hsame, huser, -⟩ := hc.of_points hpoints
  rw [Keyed.eq_of_key_eq hc.notes_nodup howner h.mem hid,
    hc.registered.eq_of_id_eq hl hk hsame] at huser
  refine ⟨huser, Reference.mem_names.2 ?_⟩
  -- the note linked to the keyword or had it as its title
  cases kind with
  | linksTo => exact Or.inl (Relational.mem_linkedNames hc.registered hk hpoints)
  | represents =>
    obtain ⟨other, hother, hid', hrepresents⟩ := hpoints
    rw [Keyed.eq_of_key_eq hc.notes_nodup hother h.mem hid'] at hrepresents
    obtain ⟨-, t, ht, htitle, -, hname⟩ := hc.settles note h.mem
    have hids : k.id = t.id := Option.some.inj (hrepresents.symm.trans htitle)
    rw [hrepresents, hc.registered.eq_of_id_eq hk ht hids]
    exact Or.inr ⟨rfl, hname⟩

end Dropped

end LinkedNotes.Store
