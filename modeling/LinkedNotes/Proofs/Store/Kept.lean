import LinkedNotes.Proofs.Store.Tidy

/-!
# Writing a note whose links stay

A note that is changed without a resync gets a new row and a new node, while its links and edges
stay. As long as its title stays and its text still names the keywords that it links to, a tidy
memory stays tidy (`Kept.tidy`).
-/

namespace LinkedNotes.Store

/-- From one memory to the other, the note took the place of its previous state, with all links
kept. -/
structure Kept (m : Memory) (previous note : Note) (m' : Memory) : Prop where
  mem : previous ∈ m.relational.notes
  relational_eq : m'.relational = m.relational.putNote note
  graph_eq : m'.graph = m.graph.putNote note
  precedes : m.supply.Precedes m'.supply
  id_eq : note.id = previous.id
  user_eq : note.user = previous.user
  title_eq : note.title = previous.title
  represents_eq : note.represents = previous.represents
  targets_subset : Wikilink.targets previous.body ⊆ Wikilink.targets note.body
  recorded : note.links = Wikilink.intervals note.body

namespace Kept

variable {m m' : Memory} {previous note : Note} (h : Kept m previous note m') (hm : Tidy m)

include h

lemma keywords_eq : m'.relational.keywords = m.relational.keywords := by rw [h.relational_eq]; rfl

lemma links_eq : m'.relational.links = m.relational.links := by rw [h.relational_eq]; rfl

include hm

lemma mem_notes (n : Note) : n ∈ m'.relational.notes ↔
    n = note ∨ (n ∈ m.relational.notes ∧ n.id ≠ note.id) := by
  rw [h.relational_eq]
  exact Keyed.mem_put hm.consistent.notes_nodup

/-- Each note is still there, or it is the previous state. -/
lemma eq_or_mem {n : Note} (hn : n ∈ m.relational.notes) :
    n = previous ∨ n ∈ m'.relational.notes := by
  by_cases hid : n.id = note.id
  · exact Or.inl (Keyed.eq_of_key_eq hm.consistent.notes_nodup hn h.mem (hid.trans h.id_eq))
  · exact Or.inr ((h.mem_notes hm n).2 (Or.inr ⟨hn, hid⟩))

/-- All notes point to what they pointed to. -/
lemma points_iff {n id : Identifier} {kind : EdgeKind} :
    m'.relational.Points n kind id ↔ m.relational.Points n kind id := by
  cases kind with
  | linksTo =>
    show (n, id) ∈ m'.relational.links ↔ _
    rw [h.links_eq]
    rfl
  | represents =>
    constructor
    · intro hpoints
      rcases hpoints with ⟨other, hother, hid, hrepresents⟩
      rcases (h.mem_notes hm other).1 hother with rfl | ⟨hother, -⟩
      · exact ⟨previous, h.mem, h.id_eq.symm.trans hid, h.represents_eq.symm.trans hrepresents⟩
      · exact ⟨other, hother, hid, hrepresents⟩
    · intro hpoints
      rcases hpoints with ⟨other, hother, hid, hrepresents⟩
      rcases h.eq_or_mem hm hother with rfl | hother
      · exact ⟨note, (h.mem_notes hm note).2 (Or.inl rfl), h.id_eq.trans hid,
          h.represents_eq.trans hrepresents⟩
      · exact ⟨other, hother, hid, hrepresents⟩

lemma settles : ∀ n ∈ m'.relational.notes, m'.relational.Settles n := by
  intro n hn
  rcases (h.mem_notes hm n).1 hn with rfl | ⟨hn, -⟩
  · obtain ⟨-, k, hk, hrepresents, huser, hname⟩ := hm.consistent.settles previous h.mem
    rw [← h.keywords_eq] at hk
    exact ⟨h.recorded, k, hk, h.represents_eq.trans hrepresents, huser.trans h.user_eq.symm,
      hname.trans h.title_eq.symm⟩
  · obtain ⟨hrecorded, k, hk, hrest⟩ := hm.consistent.settles n hn
    rw [← h.keywords_eq] at hk
    exact ⟨hrecorded, k, hk, hrest⟩

/-- The new text still names what the note links to. -/
lemma refers : ∀ link ∈ m'.relational.links, m'.relational.Refers link := by
  intro link hlink
  rw [h.links_eq] at hlink
  obtain ⟨n, hn, k, hk, hsource, htarget, huser, hname⟩ := hm.consistent.refers link hlink
  rw [← h.keywords_eq] at hk
  -- a link of the note itself leads to a name of its previous text
  rcases h.eq_or_mem hm hn with rfl | hn
  · exact ⟨note, (h.mem_notes hm note).2 (Or.inl rfl), k, hk, h.id_eq.trans hsource, htarget,
      huser.trans h.user_eq.symm, h.targets_subset hname⟩
  · exact ⟨n, hn, k, hk, hsource, htarget, huser, hname⟩

lemma consistent : m'.relational.Consistent m'.supply where
  registered := by
    rw [h.keywords_eq]
    exact hm.consistent.registered.mono h.precedes
  notes_nodup := by
    rw [h.relational_eq]
    exact Keyed.nodup_put hm.consistent.notes_nodup note
  notes_drawn := by
    intro n hn
    rcases (h.mem_notes hm n).1 hn with rfl | ⟨hn, -⟩
    · rw [h.id_eq]
      exact h.precedes.drawn (hm.consistent.notes_drawn previous h.mem)
    · exact h.precedes.drawn (hm.consistent.notes_drawn n hn)
  settles := h.settles hm
  links_nodup := by
    rw [h.links_eq]
    exact hm.consistent.links_nodup
  refers := h.refers hm

lemma projection : Projection m'.relational m'.graph := by
  have hp := hm.projection
  rw [h.graph_eq]
  constructor
  · rw [h.relational_eq]
    exact hp.nodes_putNote note
  · exact hp.keywords_nodup
  · rw [h.keywords_eq]
    exact hp.mem_keywords
  · exact hp.edges_nodup
  · intro e
    show e ∈ m.graph.edges ↔ _
    rw [hp.mem_edges]
    unfold Relational.HasEdge
    simp only [h.keywords_eq, h.points_iff hm]

/-- A tidy memory stays tidy. -/
theorem tidy : Tidy m' := by
  refine ⟨h.consistent hm, h.projection hm, fun k hk => ?_⟩
  rw [h.keywords_eq] at hk
  obtain ⟨n, kind, hpoints⟩ := Relational.isReferenced_iff.1 (hm.referenced k hk)
  exact Relational.isReferenced_iff.2 ⟨n, kind, (h.points_iff hm).2 hpoints⟩

end Kept

end LinkedNotes.Store
