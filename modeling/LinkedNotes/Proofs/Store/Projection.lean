import LinkedNotes.Proofs.Store.Keywords
import LinkedNotes.Store.Graph

/-!
# The graph follows the rows

`Projection` says that the graph holds what the rows call for and nothing else: the nodes of the
notes, the keywords, and an edge for each link and for each title. Writing the edges of a note adds
the keywords they lead to, under the identifiers they have in the rows.
-/

namespace LinkedNotes

/-- The edge of a kind from a note to a keyword. -/
def Edge.of (note : Identifier) (kind : EdgeKind) (keyword : Keyword) : Edge :=
  ⟨note, keyword.id, keyword.name, kind⟩

namespace Store

/-- The note links to the keyword or has it as its title, as an edge of the kind says. -/
def Relational.Points (rows : Relational) (note : Identifier) (kind : EdgeKind)
    (keyword : Identifier) : Prop :=
  match kind with
  | .linksTo => (note, keyword) ∈ rows.links
  | .represents => ∃ n ∈ rows.notes, n.id = note ∧ n.represents = some keyword

/-- The rows call for the edge. -/
def Relational.HasEdge (rows : Relational) (edge : Edge) : Prop :=
  ∃ keyword ∈ rows.keywords, edge = Edge.of edge.note edge.kind keyword ∧
    rows.Points edge.note edge.kind keyword.id

/-- The graph holds what the rows call for and nothing else. -/
structure Projection (rows : Relational) (graph : Graph) : Prop where
  nodes_eq : graph.nodes = rows.notes.map Node.of
  keywords_nodup : graph.keywords.Nodup
  mem_keywords : ∀ k, k ∈ graph.keywords ↔ k ∈ rows.keywords
  edges_nodup : graph.edges.Nodup
  mem_edges : ∀ e, e ∈ graph.edges ↔ rows.HasEdge e

/-- A note is put among the nodes as it is among the rows. -/
lemma Projection.nodes_putNote {rows : Relational} {graph : Graph} (h : Projection rows graph)
    (note : Note) : (graph.putNote note).nodes = (rows.putNote note).notes.map Node.of := by
  show Keyed.put (·.note) (Node.of note) graph.nodes = _
  rw [h.nodes_eq]
  exact (Keyed.map_put Node.of (fun _ => rfl) note rows.notes).symm

/-! ## Writing links -/

/-- The links of a note that are replaced lead to the keywords, in their order. -/
lemma Relational.filter_links_replaceLinks_self {keywords : List Identifier}
    (h : keywords.Nodup) (rows : Relational) (note : Identifier) :
    (rows.replaceLinks note keywords).links.filter (fun link => link.1 = note) =
      keywords.map fun keyword => (note, keyword) := by
  have hnew : (keywords.map fun keyword => (note, keyword)).filter (fun link => link.1 = note) =
      keywords.map fun keyword => (note, keyword) := by
    simp [List.filter_map, Function.comp_def]
  have hold : (rows.unlink note).links.filter (fun link => link.1 = note) = [] := by
    simp [unlink]
  rw [replaceLinks, List.filter_append, hold, Text.distinct_eq_self h, hnew, List.nil_append]

/-- Links of other notes stay when those of a note are replaced. -/
lemma Relational.filter_links_replaceLinks {note other : Identifier} (h : other ≠ note)
    (rows : Relational) (keywords : List Identifier) :
    (rows.replaceLinks note keywords).links.filter (fun link => link.1 = other) =
      rows.links.filter fun link => link.1 = other := by
  have hnew : ((Text.distinct keywords).map fun keyword => (note, keyword)).filter
      (fun link => link.1 = other) = [] := by
    simp [List.filter_map, Function.comp_def, h.symm]
  have hold : (rows.unlink note).links.filter (fun link => link.1 = other) =
      rows.links.filter fun link => link.1 = other := by
    rw [unlink, List.filter_filter]
    refine List.filter_congr fun link _ => ?_
    by_cases hlink : link.1 = other <;> simp [hlink, h]
  rw [replaceLinks, List.filter_append, hnew, hold, List.append_nil]

namespace Graph

/-! ## Writing edges -/

/-- The second graph is the first one with more edges, to the given keywords. -/
structure Gains (keywords : List Keyword) (edges : List Edge) (graph graph' : Graph) : Prop where
  nodes_eq : graph'.nodes = graph.nodes
  edges_eq : graph'.edges = graph.edges ++ edges
  grows : graph.keywords <+: graph'.keywords
  nodup : graph.keywords.Nodup → graph'.keywords.Nodup
  mem_keywords : ∀ k, k ∈ graph'.keywords ↔ k ∈ graph.keywords ∨ k ∈ keywords

namespace Gains

variable {keywords keywords' : List Keyword} {edges edges' : List Edge} {a b c : Graph}

lemma refl (graph : Graph) : Gains [] [] graph graph :=
  ⟨rfl, (List.append_nil _).symm, ⟨[], List.append_nil _⟩, id, fun k => by simp⟩

lemma trans (h : Gains keywords edges a b) (h' : Gains keywords' edges' b c) :
    Gains (keywords ++ keywords') (edges ++ edges') a c where
  nodes_eq := h'.nodes_eq.trans h.nodes_eq
  edges_eq := by rw [h'.edges_eq, h.edges_eq, List.append_assoc]
  grows := h.grows.trans h'.grows
  nodup hnodup := h'.nodup (h.nodup hnodup)
  mem_keywords k := by rw [h'.mem_keywords, h.mem_keywords, List.mem_append, or_assoc]

/-- If the edges are those of a note, other notes have the same ones as before. -/
lemma edgesOf_of_ne {note other : Identifier} (h : Gains keywords edges (a.unlink note) b)
    (hedges : ∀ e ∈ edges, e.note = note) (hne : other ≠ note) :
    b.edgesOf other = a.edgesOf other := by
  have hnew : edges.filter (fun e => e.note = other) = [] := by
    refine List.filter_eq_nil_iff.2 fun e he => ?_
    rw [hedges e he, decide_eq_true_eq]
    exact hne.symm
  rw [edgesOf, h.edges_eq, List.filter_append, hnew, List.append_nil]
  exact edgesOf_unlink_of_ne hne a

/-- If the edges are those of a note that had none, it has these. -/
lemma edgesOf_self {note : Identifier} (h : Gains keywords edges (a.unlink note) b)
    (hedges : ∀ e ∈ edges, e.note = note) : b.edgesOf note = edges := by
  have hnew : edges.filter (fun e => e.note = note) = edges :=
    List.filter_eq_self.2 fun e he => decide_eq_true (hedges e he)
  rw [edgesOf, h.edges_eq, List.filter_append, hnew]
  exact congrArg (· ++ edges) (edgesOf_unlink a note)

/-- If the keywords were there already, nothing but the edges is new. -/
lemma eq_of_subset (h : Gains keywords edges a b) (hnodup : a.keywords.Nodup)
    (hkeywords : keywords ⊆ a.keywords) : b = { a with edges := a.edges ++ edges } := by
  have hsubset : b.keywords ⊆ a.keywords :=
    fun k hk => ((h.mem_keywords k).1 hk).elim id (hkeywords ·)
  have hlength : b.keywords.length ≤ a.keywords.length :=
    ((h.nodup hnodup).subperm hsubset).length_le
  rw [mk.injEq]
  exact ⟨h.nodes_eq, (h.grows.eq_of_length_le hlength).symm, h.edges_eq⟩

end Gains

variable {supply : Supply} {rows : List Keyword} (hrows : Registered supply rows)

include hrows

/-- A registered keyword is found in the graph as itself, or added. -/
lemma ensureKeyword_spec {graph : Graph} {keyword : Keyword} (hgraph : graph.keywords ⊆ rows)
    (hmem : keyword ∈ rows) :
    (graph.ensureKeyword keyword).1 = keyword ∧
      Gains [keyword] [] graph (graph.ensureKeyword keyword).2 := by
  unfold ensureKeyword
  split
  · next existing hfind =>
    have hexisting := List.mem_of_find?_eq_some hfind
    have hsame := List.find?_some hfind
    rw [Bool.and_eq_true, decide_eq_true_eq, decide_eq_true_eq] at hsame
    have heq : existing = keyword :=
      hrows.unique existing (hgraph hexisting) keyword hmem hsame.1 hsame.2
    subst heq
    -- nothing is added: the keyword was there
    refine ⟨rfl, rfl, (List.append_nil _).symm, ⟨[], List.append_nil _⟩, id, fun k => ?_⟩
    rw [List.mem_singleton]
    exact ⟨Or.inl, fun h => h.elim id fun heq => heq ▸ hexisting⟩
  · next hfind =>
    -- a keyword with the identifier would be this one, and would have been found
    have hnew : keyword ∉ graph.keywords := by
      intro h
      have hne := List.find?_eq_none.1 hfind keyword h
      simp at hne
    -- so putting it adds it at the end
    have hids : ∀ k ∈ graph.keywords, k.id ≠ keyword.id := by
      intro k hk heq
      rw [hrows.eq_of_id_eq (hgraph hk) hmem heq] at hk
      exact hnew hk
    have hput : Keyed.put (·.id) keyword graph.keywords = graph.keywords ++ [keyword] :=
      Keyed.put_of_forall_ne hids
    refine ⟨rfl, rfl, (List.append_nil _).symm, ⟨[keyword], hput.symm⟩, fun hnodup => ?_,
      fun k => ?_⟩
    · show (Keyed.put (·.id) keyword graph.keywords).Nodup
      rw [hput]
      exact List.nodup_append.2 ⟨hnodup, by simp, fun a ha b hb heq => by
        rw [heq, List.mem_singleton.1 hb] at ha
        exact hnew ha⟩
    · show k ∈ Keyed.put (·.id) keyword graph.keywords ↔ _
      rw [hput, List.mem_append]

/-- An edge leads to the keyword under its registered identifier. -/
lemma connect_spec {graph : Graph} {keyword : Keyword} (note : Identifier) (kind : EdgeKind)
    (hgraph : graph.keywords ⊆ rows) (hmem : keyword ∈ rows) :
    Gains [keyword] [Edge.of note kind keyword] graph (connect note kind graph keyword) := by
  obtain ⟨hkeyword, hgains⟩ := ensureKeyword_spec hrows hgraph hmem
  refine ⟨hgains.nodes_eq, ?_, hgains.grows, hgains.nodup, hgains.mem_keywords⟩
  show (graph.ensureKeyword keyword).2.edges ++ _ = _
  rw [hgains.edges_eq, hkeyword, List.append_nil]
  rfl

lemma foldl_connect_spec {graph : Graph} (keywords : List Keyword) (note : Identifier)
    (kind : EdgeKind) (hgraph : graph.keywords ⊆ rows) (hmem : keywords ⊆ rows) :
    Gains keywords (keywords.map (Edge.of note kind)) graph
      (keywords.foldl (connect note kind) graph) := by
  induction keywords generalizing graph with
  | nil => exact .refl graph
  | cons keyword rest ih =>
    have hfirst := connect_spec hrows note kind hgraph (hmem List.mem_cons_self)
    -- what was added is registered too, so the rest finds its keywords as well
    have hrest : (connect note kind graph keyword).keywords ⊆ rows := by
      intro k hk
      rcases (hfirst.mem_keywords k).1 hk with hk | hk
      · exact hgraph hk
      · rw [List.mem_singleton.1 hk]
        exact hmem List.mem_cons_self
    exact hfirst.trans (ih hrest fun k hk => hmem (List.mem_cons_of_mem _ hk))

/-- The edges of a note are replaced by those to the keywords it links to and to the one it
represents, if there is one. -/
theorem gains_replaceEdges {graph : Graph} {linked : List Keyword} {represents : Option Keyword}
    (note : Identifier) (hgraph : graph.keywords ⊆ rows) (hlinked : linked ⊆ rows)
    (hrepresents : represents.toList ⊆ rows) :
    Gains (linked ++ represents.toList)
      (linked.map (Edge.of note .linksTo) ++ represents.toList.map (Edge.of note .represents))
      (graph.unlink note) (graph.replaceEdges note linked represents) := by
  have hunlinked : (graph.unlink note).keywords ⊆ rows := hgraph
  have hfirst := foldl_connect_spec hrows linked note .linksTo hunlinked hlinked
  refine hfirst.trans (foldl_connect_spec hrows _ note .represents ?_ hrepresents)
  intro k hk
  rcases (hfirst.mem_keywords k).1 hk with hk | hk
  · exact hgraph hk
  · exact hlinked hk

/-- The edges of a note with a title are replaced by those to the keywords it links to and to its
title. -/
theorem replaceEdges_spec {graph : Graph} {linked : List Keyword} {title : Keyword}
    (note : Identifier) (hgraph : graph.keywords ⊆ rows) (hlinked : linked ⊆ rows)
    (htitle : title ∈ rows) :
    Gains (linked ++ [title])
      (linked.map (Edge.of note .linksTo) ++ [Edge.of note .represents title])
      (graph.unlink note) (graph.replaceEdges note linked (some title)) := by
  have hrepresents : (some title).toList ⊆ rows := List.cons_subset.2 ⟨htitle, List.nil_subset _⟩
  exact gains_replaceEdges hrows note hgraph hlinked hrepresents

end Graph

end Store

end LinkedNotes
