import LinkedNotes.Proofs.Store.Tidy
import LinkedNotes.Service.Operation

/-!
# Writing a note anew

A note that is created, or changed with a resync, is written into the rows and the graph together
with everything it refers to (`Renewed`). Rows and graph are in order after that. What may be left
over are keywords that the note referred to before and no longer does.
-/

namespace LinkedNotes.Store

/-- From one memory to the other, the note was written with links to the keywords and with its
title. Keywords that were missing have been added. -/
structure Renewed (m : Memory) (note : Note) (title : Keyword) (linked : List Keyword)
    (m' : Memory) : Prop where
  notes_eq : m'.relational.notes = (m.relational.putNote note).notes
  links_eq : m'.relational.links = (m.relational.replaceLinks note.id (linked.map (·.id))).links
  graph_eq : m'.graph = (m.graph.putNote note).replaceEdges note.id linked (some title)
  precedes : m.supply.Precedes m'.supply
  registered : Registered m'.supply m'.relational.keywords
  grows : m.relational.keywords <+: m'.relational.keywords
  mem_keywords : ∀ k, k ∈ m'.relational.keywords ↔
    k ∈ m.relational.keywords ∨ k ∈ linked ∨ k = title
  user_eq : ∀ k ∈ linked, k.user = note.user
  names_eq : linked.map (·.name) = Wikilink.targets note.body
  title_user : title.user = note.user
  title_name : title.name = note.title
  represents_eq : note.represents = some title.id
  recorded : note.links = Wikilink.intervals note.body
  drawn : m'.supply.Drawn note.id

namespace Renewed

variable {m m' : Memory} {note : Note} {title : Keyword} {linked : List Keyword}

/-- The edges that are written lead from the note. -/
lemma note_eq_of_mem {id : Identifier} {e : Edge}
    (he : e ∈ linked.map (Edge.of id .linksTo) ++ [Edge.of id .represents title]) :
    e.note = id := by
  rw [List.mem_append, List.mem_singleton, List.mem_map] at he
  rcases he with ⟨k, -, rfl⟩ | rfl
  · rfl
  · rfl

/-- So none of them is left without those of the note. -/
lemma filter_ne_eq_nil (id : Identifier) :
    (linked.map (Edge.of id .linksTo) ++ [Edge.of id .represents title]).filter
      (fun e => e.note ≠ id) = [] := by
  refine List.filter_eq_nil_iff.2 fun e he => ?_
  rw [note_eq_of_mem he]
  simp

section Names

variable (h : Renewed m note title linked m')

include h

lemma title_mem : title ∈ m'.relational.keywords :=
  (h.mem_keywords title).2 (Or.inr (Or.inr rfl))

lemma linked_subset : linked ⊆ m'.relational.keywords :=
  fun k hk => (h.mem_keywords k).2 (Or.inr (Or.inl hk))

lemma keeps : m.relational.keywords ⊆ m'.relational.keywords := h.grows.subset

/-- The keywords are those of the user that the text names. -/
lemma mem_linked {k : Keyword} (hk : k ∈ m'.relational.keywords) :
    k ∈ linked ↔ k.user = note.user ∧ k.name ∈ Wikilink.targets note.body := by
  rw [← h.names_eq]
  constructor
  · intro hlinked
    exact ⟨h.user_eq k hlinked, List.mem_map_of_mem hlinked⟩
  · intro hnamed
    rcases hnamed with ⟨huser, hname⟩
    obtain ⟨l, hl, hsame⟩ := List.mem_map.1 hname
    have huser' := h.user_eq l hl
    rw [h.registered.unique k hk l (h.linked_subset hl) (huser.trans huser'.symm) hsame.symm]
    exact hl

lemma linked_nodup : linked.Nodup := by
  have hnames : (linked.map (·.name)).Nodup := by
    rw [h.names_eq]
    exact Text.nodup_distinct _
  exact .of_map _ hnames

/-- The keyword of the title is the one of the user with the name. -/
lemma eq_title {k : Keyword} (hk : k ∈ m'.relational.keywords) (huser : k.user = note.user)
    (hname : k.name = note.title) : k = title :=
  h.registered.unique k hk title h.title_mem (huser.trans h.title_user.symm)
    (hname.trans h.title_name.symm)

/-- The new links are those to the keywords. -/
lemma mem_links (link : Identifier × Identifier) : link ∈ m'.relational.links ↔
    (link ∈ m.relational.links ∧ link.1 ≠ note.id) ∨
      (link.1 = note.id ∧ ∃ k ∈ linked, k.id = link.2) := by
  rw [h.links_eq, Relational.mem_links_replaceLinks, List.mem_map]

/-- A keyword is linked to if it is one of the keywords. -/
lemma mem_links_note {k : Keyword} (hk : k ∈ m'.relational.keywords) :
    (note.id, k.id) ∈ m'.relational.links ↔ k ∈ linked := by
  rw [h.mem_links]
  constructor
  · intro hlink
    rcases hlink with ⟨-, hne⟩ | ⟨-, l, hl, hid⟩
    · exact absurd rfl hne
    · rw [← h.registered.eq_of_id_eq (h.linked_subset hl) hk hid]
      exact hl
  · intro hlinked
    exact Or.inr ⟨rfl, k, hlinked, rfl⟩

lemma nodup_edges : (linked.map (Edge.of note.id .linksTo) ++
    [Edge.of note.id .represents title]).Nodup := by
  refine List.nodup_append.2 ⟨?_, by simp, ?_⟩
  · refine List.Nodup.map_on (fun k hk l hl heq => ?_) h.linked_nodup
    exact h.registered.eq_of_id_eq (h.linked_subset hk) (h.linked_subset hl)
      (congrArg Edge.keyword heq)
  · intro a ha b hb heq
    obtain ⟨k, -, rfl⟩ := List.mem_map.1 ha
    rw [List.mem_singleton.1 hb] at heq
    exact EdgeKind.noConfusion (congrArg Edge.kind heq)

end Names

section Order

variable (h : Renewed m note title linked m') (hc : m.relational.Consistent m.supply)

include h hc

lemma mem_notes (n : Note) : n ∈ m'.relational.notes ↔
    n = note ∨ (n ∈ m.relational.notes ∧ n.id ≠ note.id) := by
  rw [h.notes_eq]
  exact Keyed.mem_put hc.notes_nodup

/-- The note has its title and its links recorded, and the other notes still have. -/
lemma settles : ∀ n ∈ m'.relational.notes, m'.relational.Settles n := by
  intro n hn
  rcases (h.mem_notes hc n).1 hn with rfl | ⟨hn, -⟩
  · exact ⟨h.recorded, title, h.title_mem, h.represents_eq, h.title_user, h.title_name⟩
  · obtain ⟨hrecorded, k, hk, hrepresents⟩ := hc.settles n hn
    exact ⟨hrecorded, k, h.keeps hk, hrepresents⟩

/-- The new links lead to keywords that the text names, and the other links still do. -/
lemma refers : ∀ link ∈ m'.relational.links, m'.relational.Refers link := by
  -- a link of another note still has its note and keyword, and a new one leads to a keyword that
  -- was asked for
  intro link hlink
  rcases (h.mem_links link).1 hlink with ⟨hlink, hother⟩ | ⟨hnote, k, hk, hid⟩
  · obtain ⟨n, hn, k, hk, hsource, hrest⟩ := hc.refers link hlink
    have hne : n.id ≠ note.id := by
      rw [hsource]
      exact hother
    exact ⟨n, (h.mem_notes hc n).2 (Or.inr ⟨hn, hne⟩), k, h.keeps hk, hsource, hrest⟩
  · have hkeyword := h.linked_subset hk
    obtain ⟨huser, hname⟩ := (h.mem_linked hkeyword).1 hk
    exact ⟨note, (h.mem_notes hc note).2 (Or.inl rfl), k, hkeyword, hnote.symm, hid, huser, hname⟩

lemma links_nodup : m'.relational.links.Nodup := by
  rw [h.links_eq]
  refine List.nodup_append.2 ⟨hc.links_nodup.filter _, ?_, ?_⟩
  · refine (Text.nodup_distinct _).map fun a b heq => ?_
    exact congrArg Prod.snd heq
  · intro a ha b hb heq
    obtain ⟨id, -, rfl⟩ := List.mem_map.1 hb
    have hother := (Relational.mem_links_unlink.1 ha).2
    rw [heq] at hother
    exact hother rfl

theorem consistent : m'.relational.Consistent m'.supply where
  registered := h.registered
  notes_nodup := by
    rw [h.notes_eq]
    exact Keyed.nodup_put hc.notes_nodup note
  notes_drawn := by
    intro n hn
    rcases (h.mem_notes hc n).1 hn with rfl | ⟨hn, -⟩
    · exact h.drawn
    · exact h.precedes.drawn (hc.notes_drawn n hn)
  settles := h.settles hc
  links_nodup := h.links_nodup hc
  refers := h.refers hc

/-! ### Edges -/

/-- Other notes point to what they pointed to. -/
lemma points_of_ne {n id : Identifier} {kind : EdgeKind} (hne : n ≠ note.id) :
    m'.relational.Points n kind id ↔ m.relational.Points n kind id := by
  cases kind with
  | linksTo =>
    show (n, id) ∈ m'.relational.links ↔ (n, id) ∈ m.relational.links
    rw [h.mem_links]
    constructor
    · intro hlink
      rcases hlink with ⟨hlink, -⟩ | ⟨heq, -⟩
      · exact hlink
      · exact absurd heq hne
    · intro hlink
      exact Or.inl ⟨hlink, hne⟩
  | represents =>
    refine exists_congr fun other => ?_
    rw [h.mem_notes hc]
    constructor
    · intro hnote
      rcases hnote with ⟨rfl | ⟨hother, -⟩, hid, hrepresents⟩
      · exact absurd hid.symm hne
      · exact ⟨hother, hid, hrepresents⟩
    · intro hnote
      rcases hnote with ⟨hother, hid, hrepresents⟩
      exact ⟨Or.inr ⟨hother, fun heq => hne (hid.symm.trans heq)⟩, hid, hrepresents⟩

/-- The note points to the keywords and to its title. -/
lemma points_self {k : Keyword} {kind : EdgeKind} (hk : k ∈ m'.relational.keywords) :
    m'.relational.Points note.id kind k.id ↔
      (kind = .linksTo ∧ k ∈ linked) ∨ (kind = .represents ∧ k = title) := by
  cases kind with
  | linksTo =>
    show (note.id, k.id) ∈ m'.relational.links ↔ _
    rw [h.mem_links_note hk]
    simp
  | represents =>
    have hself : m'.relational.Points note.id .represents k.id ↔ k = title := by
      constructor
      · intro hpoints
        rcases hpoints with ⟨other, hother, hid, hrepresents⟩
        rcases (h.mem_notes hc other).1 hother with rfl | ⟨-, hne⟩
        · have hsame := Option.some.inj (hrepresents.symm.trans h.represents_eq)
          exact h.registered.eq_of_id_eq hk h.title_mem hsame
        · exact absurd hid hne
      · rintro rfl
        exact ⟨note, (h.mem_notes hc note).2 (Or.inl rfl), rfl, h.represents_eq⟩
    rw [hself]
    simp

/-- The rows call for the edges of other notes as before. -/
lemma hasEdge_of_ne {e : Edge} (hne : e.note ≠ note.id) :
    m'.relational.HasEdge e ↔ m.relational.HasEdge e := by
  constructor
  · intro hedge
    rcases hedge with ⟨k, hk, heq, hpoints⟩
    rw [h.points_of_ne hc hne] at hpoints
    -- what other notes point to was a keyword before
    obtain ⟨n, hn, l, hl, -, hid, -⟩ := hc.of_points hpoints
    have hsame := h.registered.eq_of_id_eq (h.keeps hl) hk hid
    rw [hsame] at hl
    exact ⟨k, hl, heq, hpoints⟩
  · intro hedge
    rcases hedge with ⟨k, hk, heq, hpoints⟩
    exact ⟨k, h.keeps hk, heq, (h.points_of_ne hc hne).2 hpoints⟩

/-- The rows call for the edges of the note that are written. -/
lemma hasEdge_of_eq {e : Edge} (heq : e.note = note.id) : m'.relational.HasEdge e ↔
    e ∈ linked.map (Edge.of note.id .linksTo) ++ [Edge.of note.id .represents title] := by
  rw [List.mem_append, List.mem_singleton, List.mem_map]
  constructor
  · intro hedge
    rcases hedge with ⟨k, hk, hedge, hpoints⟩
    rw [heq, h.points_self hc hk] at hpoints
    rcases hpoints with ⟨hkind, hlinked⟩ | ⟨hkind, rfl⟩
    · rw [heq, hkind] at hedge
      exact Or.inl ⟨k, hlinked, hedge.symm⟩
    · rw [heq, hkind] at hedge
      exact Or.inr hedge
  · intro hedge
    rcases hedge with ⟨k, hlinked, rfl⟩ | rfl
    · have hk := h.linked_subset hlinked
      exact ⟨k, hk, rfl, (h.points_self hc hk).2 (Or.inl ⟨rfl, hlinked⟩)⟩
    · exact ⟨title, h.title_mem, rfl, (h.points_self hc h.title_mem).2 (Or.inr ⟨rfl, rfl⟩)⟩

/-- The rows call for the edges that are left of the old ones and for those that are written. -/
lemma hasEdge_iff (e : Edge) : m'.relational.HasEdge e ↔
    (m.relational.HasEdge e ∧ e.note ≠ note.id) ∨
      e ∈ linked.map (Edge.of note.id .linksTo) ++ [Edge.of note.id .represents title] := by
  -- the edges of the note are all new, those of other notes are all old
  by_cases heq : e.note = note.id
  · rw [h.hasEdge_of_eq hc heq]
    exact ⟨Or.inr, fun he => he.resolve_left fun hold => hold.2 heq⟩
  · rw [h.hasEdge_of_ne hc heq]
    refine ⟨fun hold => Or.inl ⟨hold, heq⟩, fun he => he.elim And.left fun hnew => ?_⟩
    exact absurd (note_eq_of_mem hnew) heq

omit hc in
/-- The graph gains the edges that are written, in the place of the old ones of the note. -/
lemma gains (hp : Projection m.relational m.graph) :
    Graph.Gains (linked ++ [title])
      (linked.map (Edge.of note.id .linksTo) ++ [Edge.of note.id .represents title])
      ((m.graph.putNote note).unlink note.id) m'.graph := by
  have hgraph : (m.graph.putNote note).keywords ⊆ m'.relational.keywords :=
    fun k hk => h.keeps ((hp.mem_keywords k).1 hk)
  rw [h.graph_eq]
  exact Graph.replaceEdges_spec h.registered note.id hgraph h.linked_subset h.title_mem

/-- The graph follows the rows again. -/
theorem projection (hp : Projection m.relational m.graph) :
    Projection m'.relational m'.graph := by
  have hgains := h.gains hp
  constructor
  · rw [hgains.nodes_eq, h.notes_eq]
    exact hp.nodes_putNote note
  · exact hgains.nodup hp.keywords_nodup
  · intro k
    rw [hgains.mem_keywords, h.mem_keywords, ← hp.mem_keywords, List.mem_append,
      List.mem_singleton]
    rfl
  · rw [hgains.edges_eq]
    refine List.nodup_append.2 ⟨hp.edges_nodup.filter _, h.nodup_edges, ?_⟩
    intro a ha b hb heq
    have hother : a.note ≠ note.id := of_decide_eq_true (List.mem_filter.1 ha).2
    exact hother ((congrArg Edge.note heq).trans (note_eq_of_mem hb))
  · intro e
    have hunlinked : e ∈ ((m.graph.putNote note).unlink note.id).edges ↔
        e ∈ m.graph.edges ∧ e.note ≠ note.id := by
      show e ∈ m.graph.edges.filter _ ↔ _
      rw [List.mem_filter, decide_eq_true_eq]
    rw [hgains.edges_eq, List.mem_append, hunlinked, hp.mem_edges, h.hasEdge_iff hc]

/-- A keyword that no note refers to any more is one that the note referred to before. -/
theorem of_unreferenced
    (hreferenced : ∀ k ∈ m.relational.keywords, m.relational.isReferenced k.id = true)
    {k : Keyword} (hk : k ∈ m'.relational.keywords)
    (hunreferenced : m'.relational.isReferenced k.id = false) :
    ∃ previous ∈ m.relational.notes, previous.id = note.id ∧ k.user = previous.user ∧
      k.name ∈ Service.referencedNames previous := by
  rw [← Bool.not_eq_true, Relational.isReferenced_iff] at hunreferenced
  have hnone : ∀ n kind, ¬m'.relational.Points n kind k.id :=
    fun n kind hpoints => hunreferenced ⟨n, kind, hpoints⟩
  -- keywords that were asked for are pointed to, so this one is an old one
  have hold : k ∈ m.relational.keywords := by
    rcases (h.mem_keywords k).1 hk with hold | hlinked | htitle
    · exact hold
    · exact absurd ((h.points_self hc hk).2 (Or.inl ⟨rfl, hlinked⟩)) (hnone _ _)
    · exact absurd ((h.points_self hc hk).2 (Or.inr ⟨rfl, htitle⟩)) (hnone _ _)
  obtain ⟨n, kind, hpoints⟩ := Relational.isReferenced_iff.1 (hreferenced k hold)
  have hself : n = note.id := by
    by_contra hne
    exact hnone n kind ((h.points_of_ne hc hne).2 hpoints)
  obtain ⟨previous, hprevious, l, hl, hid, hsame, huser, hname⟩ := hc.of_points hpoints
  rw [hc.registered.eq_of_id_eq hl hold hsame] at huser hname
  exact ⟨previous, hprevious, hid.trans hself, huser, hname⟩

/-- A keyword of the user with a name that the note refers to is referred to. -/
lemma isReferenced_of_mem {k : Keyword} (hk : k ∈ m'.relational.keywords)
    (huser : k.user = note.user) (hname : k.name ∈ Service.referencedNames note) :
    m'.relational.isReferenced k.id = true := by
  rw [Relational.isReferenced_iff]
  rcases Service.mem_referencedNames.1 hname with htarget | ⟨-, htitle⟩
  · have hlinked := (h.mem_linked hk).2 ⟨huser, htarget⟩
    exact ⟨note.id, .linksTo, (h.points_self hc hk).2 (Or.inl ⟨rfl, hlinked⟩)⟩
  · have hself := h.eq_title hk huser htitle
    exact ⟨note.id, .represents, (h.points_self hc hk).2 (Or.inr ⟨rfl, hself⟩)⟩

end Order

/-- A note that is new leaves nothing over. -/
theorem tidy_of_new (h : Renewed m note title linked m') (hm : Tidy m)
    (hnew : ∀ n ∈ m.relational.notes, n.id ≠ note.id) : Tidy m' := by
  refine ⟨h.consistent hm.consistent, h.projection hm.consistent hm.projection, fun k hk => ?_⟩
  by_contra hunreferenced
  rw [Bool.not_eq_true] at hunreferenced
  obtain ⟨previous, hprevious, hid, -⟩ :=
    h.of_unreferenced hm.consistent hm.referenced hk hunreferenced
  exact hnew previous hprevious hid

/-- A note that is changed leaves over what only its previous state refers to. -/
theorem spares_of_mem (h : Renewed m note title linked m') (hm : Tidy m) {previous : Note}
    (hprevious : previous ∈ m.relational.notes) (hid : previous.id = note.id)
    (huser : previous.user = note.user) :
    m'.relational.Spares note.user
      (Reference.removed (Service.referencedNames previous) (Service.referencedNames note)) := by
  intro k hk hunreferenced
  obtain ⟨other, hother, hid', huser', hname⟩ :=
    h.of_unreferenced hm.consistent hm.referenced hk hunreferenced
  rw [Keyed.eq_of_key_eq hm.consistent.notes_nodup hother hprevious (hid'.trans hid.symm)]
    at huser' hname
  have huser := huser'.trans huser
  refine ⟨huser, List.mem_filter.2 ⟨hname, decide_eq_true fun hcurrent => ?_⟩⟩
  rw [h.isReferenced_of_mem hm.consistent hk huser hcurrent] at hunreferenced
  cases hunreferenced

end Renewed

end LinkedNotes.Store
