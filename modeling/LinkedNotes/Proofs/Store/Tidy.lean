import LinkedNotes.Proofs.Store.Projection
import LinkedNotes.Store.Memory

/-!
# Tidy memories

Between operations a memory is tidy: its rows refer to each other as they should, the graph follows
them, and every keyword is referred to by some note. Here is what an operation may do to a memory,
as one change each: write a note and its links anew (`Renewed`), write a note whose links stay
(`Kept`), drop a note (`Dropped`) and drop unused keywords (`Cleaned`). The first three leave all in
order but for keywords that the note no longer refers to; the last one makes it tidy again.
-/

namespace LinkedNotes

/-! ## Names -/

lemma Reference.mem_names {linked : List String} {represents : Option Identifier}
    {title name : String} : name ∈ Reference.names linked represents title ↔
      name ∈ linked ∨ (represents.isSome = true ∧ name = title) := by
  unfold Reference.names
  dsimp only
  split
  · next h =>
    rw [List.mem_append, List.mem_singleton, Text.mem_distinct]
    exact or_congr_right ⟨fun heq => ⟨h.1, heq⟩, And.right⟩
  · next h =>
    rw [Text.mem_distinct]
    refine ⟨Or.inl, fun hname => hname.elim id ?_⟩
    intro hname
    rcases hname with ⟨hsome, rfl⟩
    by_contra hmissing
    exact h ⟨hsome, fun hmem => hmissing (Text.mem_distinct.1 hmem)⟩

lemma Service.mem_referencedNames {note : Note} {name : String} :
    name ∈ Service.referencedNames note ↔
      name ∈ Wikilink.targets note.body ∨ (note.represents.isSome = true ∧ name = note.title) :=
  Reference.mem_names

namespace Store

/-! ## Rows in order -/

namespace Relational

/-- A note has recorded its links, and its title is the keyword it represents. -/
structure Settles (rows : Relational) (note : Note) : Prop where
  recorded : note.links = Wikilink.intervals note.body
  represents : ∃ k ∈ rows.keywords, note.represents = some k.id ∧ k.user = note.user ∧
    k.name = note.title

/-- A link leads from a note to a keyword of the same user, which the text of the note names. -/
def Refers (rows : Relational) (link : Identifier × Identifier) : Prop :=
  ∃ note ∈ rows.notes, ∃ k ∈ rows.keywords, note.id = link.1 ∧ k.id = link.2 ∧
    k.user = note.user ∧ k.name ∈ Wikilink.targets note.body

/-- The rows refer to each other as they should. -/
structure Consistent (rows : Relational) (supply : Supply) : Prop where
  registered : Registered supply rows.keywords
  notes_nodup : (rows.notes.map (·.id)).Nodup
  notes_drawn : ∀ note ∈ rows.notes, supply.Drawn note.id
  settles : ∀ note ∈ rows.notes, rows.Settles note
  links_nodup : rows.links.Nodup
  refers : ∀ link ∈ rows.links, rows.Refers link

/-- Every keyword that no note refers to is of the user and has one of the names. -/
def Spares (rows : Relational) (user : Identifier) (names : List String) : Prop :=
  ∀ k ∈ rows.keywords, rows.isReferenced k.id = false → k.user = user ∧ k.name ∈ names

/-- A keyword is referred to if a note links to it or has it as its title. -/
lemma isReferenced_iff {rows : Relational} {keyword : Identifier} :
    rows.isReferenced keyword = true ↔ ∃ note kind, rows.Points note kind keyword := by
  unfold isReferenced
  rw [Bool.or_eq_true, List.any_eq_true, List.any_eq_true]
  constructor
  · intro hreferenced
    rcases hreferenced with ⟨⟨note, id⟩, hlink, hid⟩ | ⟨note, hnote, hrepresents⟩
    · rw [decide_eq_true_eq] at hid
      exact ⟨note, .linksTo, hid ▸ hlink⟩
    · rw [decide_eq_true_eq] at hrepresents
      exact ⟨note.id, .represents, note, hnote, rfl, hrepresents⟩
  · intro hpoints
    rcases hpoints with ⟨note, kind, hpoints⟩
    cases kind with
    | linksTo => exact Or.inl ⟨_, hpoints, decide_eq_true rfl⟩
    | represents =>
      obtain ⟨n, hn, -, hrepresents⟩ := hpoints
      exact Or.inr ⟨n, hn, decide_eq_true hrepresents⟩

/-- Whatever a note points to is a keyword of the same user, and the note refers to its name. -/
lemma Consistent.of_points {rows : Relational} {supply : Supply} (h : rows.Consistent supply)
    {note keyword : Identifier} {kind : EdgeKind} (hpoints : rows.Points note kind keyword) :
    ∃ n ∈ rows.notes, ∃ k ∈ rows.keywords, n.id = note ∧ k.id = keyword ∧ k.user = n.user ∧
      k.name ∈ Service.referencedNames n := by
  cases kind with
  | linksTo =>
    obtain ⟨n, hn, k, hk, hsource, htarget, huser, hname⟩ := h.refers _ hpoints
    exact ⟨n, hn, k, hk, hsource, htarget, huser, Service.mem_referencedNames.2 (Or.inl hname)⟩
  | represents =>
    obtain ⟨n, hn, hid, hrepresents⟩ := hpoints
    obtain ⟨-, k, hk, hkeyword, huser, hname⟩ := h.settles n hn
    have hsame : keyword = k.id := Option.some.inj (hrepresents.symm.trans hkeyword)
    have hsome : n.represents.isSome = true := by
      rw [hkeyword]
      rfl
    exact ⟨n, hn, k, hk, hid, hsame.symm, huser,
      Service.mem_referencedNames.2 (Or.inr ⟨hsome, hname⟩)⟩

end Relational

/-- Rows and graph are in order, and every keyword is referred to. -/
structure Tidy (memory : Memory) : Prop where
  consistent : memory.relational.Consistent memory.supply
  projection : Projection memory.relational memory.graph
  referenced : ∀ k ∈ memory.relational.keywords, memory.relational.isReferenced k.id = true

/-- In a tidy memory nothing is left over. -/
lemma Tidy.spares {memory : Memory} (h : Tidy memory) (user : Identifier) (names : List String) :
    memory.relational.Spares user names := by
  intro k hk hunreferenced
  rw [h.referenced k hk] at hunreferenced
  cases hunreferenced

/-! ## Dropping unused keywords -/

namespace Graph

variable {graph : Graph} {user : Identifier} {names : List String}

/-- The identifier is that of a keyword of the user with one of the names. -/
def Dooms (graph : Graph) (user : Identifier) (names : List String) (id : Identifier) : Prop :=
  ∃ k ∈ graph.keywords, k.id = id ∧ k.user = user ∧ k.name ∈ names

lemma mem_keywords_deleteKeywords {k : Keyword} :
    k ∈ (graph.deleteKeywords user names).keywords ↔
      k ∈ graph.keywords ∧ ¬graph.Dooms user names k.id := by
  simp only [deleteKeywords, List.mem_filter, List.mem_map, decide_eq_true_eq, Bool.and_eq_true,
    List.contains_iff_mem, Dooms]
  refine and_congr_right fun _ => not_congr (exists_congr fun l => ?_)
  tauto

lemma mem_edges_deleteKeywords {e : Edge} :
    e ∈ (graph.deleteKeywords user names).edges ↔
      e ∈ graph.edges ∧ ¬graph.Dooms user names e.keyword := by
  simp only [deleteKeywords, List.mem_filter, List.mem_map, decide_eq_true_eq, Bool.and_eq_true,
    List.contains_iff_mem, Dooms]
  refine and_congr_right fun _ => not_congr (exists_congr fun l => ?_)
  tauto

end Graph

/-- The graph drops a keyword if the rows do. -/
lemma Projection.dooms_iff {supply : Supply} {rows : Relational} {graph : Graph}
    {user : Identifier} {names : List String} {l : Keyword} (hp : Projection rows graph)
    (hrows : Registered supply rows.keywords) (hl : l ∈ rows.keywords) :
    graph.Dooms user (Relational.deleteUnused user names rows).1 l.id ↔
      rows.isUnused user names l = true := by
  obtain ⟨-, hnames⟩ : Relational.DropsUnused user names rows _ :=
    Relational.dropsUnused_deleteUnused names hrows
  constructor
  · intro hdoomed
    rcases hdoomed with ⟨k, hk, hid, huser, hname⟩
    have hk := (hp.mem_keywords k).1 hk
    obtain ⟨m, hm, hunused, hsame⟩ := (hnames k.name).1 hname
    obtain ⟨huser', -, -⟩ := Relational.isUnused_iff.1 hunused
    rw [← hrows.eq_of_id_eq hk hl hid, ← hrows.unique m hm k hk (huser'.trans huser.symm) hsame]
    exact hunused
  · intro hunused
    obtain ⟨huser, -, -⟩ := Relational.isUnused_iff.1 hunused
    exact ⟨l, (hp.mem_keywords l).2 hl, rfl, huser, (hnames l.name).2 ⟨l, hl, hunused, rfl⟩⟩

/-- From one memory to the other, unused keywords were dropped from rows and graph. -/
structure Cleaned (memory : Memory) (user : Identifier) (names : List String)
    (memory' : Memory) : Prop where
  relational_eq : memory'.relational =
    (Relational.deleteUnused user names memory.relational).2
  graph_eq : memory'.graph = memory.graph.deleteKeywords user
    (Relational.deleteUnused user names memory.relational).1
  supply_eq : memory'.supply = memory.supply

namespace Cleaned

variable {memory memory' : Memory} {user : Identifier} {names : List String}

section Rows

variable (h : Cleaned memory user names memory')
  (hc : memory.relational.Consistent memory.supply)

include h hc

/-- Only keywords go. -/
lemma rows_eq : memory'.relational = { memory.relational with
    keywords := memory.relational.keywords.filter fun k =>
      !memory.relational.isUnused user names k } := by
  rw [h.relational_eq]
  exact (Relational.dropsUnused_deleteUnused names hc.registered).1

lemma notes_eq : memory'.relational.notes = memory.relational.notes := by rw [h.rows_eq hc]

lemma links_eq : memory'.relational.links = memory.relational.links := by rw [h.rows_eq hc]

lemma isReferenced_eq (id : Identifier) :
    memory'.relational.isReferenced id = memory.relational.isReferenced id := by
  rw [h.rows_eq hc]
  rfl

/-- The keywords that go are the unused ones. -/
lemma mem_keywords (k : Keyword) : k ∈ memory'.relational.keywords ↔
    k ∈ memory.relational.keywords ∧ memory.relational.isUnused user names k = false := by
  rw [h.rows_eq hc, List.mem_filter, Bool.not_eq_true']

/-- A keyword that some note refers to stays. -/
lemma mem_of_isReferenced {k : Keyword} (hk : k ∈ memory.relational.keywords)
    (hreferenced : memory.relational.isReferenced k.id = true) :
    k ∈ memory'.relational.keywords := by
  refine (h.mem_keywords hc k).2 ⟨hk, ?_⟩
  rw [← Bool.not_eq_true, Relational.isUnused_iff, hreferenced]
  intro hunused
  rcases hunused with ⟨-, -, hunreferenced⟩
  cases hunreferenced

lemma consistent : memory'.relational.Consistent memory'.supply := by
  have hnotes := h.notes_eq hc
  have hlinks := h.links_eq hc
  rw [h.supply_eq]
  constructor
  · rw [h.rows_eq hc]
    exact hc.registered.sublist List.filter_sublist
  · rw [hnotes]
    exact hc.notes_nodup
  · rw [hnotes]
    exact hc.notes_drawn
  · intro note hnote
    rw [hnotes] at hnote
    obtain ⟨hrecorded, k, hk, hrepresents, huser, hname⟩ := hc.settles note hnote
    have hreferenced :=
      Relational.isReferenced_iff.2 ⟨note.id, .represents, note, hnote, rfl, hrepresents⟩
    exact ⟨hrecorded, k, h.mem_of_isReferenced hc hk hreferenced, hrepresents, huser, hname⟩
  · rw [hlinks]
    exact hc.links_nodup
  · intro link hlink
    rw [hlinks] at hlink
    obtain ⟨note, hnote, k, hk, hid, hkeyword, huser, hname⟩ := hc.refers link hlink
    have hpoints : memory.relational.Points link.1 .linksTo k.id := by
      rw [hkeyword]
      exact hlink
    have hreferenced := Relational.isReferenced_iff.2 ⟨_, _, hpoints⟩
    refine ⟨note, ?_, k, h.mem_of_isReferenced hc hk hreferenced, hid, hkeyword, huser, hname⟩
    rw [hnotes]
    exact hnote

/-- Keywords of other users or names cannot be left unused. -/
lemma referenced (hspares : memory.relational.Spares user names) :
    ∀ k ∈ memory'.relational.keywords, memory'.relational.isReferenced k.id = true := by
  intro k hk
  rw [h.isReferenced_eq hc]
  obtain ⟨hk, hused⟩ := (h.mem_keywords hc k).1 hk
  by_contra hunreferenced
  rw [Bool.not_eq_true] at hunreferenced
  obtain ⟨huser, hname⟩ := hspares k hk hunreferenced
  rw [Relational.isUnused_iff.2 ⟨huser, hname, hunreferenced⟩] at hused
  cases hused

/-- The rows call for the same edges as before. -/
lemma hasEdge_iff (edge : Edge) :
    memory'.relational.HasEdge edge ↔ memory.relational.HasEdge edge := by
  have hnotes := h.notes_eq hc
  have hlinks := h.links_eq hc
  have hpoints : ∀ note kind id,
      memory'.relational.Points note kind id ↔ memory.relational.Points note kind id := by
    intro note kind id
    unfold Relational.Points
    rw [hnotes, hlinks]
  unfold Relational.HasEdge
  simp only [hpoints]
  constructor
  · intro hedge
    rcases hedge with ⟨k, hk, hedge⟩
    exact ⟨k, ((h.mem_keywords hc k).1 hk).1, hedge⟩
  · intro hedge
    rcases hedge with ⟨k, hk, heq, hedge⟩
    exact ⟨k, h.mem_of_isReferenced hc hk (Relational.isReferenced_iff.2 ⟨_, _, hedge⟩), heq, hedge⟩

section Graph

variable (hp : Projection memory.relational memory.graph)

include hp

/-- The graph drops the keywords that the rows do. -/
lemma mem_nodes (k : Keyword) :
    k ∈ memory'.graph.keywords ↔ k ∈ memory'.relational.keywords := by
  rw [h.graph_eq, h.mem_keywords hc, Graph.mem_keywords_deleteKeywords, hp.mem_keywords]
  refine and_congr_right fun hk => ?_
  rw [hp.dooms_iff hc.registered hk, Bool.not_eq_true]

/-- No edge goes: the keyword of an edge is referred to, so it is not one of those that do. -/
lemma edges_eq : memory'.graph.edges = memory.graph.edges := by
  have hkept : ∀ e ∈ memory.graph.edges, e ∈ memory'.graph.edges := by
    intro e he
    rw [h.graph_eq, Graph.mem_edges_deleteKeywords]
    refine ⟨he, ?_⟩
    obtain ⟨l, hl, heq, hedge⟩ := (hp.mem_edges e).1 he
    have hreferenced := Relational.isReferenced_iff.2 ⟨_, _, hedge⟩
    have hkeyword : e.keyword = l.id := by
      rw [heq]
      rfl
    rw [hkeyword, hp.dooms_iff hc.registered hl, Relational.isUnused_iff, hreferenced]
    intro hunused
    rcases hunused with ⟨-, -, hunreferenced⟩
    cases hunreferenced
  rw [h.graph_eq] at hkept ⊢
  exact List.filter_eq_self.2 fun e he => (List.mem_filter.1 (hkept e he)).2

/-- The graph follows the rows still. -/
lemma projection : Projection memory'.relational memory'.graph := by
  constructor
  · rw [h.graph_eq, h.notes_eq hc]
    exact hp.nodes_eq
  · rw [h.graph_eq]
    exact hp.keywords_nodup.filter _
  · exact h.mem_nodes hc hp
  · rw [h.edges_eq hc hp]
    exact hp.edges_nodup
  · intro e
    rw [h.hasEdge_iff hc, ← hp.mem_edges, h.edges_eq hc hp]

end Graph

end Rows

end Cleaned

/-- Dropping the unused keywords makes a memory tidy that was in order but for them. -/
theorem tidy_of_cleaned {memory memory' : Memory} {user : Identifier} {names : List String}
    (h : Cleaned memory user names memory')
    (hc : memory.relational.Consistent memory.supply)
    (hp : Projection memory.relational memory.graph)
    (hspares : memory.relational.Spares user names) : Tidy memory' :=
  ⟨h.consistent hc, h.projection hc hp, h.referenced hc hspares⟩

end Store

end LinkedNotes
