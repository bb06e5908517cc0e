import LinkedNotes.Proofs.Store.Calls
import Mathlib.Algebra.Group.Nat.Defs

/-!
# What holds after every run

Whatever calls are made of the service, in whatever order, and whether they succeed or fail: what is
committed in the graph reflects the rows, and there are no keywords but those that some note refers
to. Both hold as long as no identifier was taken twice.
-/

namespace LinkedNotes.Store

/-- The graph shows the rows exactly. -/
structure Reflects (rows : Relational) (graph : Graph) : Prop where
  /-- Each note has one node, with what the graph is to know of it. -/
  nodes_eq : graph.nodes = rows.notes.map Node.of
  notes_nodup : (rows.notes.map (·.id)).Nodup
  /-- The keywords are the same, each once. -/
  keywords_perm : graph.keywords.Perm rows.keywords
  keywords_nodup : (rows.keywords.map (·.id)).Nodup
  /-- Each link row is one of a note and a keyword, and no two are the same. -/
  links_nodup : rows.links.Nodup
  exists_of_link : ∀ link ∈ rows.links, ∃ note ∈ rows.notes, ∃ keyword ∈ rows.keywords,
    link = (note.id, keyword.id)
  /-- Each note represents a keyword. -/
  exists_of_note : ∀ note ∈ rows.notes, ∃ keyword ∈ rows.keywords,
    note.represents = some keyword.id
  /-- An edge is there once if a row calls for it, and else not at all. -/
  edges_nodup : graph.edges.Nodup
  mem_edges : ∀ edge, edge ∈ graph.edges ↔
    ∃ note ∈ rows.notes, ∃ keyword ∈ rows.keywords,
      (edge = Edge.of note.id .linksTo keyword ∧ (note.id, keyword.id) ∈ rows.links) ∨
        (edge = Edge.of note.id .represents keyword ∧ note.represents = some keyword.id)

/-- The keywords are those that notes refer to. -/
structure Collected (rows : Relational) : Prop where
  /-- A keyword is there if and only if a note links to it or represents it. -/
  exists_keyword_iff : ∀ id, (∃ keyword ∈ rows.keywords, keyword.id = id) ↔
    (∃ link ∈ rows.links, link.2 = id) ∨ ∃ note ∈ rows.notes, note.represents = some id
  /-- A link row is one of a note and a keyword of the same user. -/
  exists_of_link : ∀ link ∈ rows.links, ∃ note ∈ rows.notes, ∃ keyword ∈ rows.keywords,
    link = (note.id, keyword.id) ∧ keyword.user = note.user
  /-- No user has two keywords of a name. -/
  names_nodup : (rows.keywords.map fun keyword => (keyword.user, keyword.name)).Nodup

section Tidy

variable {memory : Memory} (h : Tidy memory)

include h

/-- The rows call for edges that lead from their notes. -/
lemma Tidy.hasEdge_iff (edge : Edge) : memory.relational.HasEdge edge ↔
    ∃ note ∈ memory.relational.notes, ∃ keyword ∈ memory.relational.keywords,
      (edge = Edge.of note.id .linksTo keyword ∧
          (note.id, keyword.id) ∈ memory.relational.links) ∨
        (edge = Edge.of note.id .represents keyword ∧ note.represents = some keyword.id) := by
  constructor
  · intro hedge
    rcases hedge with ⟨k, hk, heq, hpoints⟩
    cases hkind : edge.kind with
    | linksTo =>
      rw [hkind] at heq hpoints
      obtain ⟨n, hn, -, -, hid, -⟩ := h.consistent.of_points hpoints
      rw [← hid] at heq hpoints
      exact ⟨n, hn, k, hk, Or.inl ⟨heq, hpoints⟩⟩
    | represents =>
      rw [hkind] at heq hpoints
      obtain ⟨n, hn, hid, hrepresents⟩ := hpoints
      rw [← hid] at heq
      exact ⟨n, hn, k, hk, Or.inr ⟨heq, hrepresents⟩⟩
  · intro hedge
    rcases hedge with ⟨note, hnote, k, hk, ⟨rfl, hlink⟩ | ⟨rfl, hrepresents⟩⟩
    · exact ⟨k, hk, rfl, hlink⟩
    · exact ⟨k, hk, rfl, note, hnote, rfl, hrepresents⟩

lemma Tidy.reflects : Reflects memory.relational memory.graph where
  nodes_eq := h.projection.nodes_eq
  notes_nodup := h.consistent.notes_nodup
  keywords_perm :=
    (List.perm_ext_iff_of_nodup h.projection.keywords_nodup
      (.of_map _ h.consistent.registered.nodup)).2 h.projection.mem_keywords
  keywords_nodup := h.consistent.registered.nodup
  links_nodup := h.consistent.links_nodup
  exists_of_link := by
    intro link hlink
    obtain ⟨n, hn, k, hk, hsource, htarget, -⟩ := h.consistent.refers link hlink
    exact ⟨n, hn, k, hk, Prod.ext hsource.symm htarget.symm⟩
  exists_of_note := by
    intro note hnote
    obtain ⟨-, k, hk, hrepresents, -⟩ := h.consistent.settles note hnote
    exact ⟨k, hk, hrepresents⟩
  edges_nodup := h.projection.edges_nodup
  mem_edges edge := (h.projection.mem_edges edge).trans (h.hasEdge_iff edge)

lemma Tidy.collected : Collected memory.relational where
  exists_keyword_iff := by
    intro id
    have hreferenced : memory.relational.isReferenced id = true ↔
        (∃ link ∈ memory.relational.links, link.2 = id) ∨
          ∃ note ∈ memory.relational.notes, note.represents = some id := by
      simp [Relational.isReferenced]
    rw [← hreferenced]
    constructor
    · intro hkeyword
      rcases hkeyword with ⟨k, hk, rfl⟩
      exact h.referenced k hk
    · intro hid
      obtain ⟨note, kind, hpoints⟩ := Relational.isReferenced_iff.1 hid
      obtain ⟨-, -, k, hk, -, hsame, -⟩ := h.consistent.of_points hpoints
      exact ⟨k, hk, hsame⟩
  exists_of_link := by
    intro link hlink
    obtain ⟨n, hn, k, hk, hsource, htarget, huser, -⟩ := h.consistent.refers link hlink
    exact ⟨n, hn, k, hk, Prod.ext hsource.symm htarget.symm, huser⟩
  names_nodup := by
    have hc := h.consistent.registered
    refine List.Nodup.map_on (fun k hk l hl heq => ?_) (.of_map _ hc.nodup)
    obtain ⟨huser, hname⟩ := Prod.mk.inj heq
    exact hc.unique k hk l hl huser hname

end Tidy

/-! ## Runs from empty stores -/

/-- After every run from empty stores, the graph reflects the rows. -/
theorem reflects_run (supply : Supply) (calls : List Call)
    (hfresh : (run calls (Memory.empty supply)).store.supply.Fresh) :
    Reflects (run calls (Memory.empty supply)).store.relational
      (run calls (Memory.empty supply)).store.graph := by
  have htidy := tidy_run calls (tidy_empty supply) hfresh
  exact htidy.reflects

/-- A supply that counts. -/
def counting : Supply := { identifier := .ofNat, instant := fun _ => .epoch }

/-- A supply that counts does not repeat itself before its identifiers run out of bits. -/
lemma fresh_of_counting {supply : Supply} (hcounts : supply.identifier = counting.identifier)
    (hused : supply.identifiersUsed ≤ 2 ^ 128) : supply.Fresh := by
  intro j hj k hk heq
  rw [hcounts] at heq
  have hbits : (Identifier.ofNat j).toNat = (Identifier.ofNat k).toNat :=
    congrArg Identifier.toNat heq
  have hj' : (Identifier.ofNat j).toNat = j := Nat.mod_eq_of_lt (by omega)
  have hk' : (Identifier.ofNat k).toNat = k := Nat.mod_eq_of_lt (by omega)
  exact hj'.symm.trans (hbits.trans hk')

/-- A note that links to its own title, which cannot be deleted while the graph is not to be
written, and then is given another title. -/
def retitling : List Call :=
  [.create { user := .ofNat 100, title := some "A", text := some "[[A]]" },
    .setReadOnly true, .delete (.ofNat 1), .setReadOnly false,
    .update { note := .ofNat 1, title := some "B" }, .get (.ofNat 1)]

/-- Two users with keywords of the same names, and notes of one user that share keywords. -/
def sharing : List Call :=
  [.create { user := .ofNat 100, title := some "A", text := some "[[B]] [[C]]" },
    .create { user := .ofNat 200, title := some "B", text := some "[[E]]" },
    .create { user := .ofNat 100, text := some "[[B]] [[E]] [[Untitled 1]]" }]

lemma fresh_retitling : (run retitling (Memory.empty counting)).store.supply.Fresh :=
  fresh_of_counting (precedes_run _ _).identifier_eq (by decide +kernel)

theorem reflects_run_retitling :
    (run retitling (Memory.empty counting)).store.supply.Fresh ∧
      (run retitling (Memory.empty counting)).store.graph.edges.map (·.keywordName) =
        ["A", "B"] ∧
      Reflects (run retitling (Memory.empty counting)).store.relational
        (run retitling (Memory.empty counting)).store.graph :=
  ⟨fresh_retitling, by decide +kernel, reflects_run counting retitling fresh_retitling⟩

/-- After every run from empty stores, the keywords are exactly those that notes refer to. -/
theorem collected_run (supply : Supply) (calls : List Call)
    (hfresh : (run calls (Memory.empty supply)).store.supply.Fresh) :
    Collected (run calls (Memory.empty supply)).store.relational := by
  have htidy := tidy_run calls (tidy_empty supply) hfresh
  exact htidy.collected

theorem collected_run_retitling :
    (run retitling (Memory.empty counting)).store.supply.Fresh ∧
      (run retitling (Memory.empty counting)).store.relational.keywords.map (·.name) =
        ["A", "B"] ∧
      Collected (run retitling (Memory.empty counting)).store.relational :=
  ⟨fresh_retitling, by decide +kernel, collected_run counting retitling fresh_retitling⟩

end LinkedNotes.Store
