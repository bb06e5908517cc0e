import LinkedNotes.Proofs.Store.Reachable

/-!
# What a resync writes

A resync of a note gives it exactly the links of its text, in both stores, from whatever state they
are in: all it takes is that keywords can be told apart and that the graph has no others
(`Catalogued`). The identifiers of those keywords need not come from the supply, as long as what the
supply gives next is new. That is as good as a supply that has given them all (`recalling`).
-/

namespace LinkedNotes.Store

open Service
open Memory (direct)

/-! ## Supplies that recall identifiers -/

namespace Supply

/-- What is taken between two points is none of the identifiers, and nothing is taken twice. -/
structure DrawsNew (before after : Supply) (ids : List Identifier) : Prop where
  unused : ∀ k, before.identifiersUsed ≤ k → k < after.identifiersUsed →
    before.identifier k ∉ ids
  injective : ∀ j, before.identifiersUsed ≤ j → j < after.identifiersUsed →
    ∀ k, before.identifiersUsed ≤ k → k < after.identifiersUsed →
      before.identifier j = before.identifier k → j = k

/-- The supply from a point on, as if it had given the identifiers up to there. -/
def recalling (ids : List Identifier) (start : Nat) (supply : Supply) : Supply where
  identifier k := ids[k]?.getD (supply.identifier (start + (k - ids.length)))
  instant := supply.instant
  identifiersUsed := ids.length + (supply.identifiersUsed - start)
  instantsUsed := supply.instantsUsed

variable {ids : List Identifier} {start : Nat} {supply : Supply}

lemma identifier_recalling_of_le {k : Nat} (h : ids.length ≤ k) :
    (supply.recalling ids start).identifier k =
      supply.identifier (start + (k - ids.length)) := by
  show ids[k]?.getD _ = _
  rw [List.getElem?_eq_none h]
  rfl

lemma identifier_recalling_of_lt {k : Nat} (h : k < ids.length) :
    (supply.recalling ids start).identifier k = ids[k] := by
  show ids[k]?.getD _ = _
  rw [List.getElem?_eq_getElem h]
  rfl

/-- What is recalled has been taken. -/
lemma drawn_recalling {id : Identifier} (h : id ∈ ids) :
    (supply.recalling ids start).Drawn id := by
  obtain ⟨k, hk, rfl⟩ := List.getElem_of_mem h
  exact ⟨k, Nat.lt_add_right _ hk, identifier_recalling_of_lt hk⟩

/-- What is taken next is the same. -/
lemma draw_recalling (h : start ≤ supply.identifiersUsed) :
    draw (supply.recalling ids start) = ((draw supply).1, (draw supply).2.recalling ids start) := by
  have hnext : (supply.recalling ids start).identifier
      (supply.recalling ids start).identifiersUsed = supply.identifier supply.identifiersUsed := by
    show (supply.recalling ids start).identifier (ids.length + (supply.identifiersUsed - start)) = _
    rw [identifier_recalling_of_le (Nat.le_add_right _ _)]
    congr 1
    omega
  have hused : ids.length + (supply.identifiersUsed - start) + 1 =
      ids.length + (supply.identifiersUsed + 1 - start) := by omega
  unfold draw
  rw [hnext]
  exact congrArg (Prod.mk _) (congrArg (Supply.mk _ _ · _) hused)

/-- A supply whose next identifiers are new does not repeat itself. -/
lemma DrawsNew.fresh_recalling {before after : Supply} (h : before.DrawsNew after ids)
    (hprecedes : before.Precedes after) (hnodup : ids.Nodup) :
    (after.recalling ids before.identifiersUsed).Fresh := by
  -- a later identifier is one of those that are taken between the two points
  have hlater : ∀ k, ids.length ≤ k →
      k < (after.recalling ids before.identifiersUsed).identifiersUsed →
      before.identifiersUsed + (k - ids.length) < after.identifiersUsed ∧
        (after.recalling ids before.identifiersUsed).identifier k =
          before.identifier (before.identifiersUsed + (k - ids.length)) := by
    intro k hle hlt
    have hlt : k < ids.length + (after.identifiersUsed - before.identifiersUsed) := hlt
    refine ⟨by omega, ?_⟩
    rw [identifier_recalling_of_le hle, hprecedes.identifier_eq]
  -- and so is not one that is recalled
  have hother : ∀ j, j < ids.length → ∀ k, ids.length ≤ k →
      k < (after.recalling ids before.identifiersUsed).identifiersUsed →
      (after.recalling ids before.identifiersUsed).identifier j ≠
        (after.recalling ids before.identifiersUsed).identifier k := by
    intro j hj k hle hk heq
    obtain ⟨hlt, hnew⟩ := hlater k hle hk
    rw [identifier_recalling_of_lt hj, hnew] at heq
    exact h.unused _ (Nat.le_add_right _ _) hlt (heq ▸ List.getElem_mem hj)
  intro j hj k hk heq
  rcases Nat.lt_or_ge j ids.length with hj' | hj' <;> rcases Nat.lt_or_ge k ids.length with hk' | hk'
  · rw [identifier_recalling_of_lt hj', identifier_recalling_of_lt hk'] at heq
    exact (hnodup.getElem_inj_iff).1 heq
  · exact absurd heq (hother j hj' k hk' hk)
  · exact absurd heq.symm (hother k hk' j hj' hj)
  · obtain ⟨hlt, hnew⟩ := hlater j hj' hj
    obtain ⟨hlt', hnew'⟩ := hlater k hk' hk
    have hsame := h.injective _ (Nat.le_add_right _ _) hlt _ (Nat.le_add_right _ _) hlt'
      (hnew.symm.trans (heq.trans hnew'))
    omega

end Supply

/-! ## Keywords from such a supply -/

namespace Relational

variable {ids : List Identifier} {start : Nat}

/-- A keyword is found or added in the same way. -/
lemma ensureKeyword_recalling {user : Identifier} {name : String} {store : Relational}
    {supply : Supply} (h : start ≤ supply.identifiersUsed) :
    ensureKeyword user name store (supply.recalling ids start) =
      ((ensureKeyword user name store supply).1,
        (ensureKeyword user name store supply).2.recalling ids start) := by
  unfold ensureKeyword
  cases store.keywordNamed? user name with
  | some keyword => rfl
  | none =>
    have hdraw : Supply.draw (supply.recalling ids start) = _ := Supply.draw_recalling h
    let added : Identifier → Keyword × Relational := fun id =>
      (⟨id, user, name⟩, { store with keywords := Keyed.put (·.id) ⟨id, user, name⟩ store.keywords })
    show (added (Supply.draw (supply.recalling ids start)).1,
      (Supply.draw (supply.recalling ids start)).2) = _
    rw [hdraw]
    rfl

lemma ensureDistinct_recalling {user : Identifier} (names : List String) {store : Relational}
    {supply : Supply} (h : start ≤ supply.identifiersUsed) :
    ensureDistinct user names store (supply.recalling ids start) =
      ((ensureDistinct user names store supply).1,
        (ensureDistinct user names store supply).2.recalling ids start) := by
  induction names generalizing store supply with
  | nil => rfl
  | cons name rest ih =>
    have hfirst : ensureKeyword user name store (supply.recalling ids start) = _ :=
      ensureKeyword_recalling h
    have hlater := (precedes_ensureKeyword user name store supply).identifiersUsed_le
    let asked := ensureKeyword user name store supply
    have hrest : ensureDistinct user rest asked.1.2 (asked.2.recalling ids start) = _ :=
      ih (Nat.le_trans h hlater)
    let both : Keyword → List Keyword × Relational → List Keyword × Relational :=
      fun keyword rest => (keyword :: rest.1, rest.2)
    let after := ensureKeyword user name store (supply.recalling ids start)
    show (both after.1.1 (ensureDistinct user rest after.1.2 after.2).1,
      (ensureDistinct user rest after.1.2 after.2).2) = _
    rw [show after = _ from hfirst]
    dsimp only
    rw [hrest]
    rfl

/-- Keywords that can be told apart are asked for, if what the supply gives is new. -/
theorem ensures_of_drawsNew {user : Identifier} {names : List String} {store : Relational}
    {supply : Supply} (hnodup : (store.keywords.map (·.id)).Nodup)
    (hunique : ∀ k ∈ store.keywords, ∀ l ∈ store.keywords, k.user = l.user → k.name = l.name →
      k = l)
    (hnew : supply.DrawsNew (store.ensureKeywords user names supply).2
      (store.keywords.map (·.id))) :
    Ensures user (Text.distinct names) store
      (supply.recalling (store.keywords.map (·.id)) supply.identifiersUsed)
      (store.ensureKeywords user names supply).1.1 (store.ensureKeywords user names supply).1.2
      ((store.ensureKeywords user names supply).2.recalling (store.keywords.map (·.id))
        supply.identifiersUsed) := by
  let ids := store.keywords.map (·.id)
  have hregistered : Registered (supply.recalling ids supply.identifiersUsed) store.keywords :=
    ⟨hnodup, hunique, fun k hk => Supply.drawn_recalling (List.mem_map_of_mem hk)⟩
  have hsame : store.ensureKeywords user names (supply.recalling ids supply.identifiersUsed) =
      ((store.ensureKeywords user names supply).1,
        (store.ensureKeywords user names supply).2.recalling ids supply.identifiersUsed) :=
    ensureDistinct_recalling _ (Nat.le_refl _)
  have hprecedes : supply.Precedes (store.ensureKeywords user names supply).2 :=
    precedes_ensureDistinct user _ store supply
  have hfresh : (store.ensureKeywords user names
      (supply.recalling ids supply.identifiersUsed)).2.Fresh := by
    rw [hsame]
    exact hnew.fresh_recalling hprecedes hnodup
  have hensures := ensures_ensureKeywords names hregistered hfresh
  rw [hsame] at hensures
  exact hensures

end Relational

/-! ## The resync -/

/-- Keywords have identifiers of their own and no user has two of a name, and those of the graph are
among the rows. -/
structure Catalogued (m : Memory) : Prop where
  nodup : (m.relational.keywords.map (·.id)).Nodup
  unique : ∀ k ∈ m.relational.keywords, ∀ l ∈ m.relational.keywords,
    k.user = l.user → k.name = l.name → k = l
  subset : m.graph.keywords ⊆ m.relational.keywords

/-- From one memory to the other, the links of a note were written anew. -/
structure Resynced (m : Memory) (note : Note) (linked : List Keyword) (title : Option Keyword)
    (edges : List Edge) (m' : Memory) : Prop where
  /-- The keywords linked to are named by the targets of the text, in their order. -/
  names_eq : linked.map (·.name) = Wikilink.targets note.body
  /-- They are those of the user, and are there. -/
  mem_linked : ∀ k, k ∈ linked ↔
    k ∈ m'.relational.keywords ∧ k.user = note.user ∧ k.name ∈ Wikilink.targets note.body
  /-- The keyword represented is the one the title names, if the note represents one. -/
  title_eq_some : ∀ k, title = some k ↔ note.represents.isSome = true ∧
    k ∈ m'.relational.keywords ∧ k.user = note.user ∧ k.name = note.title
  /-- The links of the note are those to the keywords linked to. -/
  links_eq : (m'.relational.links.filter fun link => link.1 = note.id) =
    linked.map fun k => (note.id, k.id)
  /-- The edges that are told lead to the keywords linked to, and then to the one represented. -/
  edges_eq : edges =
    linked.map (Edge.of note.id .linksTo) ++ title.toList.map (Edge.of note.id .represents)
  /-- They are the edges of the note. -/
  edgesOf_eq : m'.graph.edgesOf note.id = edges
  /-- Both stores have the keywords that the note refers to. -/
  shared : ∀ k ∈ linked ++ title.toList,
    k ∈ m'.relational.keywords ∧ k ∈ m'.graph.keywords
  /-- Keywords that were there stay as they are. -/
  grows : m.relational.keywords <+: m'.relational.keywords
  grows_graph : m.graph.keywords <+: m'.graph.keywords
  /-- Others are those that the note refers to. -/
  new : ∀ k ∈ m'.relational.keywords, k ∈ m.relational.keywords ∨ k ∈ linked
  new_graph : ∀ k ∈ m'.graph.keywords, k ∈ m.graph.keywords ∨ k ∈ linked ++ title.toList
  /-- Keywords can be told apart as before, and the graph has no others. -/
  catalogued : Catalogued m'
  /-- Notes and what other notes refer to stay as they are. -/
  notes_eq : m'.relational.notes = m.relational.notes
  nodes_eq : m'.graph.nodes = m.graph.nodes
  links_of_ne : ∀ other, other ≠ note.id →
    (m'.relational.links.filter fun link => link.1 = other) =
      m.relational.links.filter fun link => link.1 = other
  edges_of_ne : ∀ other, other ≠ note.id → m'.graph.edgesOf other = m.graph.edgesOf other

/-- The memory after the links of a note were written anew. -/
def resynced (note : Note) (m : Memory) : Memory :=
  { m with
    relational := (asked note m).1.2.replaceLinks note.id ((asked note m).1.1.map (·.id))
    graph :=
      m.graph.replaceEdges note.id (asked note m).1.1 ((asked note m).1.2.represented note)
    supply := (asked note m).2 }

/-- Where the graph can be written, a resync always comes to an end. -/
lemma outcome_resync {m : Memory} (h : m.graphReadOnly = false) (note : Note) :
    (resync direct note).outcome m =
      (.ok ((resynced note m).graph.edgesOf note.id), resynced note m) := by
  let linked : Memory := { m with
    relational := (asked note m).1.2.replaceLinks note.id ((asked note m).1.1.map (·.id))
    supply := (asked note m).2 }
  have hwritable : linked.graphReadOnly = false := h
  rw [outcome_resync_eq]
  exact Action.outcome_bind_ok (Memory.outcome_nodes hwritable _)

section Resynced

variable {m : Memory} {note : Note}

/-- What is asked for, told as if the supply had given all identifiers. -/
lemma ensures_asked (hm : Catalogued m)
    (hnew : m.supply.DrawsNew (asked note m).2 (m.relational.keywords.map (·.id))) :
    Relational.Ensures note.user (Wikilink.targets note.body) m.relational
      (m.supply.recalling (m.relational.keywords.map (·.id)) m.supply.identifiersUsed)
      (asked note m).1.1 (asked note m).1.2
      ((asked note m).2.recalling (m.relational.keywords.map (·.id))
        m.supply.identifiersUsed) := by
  have hdistinct : Text.distinct (Wikilink.targets note.body) = Wikilink.targets note.body :=
    Text.distinct_eq_self (Text.nodup_distinct _)
  have hensures := Relational.ensures_of_drawsNew hm.nodup hm.unique hnew
  rw [hdistinct] at hensures
  exact hensures

variable {supply supply' : Supply} {linked : List Keyword} {store : Relational}

/-- The keyword represented is the one of the user that the title names. -/
lemma represented_eq_some (h : Registered supply store.keywords) (k : Keyword) :
    store.represented note = some k ↔
      note.represents.isSome = true ∧ k ∈ store.keywords ∧ k.user = note.user ∧
        k.name = note.title := by
  rw [Relational.represented, ← Relational.keywordNamed?_eq_some h]
  split
  · next hsome => exact ⟨fun h => ⟨hsome, h⟩, And.right⟩
  · next hnone =>
    refine ⟨fun heq => ?_, fun h => absurd h.1 hnone⟩
    cases heq

/-- With the keywords that were asked for, the links of the note are written anew and nothing else
is touched. -/
theorem resynced_of_ensures (hm : Catalogued m)
    (hensures : Relational.Ensures note.user (Wikilink.targets note.body) m.relational supply
      linked store supply') {m' : Memory}
    (hrows : m'.relational = store.replaceLinks note.id (linked.map (·.id)))
    (hgraph : m'.graph = m.graph.replaceEdges note.id linked (store.represented note)) :
    Resynced m note linked (store.represented note) (m'.graph.edgesOf note.id) m' := by
  have hregistered := hensures.registered
  have hkeywords : m'.relational.keywords = store.keywords := congrArg (·.keywords) hrows
  have htitle : ∀ k, store.represented note = some k ↔ _ := represented_eq_some hregistered
  have hlinked : linked ⊆ store.keywords := fun k hk => (hensures.of_mem k hk).1
  have hrepresents : (store.represented note).toList ⊆ store.keywords :=
    fun k hk => ((htitle k).1 (Option.mem_toList.1 hk)).2.1
  have hshared : ∀ k ∈ linked ++ (store.represented note).toList, k ∈ store.keywords :=
    fun k hk => (List.mem_append.1 hk).elim (hlinked ·) (hrepresents ·)
  have hgains := Graph.gains_replaceEdges hregistered note.id
    (fun k hk => hensures.keeps (hm.subset hk)) hlinked hrepresents
  rw [← hgraph] at hgains
  have hedges : ∀ e ∈ linked.map (Edge.of note.id .linksTo) ++
      (store.represented note).toList.map (Edge.of note.id .represents), e.note = note.id := by
    intro e he
    rcases List.mem_append.1 he with he | he <;> obtain ⟨k, -, rfl⟩ := List.mem_map.1 he <;> rfl
  have hnodup := hensures.nodup_ids (Text.nodup_distinct _)
  rw [← hkeywords] at htitle hshared
  exact {
    names_eq := hensures.names_eq
    mem_linked := by
      rw [hkeywords]
      exact hensures.mem_iff
    title_eq_some := htitle
    links_eq := by
      rw [hrows, Relational.filter_links_replaceLinks_self hnodup, List.map_map]
      rfl
    edges_eq := hgains.edgesOf_self hedges
    edgesOf_eq := rfl
    shared := fun k hk => ⟨hshared k hk, (hgains.mem_keywords k).2 (Or.inr hk)⟩
    grows := by
      rw [hkeywords]
      exact hensures.grows
    grows_graph := hgains.grows
    new := by
      rw [hkeywords]
      exact hensures.new
    new_graph := fun k hk => (hgains.mem_keywords k).1 hk
    catalogued := by
      refine ⟨?_, ?_, fun k hk => ?_⟩
      · rw [hkeywords]
        exact hregistered.nodup
      · rw [hkeywords]
        exact hregistered.unique
      · rcases (hgains.mem_keywords k).1 hk with hk | hk
        · rw [hkeywords]
          exact hensures.keeps (hm.subset hk)
        · exact hshared k hk
    notes_eq := by
      rw [hrows]
      exact hensures.notes_eq
    nodes_eq := hgains.nodes_eq
    links_of_ne := fun other hne => by
      rw [hrows, Relational.filter_links_replaceLinks hne, hensures.links_eq]
    edges_of_ne := fun _ hne => hgains.edgesOf_of_ne hedges hne }

end Resynced

/-- Whatever the stores of an operation under way hold, as long as keywords can be told apart, the
graph has no others and can be written, and new identifiers are new: a resync comes to an end, and
gives the note the links of its text and its title in both stores. -/
theorem exists_resynced {base m : Memory} {session : Transaction.Session Memory.World Copy}
    {note : Note} (hlive : Memory.Live base session m) (hm : Catalogued m)
    (hwritable : m.graphReadOnly = false)
    (hnew : m.supply.DrawsNew
      ((resync (Memory.backend Memory.coordinator) note).outcome session).2.world.store.supply
      (m.relational.keywords.map (·.id))) :
    ∃ edges after m' linked title,
      (resync (Memory.backend Memory.coordinator) note).outcome session = (.ok edges, after) ∧
        Memory.Live base after m' ∧ Resynced m note linked title edges m' := by
  obtain ⟨hvalue, hafter⟩ := (Memory.agrees_direct base).resync note session m hlive
  rw [outcome_resync hwritable] at hvalue hafter
  have hsupply : _ = (asked note m).2 := hafter.works.supply_eq
  have hensures := ensures_asked hm (hsupply ▸ hnew)
  exact ⟨_, _, _, _, _, Prod.ext hvalue rfl, hafter, resynced_of_ensures hm hensures rfl rfl⟩

/-- A note about to be created, that links to its own title and to a name that is not there. The
keyword of its title is among the rows, but not in the graph yet. -/
def selfLinked : Note :=
  { Note.new (.ofNat 2) (.ofNat 100) .epoch "A" (some "[[B]] [[A]] [[B]]") with
    represents := some (.ofNat 1) }

/-- A memory in which the keyword of the title has just been added. -/
def titled : Memory where
  relational := { keywords := [⟨.ofNat 1, .ofNat 100, "A"⟩] }
  supply := { counting with identifiersUsed := 3 }

/-- An operation that is entered on that memory. -/
def opened : Transaction.Session Memory.World Copy :=
  (Memory.coordinator.enter.outcome { world := { store := titled } }).2

lemma live_opened : Memory.Live titled opened titled := by
  obtain ⟨session, henter, hlive⟩ := Memory.exists_enter { store := titled }
  rw [opened, henter]
  exact hlive

lemma catalogued_titled : Catalogued titled where
  nodup := List.nodup_singleton _
  unique _ hk _ hl _ _ := (List.mem_singleton.1 hk).trans (List.mem_singleton.1 hl).symm
  subset := List.nil_subset _

theorem exists_resynced_selfLinked :
    Memory.Live titled opened titled ∧ Catalogued titled ∧ titled.graphReadOnly = false ∧
      titled.supply.DrawsNew
        ((resync (Memory.backend Memory.coordinator) selfLinked).outcome
          opened).2.world.store.supply (titled.relational.keywords.map (·.id)) ∧
      ∃ edges after m' linked title,
        (resync (Memory.backend Memory.coordinator) selfLinked).outcome opened =
          (.ok edges, after) ∧
        Memory.Live titled after m' ∧ Resynced titled selfLinked linked title edges m' := by
  have hused : ((resync (Memory.backend Memory.coordinator) selfLinked).outcome
      opened).2.world.store.supply.identifiersUsed = 4 := by decide +kernel
  have hnew : titled.supply.DrawsNew
      ((resync (Memory.backend Memory.coordinator) selfLinked).outcome
        opened).2.world.store.supply (titled.relational.keywords.map (·.id)) := by
    -- only the identifier with the number three is taken
    have hthree : ∀ k, titled.supply.identifiersUsed ≤ k → k < 4 → k = 3 := by
      intro k hle hlt
      have hle : 3 ≤ k := hle
      omega
    constructor
    · intro k hle hlt
      rw [hused] at hlt
      rw [hthree k hle hlt]
      decide
    · intro j hj hj' k hk hk' _
      rw [hused] at hj' hk'
      rw [hthree j hj hj', hthree k hk hk']
  exact ⟨live_opened, catalogued_titled, rfl, hnew,
    exists_resynced live_opened catalogued_titled rfl hnew⟩

end LinkedNotes.Store
