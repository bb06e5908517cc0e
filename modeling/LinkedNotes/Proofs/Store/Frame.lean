import LinkedNotes.Proofs.Store.Atomic
import LinkedNotes.Proofs.Store.Gathered
import LinkedNotes.Proofs.Store.Reachable

/-!
# What an operation leaves alone

An operation names the notes that it is about. All other notes stay as they are, in the rows and in
the graph, and so do the keywords they refer to (`Untouched`). Keywords of users other than the one
whose notes are named stay as well (`Confined`). The point where this could fail is the cleaning up,
which takes all edges to the keywords that it drops: in a memory that is in order there are none.
-/

namespace LinkedNotes.Store

open Service
open Memory (World Live direct service settled)
open LinkedNotes.Action (Matches)

variable {m m' m'' : Memory} {owner : Option Identifier} {named named' : Identifier → Prop}

/-! ## Untouched notes -/

/-- The note is the same in both memories, and so are the keywords that it refers to. -/
structure Untouched (note : Identifier) (m m' : Memory) : Prop where
  rows_eq : m'.relational.notes.filter (fun n => n.id = note) =
    m.relational.notes.filter fun n => n.id = note
  links_eq : m'.relational.links.filter (fun link => link.1 = note) =
    m.relational.links.filter fun link => link.1 = note
  nodes_eq : m'.graph.nodes.filter (fun node => node.note = note) =
    m.graph.nodes.filter fun node => node.note = note
  /-- The edges have kept their order. -/
  edges_eq : m'.graph.edgesOf note = m.graph.edgesOf note
  keyword_iff : ∀ kind k, m.relational.Points note kind k.id →
    (k ∈ m'.relational.keywords ↔ k ∈ m.relational.keywords)
  keywordNode_iff : ∀ kind k, m.relational.Points note kind k.id →
    (k ∈ m'.graph.keywords ↔ k ∈ m.graph.keywords)

namespace Untouched

variable {note : Identifier}

lemma of_eq (note : Identifier) (hrelational : m'.relational = m.relational)
    (hgraph : m'.graph = m.graph) : Untouched note m m' := by
  constructor
  · rw [hrelational]
  · rw [hrelational]
  · rw [hgraph]
  · rw [hgraph]
  · exact fun _ _ _ => by rw [hrelational]
  · exact fun _ _ _ => by rw [hgraph]

lemma mem_notes_iff (h : Untouched note m m') {n : Note} (hn : n.id = note) :
    n ∈ m'.relational.notes ↔ n ∈ m.relational.notes := by
  have hmem := congrArg (n ∈ ·) h.rows_eq
  simpa [hn] using hmem

/-- The note points to what it pointed to. -/
lemma points_iff (h : Untouched note m m') {kind : EdgeKind} {id : Identifier} :
    m'.relational.Points note kind id ↔ m.relational.Points note kind id := by
  cases kind with
  | linksTo =>
    have hmem := congrArg ((note, id) ∈ ·) h.links_eq
    show (note, id) ∈ m'.relational.links ↔ (note, id) ∈ m.relational.links
    simpa using hmem
  | represents =>
    refine exists_congr fun n => and_congr_left fun hn => ?_
    exact h.mem_notes_iff hn.1

lemma trans (h : Untouched note m m') (h' : Untouched note m' m'') : Untouched note m m'' where
  rows_eq := h'.rows_eq.trans h.rows_eq
  links_eq := h'.links_eq.trans h.links_eq
  nodes_eq := h'.nodes_eq.trans h.nodes_eq
  edges_eq := h'.edges_eq.trans h.edges_eq
  keyword_iff kind k hpoints :=
    (h'.keyword_iff kind k (h.points_iff.2 hpoints)).trans (h.keyword_iff kind k hpoints)
  keywordNode_iff kind k hpoints :=
    (h'.keywordNode_iff kind k (h.points_iff.2 hpoints)).trans (h.keywordNode_iff kind k hpoints)

end Untouched

/-- Rows and graph are in order, but for keywords that are left over. -/
structure InOrder (m : Memory) : Prop where
  consistent : m.relational.Consistent m.supply
  projection : Projection m.relational m.graph

lemma Tidy.inOrder (h : Tidy m) : InOrder m := ⟨h.consistent, h.projection⟩

/-- Between memories in order, a note is untouched if its row, links and edges are the same and what
it refers to is kept. -/
lemma InOrder.untouched {note : Identifier} (h : InOrder m) (h' : InOrder m')
    (hrows : m'.relational.notes.filter (fun n => n.id = note) =
      m.relational.notes.filter fun n => n.id = note)
    (hlinks : m'.relational.links.filter (fun link => link.1 = note) =
      m.relational.links.filter fun link => link.1 = note)
    (hedges : m'.graph.edgesOf note = m.graph.edgesOf note)
    (hkeeps : ∀ kind, ∀ k ∈ m.relational.keywords, m.relational.Points note kind k.id →
      k ∈ m'.relational.keywords) : Untouched note m m' := by
  have hkeyword : ∀ kind k, m.relational.Points note kind k.id →
      (k ∈ m'.relational.keywords ↔ k ∈ m.relational.keywords) := by
    intro kind k hpoints
    refine ⟨fun hk => ?_, fun hk => hkeeps kind k hk hpoints⟩
    -- the note referred to a keyword with the identifier before, and that is still the only one
    obtain ⟨-, -, l, hl, -, hid, -⟩ := h.consistent.of_points hpoints
    have hkept := hkeeps kind l hl (by rw [hid]; exact hpoints)
    rw [h'.consistent.registered.eq_of_id_eq hk hkept hid.symm]
    exact hl
  refine ⟨hrows, hlinks, ?_, hedges, hkeyword, fun kind k hpoints => ?_⟩
  · rw [h.projection.nodes_eq, h'.projection.nodes_eq, List.filter_map, List.filter_map]
    exact congrArg (List.map Node.of) hrows
  · rw [h.projection.mem_keywords, h'.projection.mem_keywords]
    exact hkeyword kind k hpoints

/-! ## Confined changes -/

/-- From one memory to the other, only the named notes and only keywords of their owner changed. -/
structure Confined (owner : Option Identifier) (named : Identifier → Prop) (m m' : Memory) :
    Prop where
  untouched : ∀ note, ¬named note → Untouched note m m'
  keyword_iff : ∀ k, owner ≠ some k.user →
    (k ∈ m'.relational.keywords ↔ k ∈ m.relational.keywords)
  keywordNode_iff : ∀ k, owner ≠ some k.user → (k ∈ m'.graph.keywords ↔ k ∈ m.graph.keywords)
  /-- The notes of other users are never among the named ones. -/
  others_untouched : ∀ n, owner ≠ some n.user →
    n ∈ m.relational.notes ∨ n ∈ m'.relational.notes → Untouched n.id m m'

namespace Confined

/-- If nothing changes, that is confined to any notes. -/
lemma of_eq (owner : Option Identifier) (named : Identifier → Prop)
    (hrelational : m'.relational = m.relational) (hgraph : m'.graph = m.graph) :
    Confined owner named m m' := by
  have huntouched := fun note => Untouched.of_eq note hrelational hgraph
  exact ⟨fun note _ => huntouched note, fun _ _ => by rw [hrelational], fun _ _ => by rw [hgraph],
    fun n _ _ => huntouched n.id⟩

lemma trans (h : Confined owner named m m') (h' : Confined owner named m' m'') :
    Confined owner named m m'' where
  untouched note hnote := (h.untouched note hnote).trans (h'.untouched note hnote)
  keyword_iff k hk := (h'.keyword_iff k hk).trans (h.keyword_iff k hk)
  keywordNode_iff k hk := (h'.keywordNode_iff k hk).trans (h.keywordNode_iff k hk)
  others_untouched n hn hmem := by
    -- the note is there in the middle, whichever end it is known from
    have hmiddle : n ∈ m'.relational.notes := by
      rcases hmem with hfirst | hlast
      · exact ((h.others_untouched n hn (Or.inl hfirst)).mem_notes_iff rfl).2 hfirst
      · exact ((h'.others_untouched n hn (Or.inr hlast)).mem_notes_iff rfl).1 hlast
    exact (h.others_untouched n hn (Or.inr hmiddle)).trans
      (h'.others_untouched n hn (Or.inl hmiddle))

/-- More notes can be named. -/
lemma mono (h : Confined owner named m m') (hnamed : ∀ note, named note → named' note) :
    Confined owner named' m m' :=
  ⟨fun note hnote => h.untouched note fun hless => hnote (hnamed note hless), h.keyword_iff,
    h.keywordNode_iff, h.others_untouched⟩

end Confined

/-- Between memories in order, a change is confined if the named notes have one owner. -/
lemma InOrder.confined {user : Identifier} (h : InOrder m) (h' : InOrder m')
    (huntouched : ∀ note, ¬named note → Untouched note m m')
    (hkeyword : ∀ k : Keyword, k.user ≠ user →
      (k ∈ m'.relational.keywords ↔ k ∈ m.relational.keywords))
    (howned : ∀ n, n ∈ m.relational.notes ∨ n ∈ m'.relational.notes → named n.id →
      n.user = user) : Confined (some user) named m m' := by
  have hother : ∀ {other : Identifier}, some user ≠ some other → other ≠ user :=
    fun hne heq => hne (congrArg some heq.symm)
  refine ⟨huntouched, fun k hk => hkeyword k (hother hk), fun k hk => ?_, fun n hn hmem => ?_⟩
  · rw [h.projection.mem_keywords, h'.projection.mem_keywords]
    exact hkeyword k (hother hk)
  · exact huntouched n.id fun hnamed => hother hn (howned n hmem hnamed)

/-! ## Single changes -/

/-- The edges that a note gains are not those of another one. -/
lemma Renewed.edgesOf_eq {note : Note} {title : Keyword} {linked : List Keyword}
    {other : Identifier} (h : Renewed m note title linked m')
    (hp : Projection m.relational m.graph) (hne : other ≠ note.id) :
    m'.graph.edgesOf other = m.graph.edgesOf other :=
  (h.gains hp).edgesOf_of_ne (fun _ he => note_eq_of_mem he) hne

/-- Writing a note anew is confined to it, if a note that had its identifier was of its user. -/
lemma Renewed.confined {note : Note} {title : Keyword} {linked : List Keyword}
    (h : Renewed m note title linked m') (hm : InOrder m)
    (hprevious : ∀ n ∈ m.relational.notes, n.id = note.id → n.user = note.user) :
    Confined (some note.user) (· = note.id) m m' := by
  have hm' : InOrder m' := ⟨h.consistent hm.consistent, h.projection hm.consistent hm.projection⟩
  refine hm.confined hm' (fun other hne => ?_) (fun k hk => ?_) (fun n hn hid => ?_)
  · refine hm.untouched hm' ?_ ?_ (h.edgesOf_eq hm.projection hne) fun _ k hk _ => h.keeps hk
    · rw [h.notes_eq]
      exact Keyed.filter_put_of_ne (Ne.symm hne) _
    · rw [h.links_eq]
      exact Relational.filter_links_replaceLinks hne _ _
  · rw [h.mem_keywords]
    refine ⟨fun hmem => hmem.resolve_right ?_, Or.inl⟩
    intro hnew
    rcases hnew with hlinked | rfl
    · exact hk (h.user_eq k hlinked)
    · exact hk h.title_user
  · rcases hn with hn | hn
    · exact hprevious n hn hid
    · rcases (h.mem_notes hm.consistent n).1 hn with rfl | ⟨-, hne⟩
      · rfl
      · exact absurd hid hne

/-- Writing a note whose links stay is confined to it. -/
lemma Kept.confined {previous note : Note} (h : Kept m previous note m') (hm : Tidy m) :
    Confined (some note.user) (· = note.id) m m' := by
  have hm' : InOrder m' := ⟨h.consistent hm, h.projection hm⟩
  refine hm.inOrder.confined hm' (fun other hne => ?_) (fun k _ => ?_) (fun n hn hid => ?_)
  · refine hm.inOrder.untouched hm' ?_ ?_ ?_ fun _ k hk _ => ?_
    · rw [h.relational_eq]
      exact Keyed.filter_put_of_ne (Ne.symm hne) _
    · rw [h.links_eq]
    · rw [h.graph_eq]
      rfl
    · rw [h.keywords_eq]
      exact hk
  · rw [h.keywords_eq]
  · rcases hn with hn | hn
    · rcases h.eq_or_mem hm hn with rfl | hn
      · exact h.user_eq.symm
      · rcases (h.mem_notes hm n).1 hn with rfl | ⟨-, hne⟩
        · rfl
        · exact absurd hid hne
    · rcases (h.mem_notes hm n).1 hn with rfl | ⟨-, hne⟩
      · rfl
      · exact absurd hid hne

/-- Dropping a note is confined to it. -/
lemma Dropped.confined {note : Note} (h : Dropped m note m') (hm : Tidy m) :
    Confined (some note.user) (· = note.id) m m' := by
  have hm' : InOrder m' := ⟨h.consistent hm, h.projection hm⟩
  refine hm.inOrder.confined hm' (fun other hne => ?_) (fun k _ => ?_) (fun n hn hid => ?_)
  · refine hm.inOrder.untouched hm' ?_ ?_ ?_ fun _ k hk _ => ?_
    · rw [h.relational_eq]
      exact Keyed.filter_erase_of_ne hne _
    · rw [h.relational_eq]
      show (m.relational.links.filter _).filter _ = _
      rw [List.filter_filter]
      refine List.filter_congr fun link _ => ?_
      by_cases hlink : link.1 = other <;> simp [hlink, hne]
    · rw [h.graph_eq]
      exact Graph.edgesOf_unlink_of_ne hne _
    · rw [h.keywords_eq]
      exact hk
  · rw [h.keywords_eq]
  · rcases hn with hn | hn
    · rw [Keyed.eq_of_key_eq hm.consistent.notes_nodup hn h.mem hid]
    · exact absurd hid ((h.mem_notes n).1 hn).2

/-- Dropping unused keywords leaves all notes alone: none of them refers to one that goes. -/
lemma Cleaned.confined {user : Identifier} {names : List String}
    (h : Cleaned m user names m') (hm : InOrder m) :
    Confined (some user) (fun _ => False) m m' := by
  have hc := hm.consistent
  have hm' : InOrder m' := ⟨h.consistent hc, h.projection hc hm.projection⟩
  refine hm.confined hm' (fun note _ => ?_) (fun k hk => ?_) (fun n _ hnone => hnone.elim)
  · refine hm.untouched hm' ?_ ?_ ?_ fun kind k hk hpoints => ?_
    · rw [h.notes_eq hc]
    · rw [h.links_eq hc]
    · rw [Graph.edgesOf, h.edges_eq hc hm.projection]
      rfl
    · exact h.mem_of_isReferenced hc hk (Relational.isReferenced_iff.2 ⟨note, kind, hpoints⟩)
  · rw [h.mem_keywords hc]
    refine ⟨And.left, fun hmem => ⟨hmem, ?_⟩⟩
    rw [← Bool.not_eq_true, Relational.isUnused_iff]
    exact fun hunused => hk hunused.1

/-! ## Operations -/

lemma Created.confined {note : Note} (h : Created m note m') (hm : Tidy m) :
    Confined (some note.user) (· = note.id) m m' := by
  obtain ⟨title, linked, hrenewed⟩ := h.exists_renewed
  exact hrenewed.confined hm.inOrder fun n hn hid => absurd hid (h.new n hn)

lemma Updated.confined {previous note : Note} (h : Updated m previous note m') (hm : Tidy m) :
    Confined (some note.user) (· = note.id) m m' := by
  obtain ⟨written, names, hwritten, -, hcleaned⟩ := h.exists_cleaned
  obtain ⟨hconsistent, hprojection⟩ := hwritten.consistent hm
  have hfirst : Confined (some note.user) (· = note.id) m written := by
    cases hwritten with
    | renewed title linked hrenewed =>
      refine hrenewed.confined hm.inOrder fun n hn hid => ?_
      rw [Keyed.eq_of_key_eq hm.consistent.notes_nodup hn h.mem (hid.trans h.id_eq), h.user_eq]
    | kept hkept => exact hkept.confined hm
  exact hfirst.trans ((hcleaned.confined ⟨hconsistent, hprojection⟩).mono fun _ => False.elim)

lemma Deleted.confined {note : Note} (h : Deleted m note m') (hm : Tidy m) :
    Confined (some note.user) (· = note.id) m m' := by
  obtain ⟨dropped, names, hdropped, hcleaned, -⟩ := h.exists_cleaned
  have hm' : InOrder dropped := ⟨hdropped.consistent hm, hdropped.projection hm⟩
  exact (hdropped.confined hm).trans ((hcleaned.confined hm').mono fun _ => False.elim)

/-- Deleting notes of one user is confined to them. -/
lemma confined_of_deletions {notes : List Note} {user : Identifier} {u : PUnit}
    (h : (notes.forM fun note => delete direct note.id).outcome m = (.ok u, m')) (hm : Tidy m)
    (howned : ∀ n ∈ m.relational.notes, n.id ∈ notes.map (·.id) → n.user = user) :
    Confined (some user) (· ∈ notes.map (·.id)) m m' := by
  induction notes generalizing m with
  | nil =>
    cases h
    exact .of_eq _ _ rfl rfl
  | cons note rest ih =>
    obtain ⟨⟨⟩, middle, hfirst, hrest⟩ := Action.outcome_bind_eq_ok.1 h
    obtain ⟨first, hid, hdeleted⟩ := exists_deleted hfirst hm
    have hconfined := hdeleted.confined hm
    have huser : first.user = user := by
      obtain ⟨dropped, names, hdropped, -⟩ := hdeleted.exists_cleaned
      exact howned first hdropped.mem (by simp [hid])
    rw [huser] at hconfined
    -- the rest is deleted from a memory that has no other notes than before
    have hremaining : ∀ n ∈ middle.relational.notes, n.id ∈ rest.map (·.id) → n.user = user :=
      fun n hn hnamed => howned n ((hdeleted.mem_notes hm n).1 hn).1 (by simp [hnamed])
    refine (hconfined.mono ?_).trans
      ((ih hrest (tidy_of_delete hfirst hm) hremaining).mono ?_)
    · rintro _ rfl
      simp [hid]
    · intro n hn
      exact List.mem_cons_of_mem _ hn

/-- The notes of a merge have one owner. -/
lemma confined_of_merge {request : MergeRequest} {result : Note}
    (h : (merge direct request).outcome m = (.ok result, m')) (hm : Tidy m)
    (hfresh : m'.supply.Fresh) :
    (∃ target ∈ m.relational.notes, target.id = request.target ∧ target.user = request.user) ∧
      Confined (some request.user) (fun id => id = request.target ∨ id ∈ request.sources)
        m m' := by
  obtain ⟨target, sources, m₁, -, htarget, hsources, hupdated, hdeleted⟩ := exists_of_merge h
  obtain ⟨hmem, hid, huser⟩ := of_outcome_ownedNote htarget
  obtain ⟨hids, howned⟩ := of_outcome_mapM_ownedNote hsources
  have hrows : ∀ n ∈ m.relational.notes, n.id ∈ sources.map (·.id) → n.user = request.user := by
    intro n hn hnamed
    obtain ⟨source, hsource, hsame⟩ := List.mem_map.1 hnamed
    obtain ⟨hrow, howner⟩ := howned source hsource
    rw [Keyed.eq_of_key_eq hm.consistent.notes_nodup hn hrow hsame.symm]
    exact howner
  refine ⟨⟨target, hmem, hid, huser⟩, ?_⟩
  -- what is updated at most is the target, which keeps its user
  have hfirst : Tidy m₁ ∧ Confined (some request.user) (· = request.target) m m₁ ∧
      ∀ n ∈ m₁.relational.notes, n.id ∈ sources.map (·.id) → n.user = request.user := by
    rcases hupdated with ⟨-, -, rfl⟩ | ⟨appended, -, hupdate⟩
    · exact ⟨hm, .of_eq _ _ rfl rfl, hrows⟩
    · have hsupply := (lasting_tidy.deletions hdeleted).1
      rw [hsupply] at hfresh
      obtain ⟨previous, hprevious, hupdated⟩ := exists_updated hupdate hm hfresh
      have hsame : previous = target :=
        Keyed.eq_of_key_eq hm.consistent.notes_nodup hupdated.mem hmem hprevious
      have howner : result.user = request.user := by rw [hupdated.user_eq, hsame, huser]
      have hconfined := hupdated.confined hm
      rw [howner, hupdated.id_eq, hsame, hid] at hconfined
      refine ⟨hupdated.tidy hm, hconfined, fun n hn hnamed => ?_⟩
      rcases (hupdated.mem_notes hm n).1 hn with rfl | ⟨hn, -⟩
      · exact howner
      · exact hrows n hn hnamed
  obtain ⟨hm₁, hconfined, hremaining⟩ := hfirst
  refine (hconfined.mono fun _ => Or.inl).trans
    ((confined_of_deletions hdeleted hm₁ hremaining).mono ?_)
  rw [hids]
  exact fun _ => Or.inr

/-! ## Calls -/

namespace Change

variable {α : Type}

/-- The notes that an operation with a result is about: the one created, updated or deleted, or the
target and the sources of a merge. -/
def Names : Change α → Except Fault α → Identifier → Prop
  | .create _, result, note => result = .ok note
  | .update request, _, note => note = request.note
  | .delete deleted, _, note => note = deleted
  | .merge request, _, note => note = request.target ∨ note ∈ request.sources

/-- The user whose notes an operation is about, if they are there. -/
def owner? (rows : Relational) : Change α → Option Identifier
  | .create request => some request.user
  | .update request => (rows.note? request.note).map (·.user)
  | .delete note => (rows.note? note).map (·.user)
  | .merge request => (rows.note? request.target).map (·.user)

/-- An operation that comes to an end is confined to the notes it names. -/
lemma confined_direct (change : Change α) {a : α} (hm : Tidy m)
    (h : change.direct.outcome m = (.ok a, m')) (hfresh : m'.supply.Fresh) :
    Confined (change.owner? m.relational) (change.Names (.ok a)) m m' := by
  have hfound : ∀ {n : Note} {id : Identifier}, n ∈ m.relational.notes → n.id = id →
      m.relational.note? id = some n := by
    rintro n _ hn rfl
    exact Keyed.find?_key hm.consistent.notes_nodup hn
  cases change with
  | create request =>
    obtain ⟨note, rfl, huser, -, hcreated⟩ := exists_created h hm hfresh
    have hconfined := hcreated.confined hm
    rw [huser] at hconfined
    exact hconfined.mono fun _ hid => congrArg Except.ok hid.symm
  | update request =>
    obtain ⟨previous, hid, hupdated⟩ := exists_updated h hm hfresh
    have hconfined := hupdated.confined hm
    rw [hupdated.user_eq, hupdated.id_eq, hid] at hconfined
    rw [owner?, hfound hupdated.mem hid]
    exact hconfined
  | delete id =>
    obtain ⟨note, hid, hdeleted⟩ := exists_deleted h hm
    obtain ⟨dropped, names, hdropped, -⟩ := hdeleted.exists_cleaned
    have hconfined := hdeleted.confined hm
    rw [hid] at hconfined
    rw [owner?, hfound hdropped.mem hid]
    exact hconfined
  | merge request =>
    obtain ⟨⟨target, hmem, hid, huser⟩, hconfined⟩ := confined_of_merge h hm hfresh
    rw [owner?, hfound hmem hid, Option.map_some, huser]
    exact hconfined

/-- A call on a tidy memory is confined to the notes it names, whether it succeeds or fails. -/
lemma confined_call_of_tidy (change : Change α) {world : World} (hm : Tidy world.store)
    (hfresh : (change.call.outcome world).2.store.supply.Fresh) :
    Confined (change.owner? world.store.relational) (change.Names (change.call.outcome world).1)
      world.store (change.call.outcome world).2.store := by
  obtain ⟨hresult, hstore⟩ := change.outcome_call world
  rw [hstore] at hfresh
  rw [hresult, hstore]
  cases houtcome : change.direct.outcome world.store with
  | mk r m' =>
    rw [houtcome] at hfresh
    cases r with
    | ok a => exact change.confined_direct hm houtcome hfresh
    | error fault => exact .of_eq _ _ rfl rfl

/-- A call uses the supply further. -/
lemma precedes_call (change : Change α) (world : World) :
    world.store.supply.Precedes (change.call.outcome world).2.store.supply := by
  rw [(change.outcome_call world).2, Memory.supply_settled]
  exact Memory.precedes_of_matches world.store change.matches_direct

/-- A supply that counts does not repeat itself in a call either. -/
lemma fresh_of_counting (change : Change α) (calls : List Call) {call : Action World α}
    (hcall : change.call = call)
    (hused : (call.outcome
      (run calls (Memory.empty counting))).2.store.supply.identifiersUsed ≤ 2 ^ 128) :
    (call.outcome (run calls (Memory.empty counting))).2.store.supply.Fresh := by
  have hprecedes := change.precedes_call (run calls (Memory.empty counting))
  rw [hcall] at hprecedes
  exact Store.fresh_of_counting
    (hprecedes.identifier_eq.trans (precedes_run _ _).identifier_eq) hused

end Change

/-- After every run from empty stores, a call changes only the notes it names and only keywords of
their owner. -/
theorem confined_call (supply : Supply) (calls : List Call) {α : Type} (change : Change α)
    (hfresh : (change.call.outcome (run calls (Memory.empty supply))).2.store.supply.Fresh) :
    Confined (change.owner? (run calls (Memory.empty supply)).store.relational)
      (change.Names (change.call.outcome (run calls (Memory.empty supply))).1)
      (run calls (Memory.empty supply)).store
      (change.call.outcome (run calls (Memory.empty supply))).2.store := by
  have hbefore := (change.precedes_call _).fresh hfresh
  exact change.confined_call_of_tidy (tidy_run calls (tidy_empty supply) hbefore) hfresh

/-- The merge of the notes of the first user. -/
def gathering : Change Note :=
  .merge { user := .ofNat 100, target := .ofNat 1, sources := [.ofNat 8] }

theorem confined_call_gathering :
    (gathering.call.outcome (run sharing (Memory.empty counting))).2.store.supply.Fresh ∧
      (run sharing (Memory.empty counting)).store.relational.notes.map (·.title) =
        ["A", "B", "Untitled 1"] ∧
      (gathering.call.outcome (run sharing (Memory.empty counting))).2.store.relational.notes.map
        (·.title) = ["A", "B"] ∧
      gathering.owner? (run sharing (Memory.empty counting)).store.relational =
        some (.ofNat 100) ∧
      Confined (gathering.owner? (run sharing (Memory.empty counting)).store.relational)
        (gathering.Names (gathering.call.outcome (run sharing (Memory.empty counting))).1)
        (run sharing (Memory.empty counting)).store
        (gathering.call.outcome (run sharing (Memory.empty counting))).2.store := by
  have hfresh : (gathering.call.outcome
      (run sharing (Memory.empty counting))).2.store.supply.Fresh :=
    fresh_of_counting
      ((gathering.precedes_call _).identifier_eq.trans (precedes_run _ _).identifier_eq)
      (by decide +kernel)
  exact ⟨hfresh, by decide +kernel, by decide +kernel, by decide +kernel,
    confined_call counting sharing gathering hfresh⟩

end LinkedNotes.Store
