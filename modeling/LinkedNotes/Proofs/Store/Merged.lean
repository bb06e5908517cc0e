import LinkedNotes.Proofs.Note.Joined
import LinkedNotes.Proofs.Store.Reworded

/-!
# A merge loses nothing

A merge appends the texts of its sources to the target and then deletes the sources. Each deletion
drops keywords that no note refers to any more, but never one that the target has come to need. So
the target has all the texts in the end, and links to all they linked to.
-/

namespace LinkedNotes

/-- The sources are some notes, each once, and the target is not one of them. -/
def MergeRequest.IsProper (request : MergeRequest) : Prop :=
  request.sources ≠ [] ∧ request.sources.Nodup ∧ request.target ∉ request.sources

/-- The notes of a request in the order in which they are looked at. -/
def MergeRequest.notes (request : MergeRequest) : List Identifier :=
  request.target :: request.sources

namespace Service

variable {request : MergeRequest} {fault : Fault}

lemma mergeFault?_eq_none : mergeFault? request = none ↔ request.IsProper := by
  unfold mergeFault? MergeRequest.IsProper
  split_ifs <;> simp_all

/-- A request that is not proper is invalid input. -/
lemma exists_reason_of_mergeFault? (h : mergeFault? request = some fault) :
    ∃ reason, fault = .invalidInput reason := by
  unfold mergeFault? at h
  split_ifs at h <;> exact ⟨_, (Option.some.inj h).symm⟩

/-- It is refused before the backend is asked for anything. -/
lemma merge_eq_throw {m : Type → Type} [Monad m] [MonadExceptOf Fault m] (backend : Backend m)
    (h : mergeFault? request = some fault) : merge backend request = throw fault := by
  rw [merge, h]

end Service

namespace Store

open Service
open Memory (World direct service)

variable {m m' : Memory} {target note : Note} {sources : List Note}

/-! ## What is gone -/

/-- Neither store has anything of the note. -/
structure Lacks (m : Memory) (id : Identifier) : Prop where
  row : ∀ n ∈ m.relational.notes, n.id ≠ id
  links : ∀ link ∈ m.relational.links, link.1 ≠ id
  node : ∀ node ∈ m.graph.nodes, node.note ≠ id
  edges : ∀ e ∈ m.graph.edges, e.note ≠ id

/-- What has no row is gone from both stores. -/
lemma Tidy.lacks (hm : Tidy m) {id : Identifier} (h : ∀ n ∈ m.relational.notes, n.id ≠ id) :
    Lacks m id where
  row := h
  links := by
    intro link hlink
    obtain ⟨n, hn, -, -, hid, -⟩ := hm.consistent.refers link hlink
    rw [← hid]
    exact h n hn
  node := by
    rw [hm.projection.nodes_eq]
    intro node hnode
    obtain ⟨n, hn, rfl⟩ := List.mem_map.1 hnode
    exact h n hn
  edges := by
    intro e he
    obtain ⟨k, -, -, hpoints⟩ := (hm.projection.mem_edges e).1 he
    obtain ⟨n, hn, -, -, hid, -⟩ := hm.consistent.of_points hpoints
    rw [← hid]
    exact h n hn

/-! ## Deletions -/

/-- While the graph can be written, notes that are there can be deleted one after the other. -/
lemma exists_outcome_deletions (hm : Tidy m) (hwritable : m.graphReadOnly = false)
    (hmem : ∀ source ∈ sources, ∃ row ∈ m.relational.notes, row.id = source.id)
    (hnodup : (sources.map (·.id)).Nodup) :
    ∃ m', (sources.forM fun source => delete direct source.id).outcome m = (.ok ⟨⟩, m') ∧
      ∀ n, n ∈ m'.relational.notes ↔ n ∈ m.relational.notes ∧ n.id ∉ sources.map (·.id) := by
  induction sources generalizing m with
  | nil => exact ⟨m, rfl, fun n => by simp⟩
  | cons source rest ih =>
    rw [List.map_cons, List.nodup_cons] at hnodup
    obtain ⟨row, hrow, hid⟩ := hmem source List.mem_cons_self
    have hfound : m.relational.note? source.id = some row := by
      rw [← hid]
      exact Keyed.find?_key hm.consistent.notes_nodup hrow
    obtain ⟨middle, hfirst, hstill⟩ := exists_outcome_delete hfound hwritable
    obtain ⟨deleted, hsame, hdeleted⟩ := exists_deleted hfirst hm
    have hnotes := hdeleted.mem_notes hm
    rw [hsame] at hnotes
    -- the others do not have the identifier, so they are there still
    have hothers : ∀ other ∈ rest, ∃ row ∈ middle.relational.notes, row.id = other.id := by
      intro other hother
      obtain ⟨row, hrow, hid⟩ := hmem other (List.mem_cons_of_mem _ hother)
      refine ⟨row, (hnotes row).2 ⟨hrow, fun heq => hnodup.1 ?_⟩, hid⟩
      rw [← heq, hid]
      exact List.mem_map_of_mem hother
    obtain ⟨m', hrest, hleft⟩ := ih (tidy_of_delete hfirst hm) hstill hothers hnodup.2
    refine ⟨m', (Action.outcome_bind_ok hfirst).trans hrest, fun n => ?_⟩
    rw [hleft, hnotes, List.map_cons, List.mem_cons, not_or, and_assoc]

/-! ## Merging -/

/-- The note is there as the target, and has lost nothing of what it was to take over from the
sources. -/
structure Absorbed (m : Memory) (target : Note) (sources : List Note) (note : Note) : Prop where
  committed : note ∈ m.relational.notes
  /-- It has kept all but its text, what goes with that, and when it was updated. -/
  kept : { note with
    updated := target.updated, text := target.text, links := target.links } = target
  /-- If there is something to append, the texts are joined, that of the target first. -/
  text_eq : (∃ source ∈ sources, source.body ≠ "") →
    note.text = Joined.chain (target.text :: sources.map (·.text))
  /-- The target then links to whatever it or a source linked to. -/
  links : (∃ source ∈ sources, source.body ≠ "") → ∀ old ∈ target :: sources,
    ∀ name ∈ Wikilink.targets old.body, Links m note name
  /-- If there is nothing to append, the target stays as it was. -/
  eq_target : (∀ source ∈ sources, source.body = "") → note = target

lemma Absorbed.id_eq (h : Absorbed m target sources note) : note.id = target.id := by
  have hid := congrArg Note.id h.kept
  exact hid

/-- A target that is left alone keeps what it took over. -/
lemma Absorbed.of_untouched (h : Absorbed m target sources note) (hm' : Tidy m')
    (huntouched : Untouched note.id m m') : Absorbed m' target sources note where
  committed := (huntouched.mem_notes_iff rfl).2 h.committed
  kept := h.kept
  text_eq := h.text_eq
  links hsome old hold name hname :=
    (h.links hsome old hold name hname).of_untouched hm' huntouched
  eq_target := h.eq_target

/-- There is nothing to append if the sources have no text. -/
lemma chain_texts_eq_none :
    Joined.chain (sources.map (·.text)) = none ↔ ∀ source ∈ sources, source.body = "" := by
  rw [Joined.chain_eq_none_iff]
  constructor
  · intro h source hsource
    cases htext : source.text with
    | none =>
      rw [Note.body, htext]
      rfl
    | some text =>
      rw [Note.body, htext]
      exact h text (List.mem_map.2 ⟨source, hsource, htext⟩)
  · intro h text htext
    obtain ⟨source, hsource, hsome⟩ := List.mem_map.1 htext
    have hbody := h source hsource
    rw [Note.body, hsome] at hbody
    exact hbody

/-- With nothing to append, the target is left as it is. -/
lemma absorbed_of_none (htarget : target ∈ m.relational.notes)
    (h : Joined.chain (sources.map (·.text)) = none) : Absorbed m target sources target := by
  have hnothing : ¬∃ source ∈ sources, source.body ≠ "" := by
    rintro ⟨source, hsource, hbody⟩
    exact hbody (chain_texts_eq_none.1 h source hsource)
  exact ⟨htarget, rfl, fun hsome => absurd hsome hnothing, fun hsome => absurd hsome hnothing,
    fun _ => rfl⟩

/-- With something to append, the target gets all the texts and their links. -/
lemma Reworded.absorbed {appended : String}
    (h : Reworded m target (Joined.append target.text (some appended)) note m') (hm : Tidy m)
    (hjoined : Joined.chain (sources.map (·.text)) = some appended) :
    Absorbed m' target sources note := by
  have htext : note.text = Joined.chain (target.text :: sources.map (·.text)) :=
    h.text_eq.trans (Joined.append_eq_chain hjoined target.text)
  obtain ⟨whole, hwhole⟩ := Joined.exists_chain_cons hjoined target.text
  have hbody : note.body = whole := by rw [Note.body, htext, hwhole, Option.getD_some]
  refine ⟨(h.updated.mem_notes hm note).2 (Or.inl rfl), h.kept, fun _ => htext, ?_, ?_⟩
  · intro _ old hold name hname
    have hpart : old.text ∈ (target :: sources).map (·.text) := List.mem_map_of_mem hold
    refine h.links name ?_
    rw [hbody]
    exact Joined.targets_subset_chain hwhole hpart hname
  · intro hnone
    rw [chain_texts_eq_none.2 hnone] at hjoined
    cases hjoined

/-- After the first half of a merge, the target has taken over the texts and no other note has
changed. -/
structure Appended (m : Memory) (target : Note) (sources : List Note) (note : Note)
    (m' : Memory) : Prop where
  tidy : Tidy m'
  mem_notes : ∀ n, n ∈ m'.relational.notes ↔
    n = note ∨ (n ∈ m.relational.notes ∧ n.id ≠ target.id)
  absorbed : Absorbed m' target sources note

section Halves

variable {request : MergeRequest} (hm : Tidy m)

include hm

lemma appended_of_none (htarget : target ∈ m.relational.notes)
    (hjoined : Joined.chain (sources.map (·.text)) = none) :
    Appended m target sources target m := by
  refine ⟨hm, fun n => ?_, absorbed_of_none htarget hjoined⟩
  constructor
  · intro hn
    by_cases hid : n.id = target.id
    · exact Or.inl (Keyed.eq_of_key_eq hm.consistent.notes_nodup hn htarget hid)
    · exact Or.inr ⟨hn, hid⟩
  · rintro (rfl | ⟨hn, -⟩)
    · exact htarget
    · exact hn

lemma Reworded.appended {appended : String}
    (h : Reworded m target (Joined.append target.text (some appended)) note m')
    (hjoined : Joined.chain (sources.map (·.text)) = some appended) :
    Appended m target sources note m' := by
  refine ⟨h.updated.tidy hm, fun n => ?_, h.absorbed hm hjoined⟩
  rw [h.updated.mem_notes hm, h.updated.id_eq]

/-- The first half of a merge always comes to an end, and the deletions are left. -/
lemma exists_appended (ht : m.relational.WellTitled) (hwritable : m.graphReadOnly = false)
    (hproper : request.IsProper) (hmem : target ∈ m.relational.notes)
    (htarget : (ownedNote direct request.user request.target).outcome m = (.ok target, m))
    (hsources : (request.sources.mapM (ownedNote direct request.user)).outcome m =
      (.ok sources, m)) :
    ∃ note m', (merge direct request).outcome m =
        Action.outcome (do sources.forM fun source => delete direct source.id; pure note) m' ∧
      m'.graphReadOnly = false ∧ (m'.supply.Fresh → Appended m target sources note m') := by
  unfold merge
  rw [mergeFault?_eq_none.2 hproper]
  dsimp only
  rw [Action.outcome_bind_ok htarget, Action.outcome_bind_ok hsources]
  cases hjoined : Joined.chain (sources.map (·.text)) with
  | none => exact ⟨target, m, rfl, hwritable, fun _ => appended_of_none hm hmem hjoined⟩
  | some appended =>
    obtain ⟨note, m', hupdate, hstill, hreworded⟩ := exists_reworded hm ht hwritable hmem
      (Joined.append target.text (some appended))
    exact ⟨note, m', Action.outcome_bind_ok hupdate, hstill,
      fun hfresh => (hreworded hfresh).appended hm hjoined⟩

end Halves

/-- What a merge that succeeds leaves in the stores, and tells as the target. -/
structure Merged (m : Memory) (target : Note) (sources : List Note) (note : Note) : Prop
    extends Absorbed m target sources note where
  /-- The sources are gone. -/
  lacks : ∀ source ∈ sources, Lacks m source.id

/-- The second half of a merge deletes the sources and leaves the target alone. -/
lemma Appended.exists_merged {user : Identifier} (h : Appended m target sources note m')
    (hwritable : m'.graphReadOnly = false)
    (hsources : ∀ source ∈ sources, source ∈ m.relational.notes ∧ source.user = user)
    (hnodup : (sources.map (·.id)).Nodup) (hother : target.id ∉ sources.map (·.id)) :
    ∃ m'', (sources.forM fun source => delete direct source.id).outcome m' = (.ok ⟨⟩, m'') ∧
      Merged m'' target sources note := by
  have hrows : ∀ source ∈ sources, source ∈ m'.relational.notes := by
    intro source hsource
    refine (h.mem_notes source).2 (Or.inr ⟨(hsources source hsource).1, fun heq => hother ?_⟩)
    rw [← heq]
    exact List.mem_map_of_mem hsource
  obtain ⟨m'', hdeleted, hleft⟩ := exists_outcome_deletions h.tidy hwritable
    (fun source hsource => ⟨source, hrows source hsource, rfl⟩) hnodup
  have hm'' := (lasting_tidy.deletions hdeleted).2 h.tidy
  have howned : ∀ n ∈ m'.relational.notes, n.id ∈ sources.map (·.id) → n.user = user := by
    intro n hn hnamed
    obtain ⟨source, hsource, hid⟩ := List.mem_map.1 hnamed
    rw [← Keyed.eq_of_key_eq h.tidy.consistent.notes_nodup (hrows source hsource) hn hid]
    exact (hsources source hsource).2
  have huntouched : Untouched note.id m' m'' := by
    refine (confined_of_deletions hdeleted h.tidy howned).untouched note.id ?_
    rw [h.absorbed.id_eq]
    exact hother
  refine ⟨m'', hdeleted, h.absorbed.of_untouched hm'' huntouched, fun source hsource => ?_⟩
  refine hm''.lacks fun n hn heq => ((hleft n).1 hn).2 ?_
  rw [heq]
  exact List.mem_map_of_mem hsource

/-- How a merge can end. -/
inductive MergeEnds (m : Memory) (request : MergeRequest) : Except Fault Note × Memory → Prop where
  | improper {fault : Fault} (h : mergeFault? request = some fault) :
    MergeEnds m request (.error fault, m)
  | refused {fault : Fault} (hproper : request.IsProper)
    (h : m.relational.Gathers request.user request.notes (.error fault)) :
    MergeEnds m request (.error fault, m)
  | merged {target note : Note} {sources : List Note} {m' : Memory} (hproper : request.IsProper)
    (h : m.relational.Gathers request.user request.notes (.ok (target :: sources)))
    (hmerged : Merged m' target sources note) : MergeEnds m request (.ok note, m')

/-- Once the notes are found, a merge succeeds. -/
lemma mergeEnds_of_gathers {request : MergeRequest} (hm : Tidy m) (ht : m.relational.WellTitled)
    (hwritable : m.graphReadOnly = false)
    (hfresh : ((merge direct request).outcome m).2.supply.Fresh) (hproper : request.IsProper)
    (htarget : (ownedNote direct request.user request.target).outcome m = (.ok target, m))
    (hsources : (request.sources.mapM (ownedNote direct request.user)).outcome m =
      (.ok sources, m)) : MergeEnds m request ((merge direct request).outcome m) := by
  obtain ⟨hmem, hid, huser⟩ := of_outcome_ownedNote htarget
  obtain ⟨hids, howned⟩ := of_outcome_mapM_ownedNote hsources
  have hgathers : m.relational.Gathers request.user request.notes (.ok (target :: sources)) := by
    rw [MergeRequest.notes, ← hid, ← hids]
    exact .cons hmem huser (.ok howned)
  obtain ⟨note, middle, hmerge, hstill, happended⟩ :=
    exists_appended hm ht hwritable hproper hmem htarget hsources
  -- a supply that does not repeat itself after the deletions had not done so before them
  have hprecedes := Memory.precedes_of_matches middle fun base =>
    (Action.Matches.forM
      (fun source : Note => (Memory.agrees_direct base).delete source.id) sources).bind
      fun _ => .pure note
  rw [hmerge] at hfresh ⊢
  have hnodup : (sources.map (·.id)).Nodup := hids ▸ hproper.2.1
  have hother : target.id ∉ sources.map (·.id) := hids ▸ hid ▸ hproper.2.2
  obtain ⟨m', hdeleted, hmerged⟩ := (happended (hprecedes.fresh hfresh)).exists_merged hstill
    howned hnodup hother
  rw [Action.outcome_bind_ok hdeleted]
  exact .merged hproper hgathers hmerged

/-- While the graph can be written, a merge ends in one of these ways. -/
theorem mergeEnds {request : MergeRequest} (hm : Tidy m) (ht : m.relational.WellTitled)
    (hwritable : m.graphReadOnly = false)
    (hfresh : ((merge direct request).outcome m).2.supply.Fresh) :
    MergeEnds m request ((merge direct request).outcome m) := by
  cases hfault : mergeFault? request with
  | some fault =>
    rw [merge_eq_throw direct hfault]
    exact .improper hfault
  | none =>
    have hproper := mergeFault?_eq_none.1 hfault
    rcases owns_or_refuses m request.user request.target with
      ⟨target, hmem, hid, huser, htarget⟩ | ⟨fault, hrefuses, htarget⟩
    · obtain ⟨result, hsources, hgathers⟩ := exists_gathers m request.user request.sources
      cases result with
      | ok sources => exact mergeEnds_of_gathers hm ht hwritable hfresh hproper htarget hsources
      | error fault =>
        have hall := hgathers.cons hmem huser
        rw [hid] at hall
        rw [merge, hfault]
        dsimp only
        rw [Action.outcome_bind_ok htarget, Action.outcome_bind_error hsources]
        exact .refused hproper hall
    · rw [merge, hfault]
      dsimp only
      rw [Action.outcome_bind_error htarget]
      exact .refused hproper (.refused hrefuses)

/-! ## Calls -/

/-- What a merge of committed notes comes to, and what is committed then. -/
structure Merging (m : Memory) (request : MergeRequest) (result : Except Fault Note)
    (m' : Memory) : Prop where
  /-- It succeeds if and only if the request is proper and the user has all its notes. -/
  isOk_iff : (∃ note, result = .ok note) ↔
    request.IsProper ∧ ∀ id ∈ request.notes, m.relational.Owns request.user id
  /-- A request that is not proper is refused as invalid input, and whatever the backend is, it is
  not asked for anything. -/
  of_not_isProper : ¬request.IsProper → ∃ reason, result = .error (.invalidInput reason) ∧
    ∀ {n : Type → Type} [Monad n] [MonadExceptOf Fault n] (backend : Backend n),
      merge backend request = throw (.invalidInput reason)
  /-- Otherwise the user is told of the first note that they do not have. -/
  of_not_owns : request.IsProper → ¬(∀ id ∈ request.notes, m.relational.Owns request.user id) →
    ∃ front id back fault, request.notes = front ++ id :: back ∧
      (∀ other ∈ front, m.relational.Owns request.user other) ∧
      m.relational.Refuses request.user id fault ∧ result = .error fault
  /-- If it succeeds, the sources are gone and the target has lost nothing. -/
  exists_merged : ∀ note, result = .ok note → ∃ target sources,
    target ∈ m.relational.notes ∧ target.id = request.target ∧
      (∀ source ∈ sources, source ∈ m.relational.notes) ∧
      sources.map (·.id) = request.sources ∧ Merged m' target sources note

/-- However a merge ends, it comes to what it should. -/
lemma MergeEnds.merging {request : MergeRequest} {outcome : Except Fault Note × Memory}
    (h : MergeEnds m request outcome) (hm : Tidy m) :
    Merging m request outcome.1 (Memory.settled m outcome) := by
  have howns := fun {result} (h : m.relational.Gathers request.user request.notes result) =>
    h.owns_iff hm.consistent.notes_nodup
  have hfails : ∀ {fault : Fault} {note : Note},
      (.error fault : Except Fault Note) ≠ .ok note := nofun
  cases h with
  | @improper fault hfault =>
    have hnot : ¬request.IsProper := by
      rw [← mergeFault?_eq_none, hfault]
      exact nofun
    obtain ⟨reason, rfl⟩ := exists_reason_of_mergeFault? hfault
    show Merging m request (.error _) m
    exact {
      isOk_iff := ⟨fun ⟨_, hok⟩ => absurd hok hfails, fun h => absurd h.1 hnot⟩
      of_not_isProper := fun _ => ⟨reason, rfl, fun backend => merge_eq_throw backend hfault⟩
      of_not_owns := fun hproper => absurd hproper hnot
      exists_merged := fun _ hok => absurd hok hfails }
  | @refused fault hproper hgathers =>
    show Merging m request (.error fault) m
    obtain ⟨front, id, back, hsplit, hfront, hrefuses⟩ := hgathers.of_error
    have hnot : ¬∀ id ∈ request.notes, m.relational.Owns request.user id := by
      rw [howns hgathers]
      rintro ⟨notes, ⟨⟩⟩
    exact {
      isOk_iff := ⟨fun ⟨_, hok⟩ => absurd hok hfails, fun h => absurd h.2 hnot⟩
      of_not_isProper := fun hnot => absurd hproper hnot
      of_not_owns := fun _ _ => ⟨front, id, back, _, hsplit, hfront, hrefuses, rfl⟩
      exists_merged := fun _ hok => absurd hok hfails }
  | @merged target note sources m' hproper hgathers hmerged =>
    show Merging m request (.ok note) m'
    have hall := (howns hgathers).2 ⟨_, rfl⟩
    obtain ⟨hids, hmem⟩ := hgathers.of_ok
    obtain ⟨hid, hids⟩ := List.cons.inj hids
    obtain ⟨htarget, hsources⟩ := List.forall_mem_cons.1 hmem
    exact {
      isOk_iff := ⟨fun _ => ⟨hproper, hall⟩, fun _ => ⟨note, rfl⟩⟩
      of_not_isProper := fun hnot => absurd hproper hnot
      of_not_owns := fun _ hnot => absurd hall hnot
      exists_merged := by
        rintro _ ⟨⟩
        exact ⟨target, sources, htarget.1, hid, fun source hsource => (hsources source hsource).1,
          hids, hmerged⟩ }

/-- After every run from empty stores, if the graph can be written, a merge succeeds exactly when
it should, tells what is wrong otherwise, and loses nothing. -/
theorem merging_run (supply : Supply) (calls : List Call) (request : MergeRequest)
    (hwritable : (run calls (Memory.empty supply)).store.graphReadOnly = false)
    (hfresh : ((service.merge request).outcome
      (run calls (Memory.empty supply))).2.store.supply.Fresh) :
    Merging (run calls (Memory.empty supply)).store request
      ((service.merge request).outcome (run calls (Memory.empty supply))).1
      ((service.merge request).outcome (run calls (Memory.empty supply))).2.store := by
  have hbefore := ((Change.merge request).precedes_call _).fresh hfresh
  obtain ⟨hm, ht⟩ := wellTitled_run supply calls hbefore
  obtain ⟨hresult, hstore⟩ :=
    (Change.merge request).outcome_call (run calls (Memory.empty supply))
  have hcall : (Change.merge request).call = service.merge request := rfl
  rw [hcall] at hresult hstore
  rw [hstore, Memory.supply_settled] at hfresh
  rw [hresult, hstore]
  exact (mergeEnds hm ht hwritable hfresh).merging hm

/-- A source that links to its own title, which will be gone, and to keywords that the target does
not link to. -/
def combining : MergeRequest :=
  { user := .ofNat 100, target := .ofNat 1, sources := [.ofNat 8] }

theorem merging_run_combining :
    (run sharing (Memory.empty counting)).store.graphReadOnly = false ∧
      ((service.merge combining).outcome
        (run sharing (Memory.empty counting))).2.store.supply.Fresh ∧
      ((service.merge combining).outcome
        (run sharing (Memory.empty counting))).1.toOption.map (·.text) =
          some (some "[[B]] [[C]]\n[[B]] [[E]] [[Untitled 1]]") ∧
      Merging (run sharing (Memory.empty counting)).store combining
        ((service.merge combining).outcome (run sharing (Memory.empty counting))).1
        ((service.merge combining).outcome (run sharing (Memory.empty counting))).2.store := by
  have hwritable : (run sharing (Memory.empty counting)).store.graphReadOnly = false := by
    decide +kernel
  have hprecedes := (Change.merge combining).precedes_call (run sharing (Memory.empty counting))
  rw [show (Change.merge combining).call = service.merge combining from rfl] at hprecedes
  have hfresh : ((service.merge combining).outcome
      (run sharing (Memory.empty counting))).2.store.supply.Fresh :=
    fresh_of_counting (hprecedes.identifier_eq.trans (precedes_run _ _).identifier_eq)
      (by decide +kernel)
  exact ⟨hwritable, hfresh, by decide +kernel,
    merging_run counting sharing combining hwritable hfresh⟩

end Store

end LinkedNotes
