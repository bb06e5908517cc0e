import LinkedNotes.Proofs.Store.Outcomes
import LinkedNotes.Proofs.Store.Renewed

/-!
# Titles and placed notes

Before a note is written, the keyword of its title is asked for, which adds it if it is missing
(`Titled`). Then the note is put into rows and graph (`Placed`), and a resync completes that to a
note that is written anew.
-/

namespace LinkedNotes.Store

open Service
open Memory (direct)

variable {m m' : Memory}

/-! ## Titles -/

/-- From one memory to the other, the keyword of a title was asked for. -/
structure Titled (m : Memory) (user : Identifier) (name : String) (title : Keyword)
    (m' : Memory) : Prop where
  notes_eq : m'.relational.notes = m.relational.notes
  links_eq : m'.relational.links = m.relational.links
  graph_eq : m'.graph = m.graph
  precedes : m.supply.Precedes m'.supply
  registered : Registered m'.supply m'.relational.keywords
  grows : m.relational.keywords <+: m'.relational.keywords
  mem_keywords : ∀ k, k ∈ m'.relational.keywords ↔ k ∈ m.relational.keywords ∨ k = title
  user_eq : title.user = user
  name_eq : title.name = name

/-- The keyword of a title that a note has is there. -/
lemma exists_titled {note : Note} (hm : Tidy m) (hnote : note ∈ m.relational.notes) :
    ∃ title, Titled m note.user note.title title m ∧ note.represents = some title.id := by
  obtain ⟨-, title, htitle, hrepresents, huser, hname⟩ := hm.consistent.settles note hnote
  refine ⟨title, ?_, hrepresents⟩
  exact {
    notes_eq := rfl
    links_eq := rfl
    graph_eq := rfl
    precedes := .refl _
    registered := hm.consistent.registered
    grows := ⟨[], List.append_nil _⟩
    mem_keywords := fun k => ⟨Or.inl, fun hk => hk.elim id fun heq => heq ▸ htitle⟩
    user_eq := huser
    name_eq := hname }

/-- The keyword of a new title is found or added. -/
lemma titled_of_titleKeyword {user : Identifier} {name : String} {title : Keyword}
    (h : (titleKeyword direct user name).outcome m = (.ok title, m'))
    (hm : Registered m.supply m.relational.keywords) (hfresh : m'.supply.Fresh) :
    Titled m user name title m' := by
  let taken := m.relational.ensureKeywords user [name] m.supply
  let asked : Memory := { m with relational := taken.1.2, supply := taken.2 }
  have hasked : (discard (direct.ensureKeywords user [name])).outcome m =
      (.ok (), asked) := rfl
  have hfound : (direct.keywordNamed? user name).outcome asked =
      (.ok (asked.relational.keywordNamed? user name), asked) := rfl
  rw [titleKeyword, Action.outcome_bind_ok hasked, Action.outcome_bind_ok hfound] at h
  cases hnamed : asked.relational.keywordNamed? user name with
  | none =>
    rw [hnamed] at h
    cases h
  | some found =>
    rw [hnamed] at h
    obtain ⟨hvalue, hstate⟩ := Prod.mk.inj h
    obtain rfl := Except.ok.inj hvalue
    rw [← hstate] at hfresh ⊢
    obtain ⟨hmem, huser, hname⟩ := Relational.of_keywordNamed?_eq_some hnamed
    have hensures : Relational.Ensures user [name] m.relational m.supply taken.1.1
        asked.relational asked.supply := Relational.ensures_ensureKeywords [name] hm hfresh
    -- the only keyword asked for is the one that is found
    have hnew : ∀ k ∈ taken.1.1, k = found := by
      intro k hk
      obtain ⟨hk', huser'⟩ := hensures.of_mem k hk
      have hsame := List.mem_map_of_mem (f := fun l : Keyword => l.name) hk
      rw [hensures.names_eq, List.mem_singleton] at hsame
      exact hensures.registered.unique k hk' found hmem (huser'.trans huser.symm)
        (hsame.trans hname.symm)
    exact {
      notes_eq := hensures.notes_eq
      links_eq := hensures.links_eq
      graph_eq := rfl
      precedes := hensures.precedes
      registered := hensures.registered
      grows := hensures.grows
      mem_keywords := fun k => by
        constructor
        · intro hk
          exact (hensures.new k hk).imp_right (hnew k)
        · intro hk
          rcases hk with hk | rfl
          · exact hensures.keeps hk
          · exact hmem
      user_eq := huser
      name_eq := hname }

/-- A note is given its title and the keyword of that, or it has them. -/
lemma exists_titled_of_retitle {previous note : Note} {requested : Option String}
    (h : (retitle direct previous requested).outcome m = (.ok note, m')) (hm : Tidy m)
    (hprevious : previous ∈ m.relational.notes) (hfresh : m'.supply.Fresh) :
    ∃ title, Titled m note.user note.title title m' ∧ note.represents = some title.id ∧
      note.id = previous.id ∧ note.user = previous.user ∧
        (note.title = previous.title → note = previous ∧ m' = m) ∧
        (note.title ≠ previous.title → Title.IsTrimmed note.title) := by
  -- three of the four ways through leave the note as it is or fail
  have hsame : note = previous → m' = m → ∃ title, Titled m note.user note.title title m' ∧
      note.represents = some title.id ∧ note.id = previous.id ∧ note.user = previous.user ∧
        (note.title = previous.title → note = previous ∧ m' = m) ∧
        (note.title ≠ previous.title → Title.IsTrimmed note.title) := by
    rintro rfl rfl
    obtain ⟨title, htitled, hrepresents⟩ := exists_titled hm hprevious
    exact ⟨title, htitled, hrepresents, rfl, rfl, fun _ => ⟨rfl, rfl⟩, fun hne => absurd rfl hne⟩
  unfold retitle at h
  cases requested with
  | none =>
    cases h
    exact hsame rfl rfl
  | some requested =>
    dsimp only at h
    cases hnormal : Title.normalize? (some requested) with
    | none =>
      rw [hnormal] at h
      cases h
    | some name =>
      rw [hnormal] at h
      dsimp only at h
      split at h
      · cases h
        exact hsame rfl rfl
      · next hother =>
        obtain ⟨⟨⟩, m₁, hfree, h⟩ := Action.outcome_bind_eq_ok.1 h
        have hquiet := (quiet_requireFree _ _ _).of_outcome_eq hfree
        obtain ⟨title, m₂, htitle, h⟩ := Action.outcome_bind_eq_ok.1 h
        cases h
        rw [hquiet] at htitle
        refine ⟨title, titled_of_titleKeyword htitle hm.consistent.registered hfresh, rfl, rfl, rfl,
          fun heq => absurd heq hother, fun _ => Title.isTrimmed_of_normalize? hnormal⟩

/-! ## Placed notes -/

/-- From one memory to the other, the keyword of the title was asked for and the note was put into
rows and graph. Its links are yet to be written. -/
structure Placed (m : Memory) (note : Note) (title : Keyword) (m' : Memory) : Prop where
  notes_eq : m'.relational.notes = (m.relational.putNote note).notes
  links_eq : m'.relational.links = m.relational.links
  graph_eq : m'.graph = m.graph.putNote note
  precedes : m.supply.Precedes m'.supply
  registered : Registered m'.supply m'.relational.keywords
  grows : m.relational.keywords <+: m'.relational.keywords
  mem_keywords : ∀ k, k ∈ m'.relational.keywords ↔ k ∈ m.relational.keywords ∨ k = title
  title_user : title.user = note.user
  title_name : title.name = note.title
  represents_eq : note.represents = some title.id
  recorded : note.links = Wikilink.intervals note.body
  drawn : m'.supply.Drawn note.id

/-- A note with a title that was asked for is put into rows and graph. -/
lemma Titled.placed {after : Memory} {note : Note} {title : Keyword}
    (h : Titled m note.user note.title title m') (hprecedes : m'.supply.Precedes after.supply)
    (hrelational : after.relational = m'.relational.putNote note)
    (hgraph : after.graph = m'.graph.putNote note)
    (hrepresents : note.represents = some title.id)
    (hrecorded : note.links = Wikilink.intervals note.body)
    (hdrawn : after.supply.Drawn note.id) : Placed m note title after where
  notes_eq := by
    rw [hrelational]
    show Keyed.put _ note m'.relational.notes = Keyed.put _ note m.relational.notes
    rw [h.notes_eq]
  links_eq := by
    rw [hrelational]
    exact h.links_eq
  graph_eq := by rw [hgraph, h.graph_eq]
  precedes := h.precedes.trans hprecedes
  registered := by
    rw [hrelational]
    exact h.registered.mono hprecedes
  grows := by
    rw [hrelational]
    exact h.grows
  mem_keywords := by
    rw [hrelational]
    exact h.mem_keywords
  title_user := h.user_eq
  title_name := h.name_eq
  represents_eq := hrepresents
  recorded := hrecorded
  drawn := hdrawn

/-- A resync completes what was placed. -/
lemma Placed.exists_renewed {after : Memory} {note : Note} {title : Keyword} {edges : List Edge}
    (hplaced : Placed m note title m')
    (h : (resync direct note).outcome m' = (.ok edges, after)) (hfresh : after.supply.Fresh) :
    ∃ linked, Renewed m note title linked after := by
  have hsome : note.represents.isSome = true := by
    rw [hplaced.represents_eq]
    rfl
  obtain ⟨linked, store, hensures, hrelational, hgraph⟩ :=
    exists_of_outcome_resync h hplaced.registered hfresh hsome
  -- the title is still found, since no other keyword of the user has its name
  have htitle : store.keywordNamed? note.user note.title = some title :=
    (Relational.keywordNamed?_eq_some hensures.registered).2
      ⟨hensures.keeps ((hplaced.mem_keywords title).2 (Or.inr rfl)), hplaced.title_user,
        hplaced.title_name⟩
  rw [htitle, hplaced.graph_eq] at hgraph
  have hlinks : store.links = m.relational.links := hensures.links_eq.trans hplaced.links_eq
  refine ⟨linked, ?_⟩
  exact {
    notes_eq := by
      rw [hrelational]
      exact hensures.notes_eq.trans hplaced.notes_eq
    links_eq := by
      rw [hrelational]
      unfold Relational.replaceLinks Relational.unlink
      rw [hlinks]
    graph_eq := hgraph
    precedes := hplaced.precedes.trans hensures.precedes
    registered := by
      rw [hrelational]
      exact hensures.registered
    grows := by
      rw [hrelational]
      exact hplaced.grows.trans hensures.grows
    mem_keywords := fun k => by
      rw [hrelational]
      show k ∈ store.keywords ↔ _
      constructor
      · intro hk
        rcases hensures.new k hk with hk | hk
        · exact ((hplaced.mem_keywords k).1 hk).imp_right Or.inr
        · exact Or.inr (Or.inl hk)
      · intro hk
        rcases hk with hk | hk | hk
        · exact hensures.keeps ((hplaced.mem_keywords k).2 (Or.inl hk))
        · exact (hensures.of_mem k hk).1
        · exact hensures.keeps ((hplaced.mem_keywords k).2 (Or.inr hk))
    user_eq := fun k hk => (hensures.of_mem k hk).2
    names_eq := hensures.names_eq
    title_user := hplaced.title_user
    title_name := hplaced.title_name
    represents_eq := hplaced.represents_eq
    recorded := hplaced.recorded
    drawn := hensures.precedes.drawn hplaced.drawn }

end LinkedNotes.Store
