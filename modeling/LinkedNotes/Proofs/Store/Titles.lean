import LinkedNotes.Proofs.Store.Reachable

/-!
# Notes in good form

No two notes of a user have the same title, and every title is trimmed. A title is written only
after it was looked for among the other notes, in rows that hold all of them, so this lasts through
every run. With what is known of a tidy memory, every note is in good form after every run
(`wellFormed_run`): it represents the keyword of its title and has the links of its text recorded.
-/

namespace LinkedNotes.Store

open Service
open Memory (direct)

namespace Relational

/-- No two notes of a user have the same title, and titles are trimmed. -/
structure WellTitled (rows : Relational) : Prop where
  unique : ∀ n ∈ rows.notes, ∀ o ∈ rows.notes, n.user = o.user → n.title = o.title → n = o
  trimmed : ∀ n ∈ rows.notes, Title.IsTrimmed n.title

lemma isTitleTaken_eq_false {rows : Relational} {note : Note} :
    rows.isTitleTaken note = false ↔
      ∀ n ∈ rows.notes, n.id ≠ note.id → n.user = note.user → n.title ≠ note.title := by
  simp [isTitleTaken]

variable {rows rows' : Relational} {note : Note}

/-- A note with a free title is written among the others. -/
lemma WellTitled.put (h : rows.WellTitled) (hfree : rows.isTitleTaken note = false)
    (htrimmed : Title.IsTrimmed note.title)
    (hmem : ∀ n, n ∈ rows'.notes ↔ n = note ∨ (n ∈ rows.notes ∧ n.id ≠ note.id)) :
    rows'.WellTitled := by
  rw [isTitleTaken_eq_false] at hfree
  constructor
  · intro n hn o ho huser htitle
    rcases (hmem n).1 hn with rfl | ⟨hn, hne⟩ <;> rcases (hmem o).1 ho with rfl | ⟨ho, hne'⟩
    · rfl
    · exact absurd htitle.symm (hfree o ho hne' huser.symm)
    · exact absurd htitle (hfree n hn hne huser)
    · exact h.unique n hn o ho huser htitle
  · intro n hn
    rcases (hmem n).1 hn with rfl | ⟨hn, -⟩
    · exact htrimmed
    · exact h.trimmed n hn

/-- Fewer notes are still well titled. -/
lemma WellTitled.of_subset (h : rows.WellTitled) (hsubset : rows'.notes ⊆ rows.notes) :
    rows'.WellTitled :=
  ⟨fun n hn o ho => h.unique n (hsubset hn) o (hsubset ho), fun n hn => h.trimmed n (hsubset hn)⟩

end Relational

/-! ## Titles last -/

section Changes

variable {m m' : Memory} (ht : m.relational.WellTitled) (hm : Tidy m)

include ht hm

lemma Created.wellTitled {note : Note} (h : Created m note m') : m'.relational.WellTitled :=
  ht.put h.free h.trimmed (h.mem_notes hm)

/-- A title that stays was trimmed, and a new one is. -/
lemma Updated.wellTitled {previous note : Note} (h : Updated m previous note m') :
    m'.relational.WellTitled := by
  refine ht.put h.free ?_ (h.mem_notes hm)
  by_cases hsame : note.title = previous.title
  · rw [hsame]
    exact ht.trimmed previous h.mem
  · exact h.trimmed hsame

lemma Deleted.wellTitled {note : Note} (h : Deleted m note m') : m'.relational.WellTitled :=
  ht.of_subset fun n hn => ((h.mem_notes hm n).1 hn).1

end Changes

lemma lasting_wellTitled : Lasting fun m => Tidy m ∧ m.relational.WellTitled where
  congr := by
    intro m m' hm hrelational hgraph hprecedes
    refine ⟨hm.1.congr hrelational hgraph hprecedes, ?_⟩
    rw [hrelational]
    exact hm.2
  create := by
    intro m m' request id h hm hfresh
    obtain ⟨note, -, -, -, hcreated⟩ := exists_created h hm.1 hfresh
    exact ⟨tidy_of_create h hm.1 hfresh, hcreated.wellTitled hm.2 hm.1⟩
  update := by
    intro m m' request result h hm hfresh
    obtain ⟨previous, -, hupdated⟩ := exists_updated h hm.1 hfresh
    exact ⟨hupdated.tidy hm.1, hupdated.wellTitled hm.2 hm.1⟩
  delete := by
    intro m m' id h hm
    obtain ⟨note, -, hdeleted⟩ := exists_deleted h hm.1
    exact ⟨tidy_of_delete h hm.1, hdeleted.wellTitled hm.2 hm.1⟩

/-- After every run from empty stores, what is committed is tidy and well titled. -/
lemma wellTitled_run (supply : Supply) (calls : List Call)
    (hfresh : (run calls (Memory.empty supply)).store.supply.Fresh) :
    Tidy (run calls (Memory.empty supply)).store ∧
      (run calls (Memory.empty supply)).store.relational.WellTitled := by
  have hempty : (Memory.empty supply).store.relational.WellTitled :=
    ⟨fun n hn => absurd hn List.not_mem_nil, fun n hn => absurd hn List.not_mem_nil⟩
  exact lasting_wellTitled.run calls ⟨tidy_empty supply, hempty⟩ hfresh

/-! ## Good form -/

/-- Each note is in good form. -/
structure WellFormed (rows : Relational) : Prop where
  /-- No two notes of a user have the same title. -/
  titles_nodup : (rows.notes.map fun note => (note.user, note.title)).Nodup
  trimmed : ∀ note ∈ rows.notes, Title.IsTrimmed note.title
  /-- A note represents a keyword of its user, which bears its title as it is now. -/
  represents : ∀ note ∈ rows.notes, ∃ keyword ∈ rows.keywords,
    note.represents = some keyword.id ∧ keyword.user = note.user ∧ keyword.name = note.title
  /-- The links recorded in a note are those of its text as it is now. -/
  recorded : ∀ note ∈ rows.notes, note.links = Wikilink.intervals note.body

lemma wellFormed_of_wellTitled {m : Memory} (hm : Tidy m) (ht : m.relational.WellTitled) :
    WellFormed m.relational where
  titles_nodup := by
    refine List.Nodup.map_on (fun n hn o ho heq => ?_) (.of_map _ hm.consistent.notes_nodup)
    obtain ⟨huser, htitle⟩ := Prod.mk.inj heq
    exact ht.unique n hn o ho huser htitle
  trimmed := ht.trimmed
  represents note hnote := (hm.consistent.settles note hnote).represents
  recorded note hnote := (hm.consistent.settles note hnote).recorded

/-- After every run from empty stores, every note is in good form. -/
theorem wellFormed_run (supply : Supply) (calls : List Call)
    (hfresh : (run calls (Memory.empty supply)).store.supply.Fresh) :
    WellFormed (run calls (Memory.empty supply)).store.relational := by
  obtain ⟨htidy, htitled⟩ := wellTitled_run supply calls hfresh
  exact wellFormed_of_wellTitled htidy htitled

/-- A note is given the title of a note of another user, and then another one asks for it. -/
def contending : List Call :=
  sharing ++ [.update { note := .ofNat 8, title := some " B " },
    .update { note := .ofNat 1, title := some "B" }]

theorem wellFormed_run_contending :
    (run contending (Memory.empty counting)).store.supply.Fresh ∧
      (run contending (Memory.empty counting)).store.relational.notes.map (·.title) =
        ["A", "B", "B"] ∧
      WellFormed (run contending (Memory.empty counting)).store.relational := by
  have hfresh : (run contending (Memory.empty counting)).store.supply.Fresh :=
    fresh_of_counting (precedes_run _ _).identifier_eq (by decide +kernel)
  exact ⟨hfresh, by decide +kernel, wellFormed_run counting contending hfresh⟩

end LinkedNotes.Store
