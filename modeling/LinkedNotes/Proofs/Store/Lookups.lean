import LinkedNotes.Proofs.Store.Outcomes

/-!
# Titles looked up

What is found by a title, and what follows for the steps that depend on it: a title is refused if a
note has it other than the one that asks (`outcome_requireFree_error`), and the keyword of a title is
always found, for it is added first (`exists_outcome_titleKeyword`).
-/

namespace LinkedNotes.Store

open Service
open Memory (direct)

namespace Relational

/-! ## Notes by title -/

lemma mem_of_latest?_eq_some {notes : List Note} {note : Note}
    (h : latest? notes = some note) : note ∈ notes := by
  have hall : ∀ n, latest? notes = some n → n ∈ notes := by
    refine List.foldlRecOn (motive := fun best => ∀ n, best = some n → n ∈ notes) notes _
      (fun n hn => by cases hn) fun best hbest a ha n hn => ?_
    -- the note that is met becomes the best one, or the best one stays
    cases best with
    | none => exact Option.some.inj hn ▸ ha
    | some other =>
      dsimp only at hn
      split at hn
      · exact Option.some.inj hn ▸ ha
      · exact hbest n hn
  exact hall note h

lemma latest?_eq_none {notes : List Note} : latest? notes = none ↔ notes = [] := by
  constructor
  · intro h
    cases notes with
    | nil => rfl
    | cons note rest =>
      have hsome : (latest? (note :: rest)).isSome = true := by
        refine List.foldlRecOn (motive := fun best : Option Note => best.isSome = true) rest _ rfl
          fun best hbest a _ => ?_
        cases best with
        | none => cases hbest
        | some other =>
          dsimp only
          split <;> rfl
      rw [h] at hsome
      cases hsome
  · rintro rfl
    rfl

variable {rows : Relational} {user : Identifier} {title : String}

lemma of_noteTitled?_eq_some {note : Note} (h : rows.noteTitled? user title true = some note) :
    note ∈ rows.notes ∧ note.user = user ∧ note.title = title := by
  have hmem := mem_of_latest?_eq_some h
  simpa using hmem

lemma noteTitled?_eq_none :
    rows.noteTitled? user title true = none ↔
      ∀ note ∈ rows.notes, note.user = user → note.title ≠ title := by
  rw [noteTitled?, latest?_eq_none, List.filter_eq_nil_iff]
  simp

/-- Rows in which the user has a note with the title have one that is found by it. -/
lemma exists_noteTitled? {note : Note} (hnote : note ∈ rows.notes) (huser : note.user = user)
    (htitle : note.title = title) : ∃ other, rows.noteTitled? user title true = some other := by
  rw [← Option.isSome_iff_exists, Option.isSome_iff_ne_none]
  exact fun hnone => noteTitled?_eq_none.1 hnone note hnote huser htitle

/-! ## Keywords by name -/

lemma notes_ensureKeyword (user : Identifier) (name : String) (store : Relational)
    (supply : Supply) : (ensureKeyword user name store supply).1.2.notes = store.notes := by
  unfold ensureKeyword
  cases store.keywordNamed? user name <;> rfl

lemma notes_ensureDistinct (user : Identifier) (names : List String) (store : Relational)
    (supply : Supply) : (ensureDistinct user names store supply).1.2.notes = store.notes := by
  induction names generalizing store supply with
  | nil => rfl
  | cons name rest ih => exact (ih _ _).trans (notes_ensureKeyword user name store supply)

/-- Keywords that are there are found by their names, and nothing is added. -/
lemma ensureDistinct_of_mem {registrar supply : Supply} {store : Relational}
    {keywords : List Keyword} (h : Registered registrar store.keywords)
    (hkeywords : ∀ k ∈ keywords, k ∈ store.keywords ∧ k.user = user) :
    ensureDistinct user (keywords.map (·.name)) store supply = ((keywords, store), supply) := by
  induction keywords with
  | nil => rfl
  | cons k rest ih =>
    obtain ⟨⟨hk, huser⟩, hrest⟩ := List.forall_mem_cons.1 hkeywords
    have hfirst : ensureKeyword user k.name store supply = ((k, store), supply) := by
      rw [ensureKeyword, (keywordNamed?_eq_some h).2 ⟨hk, huser, rfl⟩]
      rfl
    have hboth : ∀ asked, ensureKeyword user k.name store supply = asked →
        ensureDistinct user ((k :: rest).map (·.name)) store supply =
          let others := ensureDistinct user (rest.map (·.name)) asked.1.2 asked.2
          ((asked.1.1 :: others.1.1, others.1.2), others.2) := by
      rintro _ rfl
      rfl
    rw [hboth _ hfirst, ih hrest]

/-- A keyword that was asked for is found by its name. -/
lemma exists_keywordNamed?_ensureKeyword (user : Identifier) (name : String) (store : Relational)
    (supply : Supply) : ∃ keyword,
      (ensureKeyword user name store supply).1.2.keywordNamed? user name = some keyword := by
  rw [← Option.isSome_iff_exists, Option.isSome_iff_ne_none]
  unfold ensureKeyword
  cases hfind : store.keywordNamed? user name with
  | some keyword =>
    show store.keywordNamed? user name ≠ none
    rw [hfind]
    exact Option.some_ne_none keyword
  | none =>
    -- the keyword that was added has the name, even if it took the place of another one
    intro hnone
    have hput := Keyed.find?_put_self (fun k : Keyword => k.id)
      ⟨(Supply.draw supply).1, user, name⟩ store.keywords
    exact keywordNamed?_eq_none.1 hnone _ (Keyed.of_find?_eq_some hput).1 rfl rfl

end Relational

variable {m : Memory} {user : Identifier} {title : String} {asking : Option Identifier}

/-! ## Steps -/

/-- A title is free that no note has but the one that asks. -/
lemma outcome_requireFree_ok
    (h : ∀ note ∈ m.relational.notes, note.user = user → note.title = title →
      some note.id = asking) : (requireFree direct user title asking).outcome m = (.ok (), m) := by
  have hlook : (direct.noteTitled? user title true).outcome m =
      (.ok (m.relational.noteTitled? user title true), m) := rfl
  rw [requireFree, Action.outcome_bind_ok hlook]
  cases hfound : m.relational.noteTitled? user title true with
  | none => rfl
  | some other =>
    obtain ⟨hother, huser, htitle⟩ := Relational.of_noteTitled?_eq_some hfound
    dsimp only
    rw [if_pos (h other hother huser htitle)]
    rfl

/-- A title is refused that a note has, and not the one that asks. -/
lemma outcome_requireFree_error {note : Note} (hnote : note ∈ m.relational.notes)
    (huser : note.user = user) (htitle : note.title = title)
    (h : ∀ note ∈ m.relational.notes, note.user = user → note.title = title →
      some note.id ≠ asking) :
    (requireFree direct user title asking).outcome m = (.error (.titleTaken title), m) := by
  obtain ⟨other, hfound⟩ := Relational.exists_noteTitled? hnote huser htitle
  obtain ⟨hother, huser', htitle'⟩ := Relational.of_noteTitled?_eq_some hfound
  have hlook : (direct.noteTitled? user title true).outcome m = (.ok (some other), m) := by
    rw [← hfound]
    rfl
  rw [requireFree, Action.outcome_bind_ok hlook]
  dsimp only
  rw [if_neg (h other hother huser' htitle')]
  rfl

/-- The keyword of a title is always found, and the notes stay as they are. -/
lemma exists_outcome_titleKeyword (m : Memory) (user : Identifier) (title : String) :
    ∃ keyword m', (titleKeyword direct user title).outcome m = (.ok keyword, m') ∧
      m'.relational.notes = m.relational.notes ∧ m'.graphReadOnly = m.graphReadOnly ∧
      m.supply.Precedes m'.supply := by
  let taken := m.relational.ensureKeywords user [title] m.supply
  let asked : Memory := { m with relational := taken.1.2, supply := taken.2 }
  have hasked : (discard (direct.ensureKeywords user [title])).outcome m = (.ok (), asked) := rfl
  have hfound : (direct.keywordNamed? user title).outcome asked =
      (.ok (asked.relational.keywordNamed? user title), asked) := rfl
  obtain ⟨keyword, hkeyword⟩ : ∃ keyword, asked.relational.keywordNamed? user title =
      some keyword := Relational.exists_keywordNamed?_ensureKeyword _ _ _ _
  refine ⟨keyword, asked, ?_, Relational.notes_ensureDistinct _ _ _ _, rfl,
    Relational.precedes_ensureDistinct _ _ _ _⟩
  rw [titleKeyword, Action.outcome_bind_ok hasked, Action.outcome_bind_ok hfound, hkeyword]
  rfl

end LinkedNotes.Store
