import LinkedNotes.Proofs.Store.Outcomes

/-!
# Notes of one user

A merge looks at its notes one after the other. Either the user has them all, or the first one that
is missing or belongs to someone else is told, and what comes after it is not looked at.
-/

namespace LinkedNotes.Store

open Service
open Memory (direct)

/-! ## Having a note -/

namespace Relational

/-- The user has the note with the identifier. -/
def Owns (rows : Relational) (user id : Identifier) : Prop :=
  ∃ note ∈ rows.notes, note.id = id ∧ note.user = user

/-- What a user is told who does not have the note. -/
inductive Refuses (rows : Relational) (user id : Identifier) : Fault → Prop where
  | missing (h : ∀ note ∈ rows.notes, note.id ≠ id) : rows.Refuses user id (.noteNotFound id)
  | foreign {note : Note} (hmem : note ∈ rows.notes) (hid : note.id = id)
    (huser : note.user ≠ user) :
    rows.Refuses user id (.forbidden ("Note " ++ id.toText ++ " belongs to another user"))

/-- Looking for notes of a user in their order comes to the notes, or to what the user is told of
the first one they do not have. -/
inductive Gathers (rows : Relational) (user : Identifier) :
    List Identifier → Except Fault (List Note) → Prop where
  | ok {notes : List Note} (h : ∀ note ∈ notes, note ∈ rows.notes ∧ note.user = user) :
    rows.Gathers user (notes.map (·.id)) (.ok notes)
  | error {front back : List Identifier} {id : Identifier} {fault : Fault}
    (hfront : ∀ other ∈ front, rows.Owns user other) (h : rows.Refuses user id fault) :
    rows.Gathers user (front ++ id :: back) (.error fault)

variable {rows : Relational} {user : Identifier} {ids : List Identifier}

/-- A user who has a note is not refused it. -/
lemma Owns.not_refuses {id : Identifier} {fault : Fault}
    (hnodup : (rows.notes.map (·.id)).Nodup) (h : rows.Owns user id) :
    ¬rows.Refuses user id fault := by
  obtain ⟨note, hmem, hid, huser⟩ := h
  intro hrefuses
  cases hrefuses with
  | missing hmissing => exact hmissing note hmem hid
  | foreign hother hid' hforeign =>
    rw [Keyed.eq_of_key_eq hnodup hother hmem (hid'.trans hid.symm)] at hforeign
    exact hforeign huser

namespace Gathers

/-- A note that the user has is passed on the way to the others. -/
lemma cons {note : Note} {result : Except Fault (List Note)} (hmem : note ∈ rows.notes)
    (huser : note.user = user) (h : rows.Gathers user ids result) :
    rows.Gathers user (note.id :: ids) ((note :: ·) <$> result) := by
  cases h with
  | @ok notes hnotes =>
    have hall : ∀ n ∈ note :: notes, n ∈ rows.notes ∧ n.user = user :=
      List.forall_mem_cons.2 ⟨⟨hmem, huser⟩, hnotes⟩
    exact .ok hall
  | @error front back id fault hfront hrefuses =>
    have hall : ∀ other ∈ note.id :: front, rows.Owns user other :=
      List.forall_mem_cons.2 ⟨⟨note, hmem, rfl, huser⟩, hfront⟩
    exact @error rows user _ back id fault hall hrefuses

/-- A note that the user does not have is the first one. -/
lemma refused {id : Identifier} {fault : Fault} (h : rows.Refuses user id fault) :
    rows.Gathers user (id :: ids) (.error fault) :=
  @error rows user [] ids id fault (fun _ hother => absurd hother List.not_mem_nil) h

lemma of_ok {notes : List Note} (h : rows.Gathers user ids (.ok notes)) :
    notes.map (·.id) = ids ∧ ∀ note ∈ notes, note ∈ rows.notes ∧ note.user = user := by
  cases h with
  | ok hnotes => exact ⟨rfl, hnotes⟩

lemma of_error {fault : Fault} (h : rows.Gathers user ids (.error fault)) :
    ∃ front id back, ids = front ++ id :: back ∧ (∀ other ∈ front, rows.Owns user other) ∧
      rows.Refuses user id fault := by
  cases h with
  | error hfront hrefuses => exact ⟨_, _, _, rfl, hfront, hrefuses⟩

/-- All notes are found if and only if the user has them all. -/
lemma owns_iff {result : Except Fault (List Note)} (hnodup : (rows.notes.map (·.id)).Nodup)
    (h : rows.Gathers user ids result) :
    (∀ id ∈ ids, rows.Owns user id) ↔ ∃ notes, result = .ok notes := by
  cases h with
  | ok hnotes =>
    refine ⟨fun _ => ⟨_, rfl⟩, fun _ id hid => ?_⟩
    obtain ⟨note, hnote, rfl⟩ := List.mem_map.1 hid
    obtain ⟨hmem, huser⟩ := hnotes note hnote
    exact ⟨note, hmem, rfl, huser⟩
  | error hfront hrefuses =>
    refine ⟨fun howns => ?_, nofun⟩
    exact absurd hrefuses ((howns _ (by simp)).not_refuses hnodup)

end Gathers

end Relational

/-! ## Looking for notes -/

variable {m m' : Memory} {user : Identifier}

/-- A note is found if the user has it, and otherwise the user is told. -/
lemma owns_or_refuses (m : Memory) (user id : Identifier) :
    (∃ note ∈ m.relational.notes, note.id = id ∧ note.user = user ∧
      (ownedNote direct user id).outcome m = (.ok note, m)) ∨
    ∃ fault, m.relational.Refuses user id fault ∧
      (ownedNote direct user id).outcome m = (.error fault, m) := by
  have hlook : (direct.note? id).outcome m = (.ok (m.relational.note? id), m) := rfl
  cases hnote : m.relational.note? id with
  | none =>
    have hmissing : (noteOf direct id).outcome m = (.error (.noteNotFound id), m) := by
      rw [noteOf, Action.outcome_bind_ok hlook, hnote]
      rfl
    exact Or.inr ⟨_, .missing (Keyed.find?_eq_none.1 hnote), Action.outcome_bind_error hmissing⟩
  | some note =>
    obtain ⟨hmem, hid⟩ := Keyed.of_find?_eq_some hnote
    have hfound : (noteOf direct id).outcome m = (.ok note, m) := by
      rw [noteOf, Action.outcome_bind_ok hlook, hnote]
      rfl
    have hstep : (ownedNote direct user id).outcome m = Action.outcome _ m :=
      Action.outcome_bind_ok hfound
    by_cases huser : note.user = user
    · rw [if_pos huser] at hstep
      exact Or.inl ⟨note, hmem, hid, huser, hstep⟩
    · rw [if_neg huser] at hstep
      exact Or.inr ⟨_, .foreign hmem hid huser, hstep⟩

/-- Looking for several notes gathers them. -/
lemma exists_gathers (m : Memory) (user : Identifier) (ids : List Identifier) :
    ∃ result, (ids.mapM (ownedNote direct user)).outcome m = (result, m) ∧
      m.relational.Gathers user ids result := by
  induction ids with
  | nil => exact ⟨_, rfl, .ok fun _ hnote => absurd hnote List.not_mem_nil⟩
  | cons id rest ih =>
    obtain ⟨others, hothers, hgathers⟩ := ih
    rw [List.mapM_cons]
    rcases owns_or_refuses m user id with
      ⟨note, hmem, rfl, huser, hfirst⟩ | ⟨fault, hrefuses, hfirst⟩
    · refine ⟨_, ?_, hgathers.cons hmem huser⟩
      rw [Action.outcome_bind_ok hfirst]
      cases others with
      | ok notes => exact Action.outcome_bind_ok hothers
      | error fault => exact Action.outcome_bind_error hothers
    · exact ⟨_, Action.outcome_bind_error hfirst, .refused hrefuses⟩

/-- A note that a user is found to own is one of the rows. -/
lemma of_outcome_ownedNote {id : Identifier} {note : Note}
    (h : (ownedNote direct user id).outcome m = (.ok note, m')) :
    note ∈ m.relational.notes ∧ note.id = id ∧ note.user = user := by
  rcases owns_or_refuses m user id with ⟨found, hmem, hid, huser, hfound⟩ | ⟨fault, -, hfault⟩
  · rw [hfound] at h
    cases h
    exact ⟨hmem, hid, huser⟩
  · rw [hfault] at h
    cases h

/-- Notes that a user is found to own are rows with the identifiers. -/
lemma of_outcome_mapM_ownedNote {ids : List Identifier} {notes : List Note}
    (h : (ids.mapM (ownedNote direct user)).outcome m = (.ok notes, m')) :
    notes.map (·.id) = ids ∧ ∀ note ∈ notes, note ∈ m.relational.notes ∧ note.user = user := by
  obtain ⟨result, hresult, hgathers⟩ := exists_gathers m user ids
  rw [hresult] at h
  cases h
  exact hgathers.of_ok

end LinkedNotes.Store
