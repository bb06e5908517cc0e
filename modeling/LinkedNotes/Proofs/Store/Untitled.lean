import LinkedNotes.Proofs.Store.Lookups
import LinkedNotes.Proofs.Store.Reworded
import Mathlib.Data.List.Perm.Subperm
import Mathlib.Data.Nat.Find

/-!
# Generated titles

A note that is created without a title gets the generated title with the least number that is free
(`FirstFree`). There are fewer titles than numbers up to the one after their count, so the search
ends there at the latest (`exists_firstFree`), and creating a note without a title never fails for
its title.
-/

namespace LinkedNotes.Store

open Service
open Memory (World direct service)

variable {m m' : Memory} {note : Note}

/-! ## The least free number -/

/-- The number is the least one whose generated title no note of the user has. -/
structure FirstFree (rows : Relational) (user : Identifier) (n : Nat) : Prop where
  pos : 1 ≤ n
  free : ∀ note ∈ rows.notes, note.user = user → note.title ≠ Title.untitled n
  taken : ∀ k, 1 ≤ k → k < n →
    ∃ note ∈ rows.notes, note.user = user ∧ note.title = Title.untitled k

/-- The notes of a user. -/
def Relational.notesOf (rows : Relational) (user : Identifier) : List Note :=
  rows.notes.filter fun note => note.user = user

/-- As many titles as there are notes cannot take one number more. -/
lemma exists_untaken (rows : Relational) (user : Identifier) :
    ∃ n, 1 ≤ n ∧ n ≤ (rows.notesOf user).length + 1 ∧
      ∀ note ∈ rows.notes, note.user = user → note.title ≠ Title.untitled n := by
  by_contra hnone
  push Not at hnone
  let numbers := List.range' 1 ((rows.notesOf user).length + 1)
  have hsubset : numbers.map Title.untitled ⊆ (rows.notesOf user).map (·.title) := by
    intro title htitle
    obtain ⟨n, hn, rfl⟩ := List.mem_map.1 htitle
    rw [List.mem_range'_1] at hn
    obtain ⟨note, hnote, huser, heq⟩ := hnone n hn.1 (by omega)
    exact List.mem_map.2 ⟨note, List.mem_filter.2 ⟨hnote, decide_eq_true huser⟩, heq⟩
  have hnumbers : numbers.Nodup := List.nodup_range'
  have hnodup := hnumbers.map Title.untitled_injective
  have hle := (List.subperm_of_subset hnodup hsubset).length_le
  rw [List.length_map, List.length_map, List.length_range'] at hle
  omega

/-- The least free number is at most one more than the user has notes. -/
theorem exists_firstFree (rows : Relational) (user : Identifier) :
    ∃ n, FirstFree rows user n ∧ n ≤ (rows.notesOf user).length + 1 := by
  classical
  obtain ⟨bound, hpos, hle, hfree⟩ := exists_untaken rows user
  let IsFree (n : Nat) : Prop :=
    1 ≤ n ∧ ∀ note ∈ rows.notes, note.user = user → note.title ≠ Title.untitled n
  have hexists : ∃ n, IsFree n := ⟨bound, hpos, hfree⟩
  obtain ⟨hpos', hfree'⟩ := Nat.find_spec hexists
  refine ⟨Nat.find hexists, ⟨hpos', hfree', fun k hk hlt => ?_⟩,
    (Nat.find_min' hexists ⟨hpos, hfree⟩).trans hle⟩
  have hnot := Nat.find_min hexists hlt
  by_contra hnone
  push Not at hnone
  exact hnot ⟨hk, hnone⟩

/-! ## The search -/

/-- From a number on that is not above it, the least free number is found. -/
lemma outcome_untitledFrom {user : Identifier} {n start count : Nat}
    (hfirst : FirstFree m.relational user n) (hstart : 1 ≤ start) (hle : start ≤ n)
    (hlt : n < start + count) :
    (untitledFrom direct user start count).outcome m = (.ok (Title.untitled n), m) := by
  induction count generalizing start with
  | zero => omega
  | succ count ih =>
    have hlook : (direct.noteTitled? user (Title.untitled start) true).outcome m =
        (.ok (m.relational.noteTitled? user (Title.untitled start) true), m) := rfl
    rw [untitledFrom, Action.outcome_bind_ok hlook]
    rcases Nat.eq_or_lt_of_le hle with rfl | hless
    · rw [Relational.noteTitled?_eq_none.2 hfirst.free]
      rfl
    · obtain ⟨note, hnote, huser, htitle⟩ := hfirst.taken start hstart hless
      obtain ⟨other, hother⟩ := Relational.exists_noteTitled? hnote huser htitle
      rw [hother]
      exact ih (by omega) hless (by omega)

/-- With fewer notes than there are generated titles, the next one is found. -/
lemma exists_outcome_nextUntitled {user : Identifier}
    (hfew : (m.relational.notesOf user).length < untitledCount) :
    ∃ n < Text.countLimit, FirstFree m.relational user n ∧
      (nextUntitled direct user).outcome m = (.ok (Title.untitled n), m) := by
  obtain ⟨n, hfirst, hle⟩ := exists_firstFree m.relational user
  have hcount : untitledCount + 1 = Text.countLimit := by decide
  exact ⟨n, by omega, hfirst,
    outcome_untitledFrom hfirst (Nat.le_refl 1) hfirst.pos (by omega)⟩

/-! ## Creating a note -/

/-- While the graph can be written, a new note with a title of its own can be written. -/
lemma exists_outcome_insert (note : Note) (hnew : m.relational.note? note.id = none)
    (hfree : m.relational.isTitleTaken note = false) (hwritable : m.graphReadOnly = false) :
    ∃ m', Action.outcome (do
      direct.insertNote note
      direct.flush
      direct.putNode note
      discard (resync direct note)
      pure note.id) m = (.ok note.id, m') := by
  let listed : Memory := { m with relational := m.relational.putNote note }
  have hinsert : m.relational.insertNote note = .ok (m.relational.putNote note) := by
    rw [Relational.insertNote, hnew, hfree]
    rfl
  have hlisted : (Memory.tryRows (·.insertNote note)).outcome m = (.ok (), listed) :=
    Memory.outcome_tryRows_ok hinsert
  have hflushed : direct.flush.outcome listed = (.ok (), listed) := rfl
  have hplaced : (Memory.nodes (·.putNote note)).outcome listed = (.ok (), placed note m) :=
    Memory.outcome_nodes (m := listed) hwritable _
  have hresynced : (discard (resync direct note)).outcome (placed note m) =
      (.ok (), resynced note (placed note m)) :=
    Action.outcome_discard (outcome_resync (m := placed note m) hwritable note)
  refine ⟨resynced note (placed note m), ?_⟩
  refine (Action.outcome_bind_ok hlisted).trans ((Action.outcome_bind_ok hflushed).trans ?_)
  exact (Action.outcome_bind_ok hplaced).trans (Action.outcome_bind_ok hresynced)

/-- While the graph can be written, a note is created whenever its title is found and free. -/
lemma exists_outcome_create {request : CreateRequest} {title : String} (hm : Tidy m)
    (hwritable : m.graphReadOnly = false)
    (htitle : (newTitle direct request.user request.title).outcome m = (.ok title, m))
    (hfree : ∀ n ∈ m.relational.notes, n.user = request.user → n.title ≠ title)
    (hfresh : ((create direct request).outcome m).2.supply.Fresh) :
    ∃ id m', (create direct request).outcome m = (.ok id, m') := by
  obtain ⟨keyword, m₁, hkeyword, hnotes, hreadOnly, hprecedes⟩ :=
    exists_outcome_titleKeyword m request.user title
  let drawn : Memory := { m₁ with supply := (Supply.draw m₁.supply).2 }
  let timed : Memory := { drawn with supply := (Supply.now drawn.supply).2 }
  have hdrawn : direct.newIdentifier.outcome m₁ = (.ok (Supply.draw m₁.supply).1, drawn) := rfl
  have htimed : direct.now.outcome drawn = (.ok (Supply.now drawn.supply).1, timed) := rfl
  let plain := Note.new (Supply.draw m₁.supply).1 request.user (Supply.now drawn.supply).1 title
    request.text
  let note : Note :=
    { plain with represents := some keyword.id, links := Wikilink.intervals plain.body }
  rw [create, Action.outcome_bind_ok htitle, Action.outcome_bind_ok hkeyword,
    Action.outcome_bind_ok hdrawn, Action.outcome_bind_ok htimed] at hfresh ⊢
  cases hfound : timed.relational.note? note.id with
  | none =>
    have hnone : timed.relational.isTitleTaken note = false := by
      rw [Relational.isTitleTaken_eq_false]
      intro n hn _ huser
      exact hfree n (hnotes ▸ hn) huser
    obtain ⟨m', hinserted⟩ := exists_outcome_insert note hfound hnone
      (hreadOnly.trans hwritable)
    exact ⟨note.id, m', hinserted⟩
  | some other =>
    -- the identifier would have been taken before, and the supply would have repeated itself
    obtain ⟨hother, hid⟩ := Keyed.of_find?_eq_some hfound
    have hold : m₁.supply.Drawn note.id := by
      rw [← hid]
      exact hprecedes.drawn (hm.consistent.notes_drawn other (hnotes ▸ hother))
    have hinsert : timed.relational.insertNote note =
        .error (.invalidInput ("note " ++ note.id.toText ++ " already exists")) := by
      rw [Relational.insertNote, hfound]
      rfl
    have htried : (Memory.tryRows (·.insertNote note)).outcome timed = (_, timed) :=
      Memory.outcome_tryRows_error hinsert
    have hrefused : (direct.insertNote note).outcome timed = (_, timed) := htried
    rw [Action.outcome_bind_error hrefused] at hfresh
    exact absurd hold (Supply.not_drawn_draw ((Supply.Precedes.now drawn.supply).fresh hfresh))

/-! ## Calls -/

/-- The service tells the title that is found next. -/
lemma outcome_newTitle (world : World) (user : Identifier) :
    ((service.newTitle user).outcome world).1 =
      ((nextUntitled direct user).outcome world.store).1 :=
  (Memory.outcome_observe ((Memory.agrees_direct world.store).nextUntitled user)).1

/-- A note that is created without a title gets the one that is found next. -/
lemma exists_created_untitled {request : CreateRequest} (hm : Tidy m)
    (hwritable : m.graphReadOnly = false) (hblank : Title.IsBlank request.title)
    (hfew : (m.relational.notesOf request.user).length < untitledCount)
    (hfresh : ((create direct request).outcome m).2.supply.Fresh) :
    ∃ note m', (create direct request).outcome m = (.ok note.id, m') ∧
      m'.relational.note? note.id = some note ∧ note.user = request.user ∧
      (nextUntitled direct request.user).outcome m = (.ok note.title, m) := by
  obtain ⟨n, -, hfirst, hnext⟩ := exists_outcome_nextUntitled hfew
  have htitle : newTitle direct request.user request.title = nextUntitled direct request.user := by
    rw [newTitle, Title.normalize?_eq_none_iff.2 hblank]
  obtain ⟨id, m', hcreate⟩ :=
    exists_outcome_create hm hwritable (htitle ▸ hnext) hfirst.free hfresh
  rw [hcreate] at hfresh
  obtain ⟨note, rfl, huser, hname, hcreated⟩ := exists_created hcreate hm hfresh
  have hmem : note ∈ m'.relational.notes := (hcreated.mem_notes hm note).2 (Or.inl rfl)
  have hnodup := (tidy_of_create hcreate hm hfresh).consistent.notes_nodup
  exact ⟨note, m', hcreate, Keyed.find?_key hnodup hmem, huser, htitle ▸ hname⟩

/-- Whatever is committed, the service tells the generated title with the least free number, as
long as the user has fewer notes than there are such titles. After every run from empty stores,
while the graph can be written, creating a note without a title succeeds and gives it that title. -/
theorem firstFree_run :
    (∀ (world : World) (user : Identifier),
      (world.store.relational.notesOf user).length < 2 ^ 32 - 1 →
      ∃ n < 2 ^ 32, FirstFree world.store.relational user n ∧
        ((service.newTitle user).outcome world).1 = .ok (Title.untitled n)) ∧
    ∀ (supply : Supply) (calls : List Call) (request : CreateRequest) (world : World),
      world = run calls (Memory.empty supply) → world.store.graphReadOnly = false →
      Title.IsBlank request.title →
      (world.store.relational.notesOf request.user).length < 2 ^ 32 - 1 →
      ((service.create request).outcome world).2.store.supply.Fresh →
      ∃ note created, (service.create request).outcome world = (.ok note.id, created) ∧
        created.store.relational.note? note.id = some note ∧ note.user = request.user ∧
        ((service.newTitle request.user).outcome world).1 = .ok note.title := by
  constructor
  · intro world user hfew
    obtain ⟨n, hlt, hfirst, hnext⟩ := exists_outcome_nextUntitled hfew
    refine ⟨n, hlt, hfirst, ?_⟩
    rw [outcome_newTitle, hnext]
  · rintro supply calls request world rfl hwritable hblank hfew hfresh
    have hprecedes := (Change.create request).precedes_call (run calls (Memory.empty supply))
    have hm := tidy_run calls (tidy_empty supply) (hprecedes.fresh hfresh)
    have hsupply : ((service.create request).outcome
        (run calls (Memory.empty supply))).2.store.supply = _ :=
      (congrArg Memory.supply ((Change.create request).outcome_call _).2).trans
        (Memory.supply_settled _ _)
    rw [hsupply] at hfresh
    obtain ⟨note, m', hcreate, hnote, huser, hnext⟩ :=
      exists_created_untitled hm hwritable hblank hfew hfresh
    obtain ⟨created, hcreated, rfl⟩ := (Change.create request).exists_call_of_direct hcreate
    refine ⟨note, created, hcreated, hnote, huser, ?_⟩
    rw [outcome_newTitle, hnext]

/-- A user has the generated titles but the third up to the fourth, and another one has that. -/
def gapped : List Call :=
  [.create { user := .ofNat 100 }, .create { user := .ofNat 100, title := some "" },
    .create { user := .ofNat 100, title := some "Untitled 4" },
    .create { user := .ofNat 200, title := some "Untitled 3" }]

/-- A request for a note whose title holds only blanks. -/
def blank : CreateRequest := { user := .ofNat 100, title := some " \t" }

lemma fresh_blank : ((service.create blank).outcome
    (run gapped (Memory.empty counting))).2.store.supply.Fresh :=
  (Change.create blank).fresh_of_counting gapped rfl (by decide +kernel)

theorem firstFree_run_gapped :
    (run gapped (Memory.empty counting)).store.graphReadOnly = false ∧
      Title.IsBlank blank.title ∧
      ((run gapped (Memory.empty counting)).store.relational.notesOf blank.user).length = 3 ∧
      ((service.create blank).outcome
        (run gapped (Memory.empty counting))).2.store.supply.Fresh ∧
      FirstFree (run gapped (Memory.empty counting)).store.relational blank.user 3 ∧
      ∃ note created, (service.create blank).outcome (run gapped (Memory.empty counting)) =
          (.ok note.id, created) ∧
        created.store.relational.note? note.id = some note ∧ note.user = blank.user ∧
        note.title = "Untitled 3" := by
  have hwritable : (run gapped (Memory.empty counting)).store.graphReadOnly = false := by
    decide +kernel
  have hblank : Title.IsBlank blank.title := Title.normalize?_eq_none_iff.1 (by decide)
  have hthree : ((run gapped (Memory.empty counting)).store.relational.notesOf
      blank.user).length = 3 := by decide +kernel
  have hfew : ((run gapped (Memory.empty counting)).store.relational.notesOf
      blank.user).length < 2 ^ 32 - 1 := by omega
  have htold : ((service.newTitle blank.user).outcome
      (run gapped (Memory.empty counting))).1 = .ok (Title.untitled 3) := by decide +kernel
  obtain ⟨hnext, hcreates⟩ := firstFree_run
  obtain ⟨n, -, hfirst, hn⟩ := hnext _ _ hfew
  obtain rfl : n = 3 := Title.untitled_injective (Except.ok.inj (hn.symm.trans htold))
  obtain ⟨note, created, hcreated, hnote, huser, htitle⟩ :=
    hcreates counting gapped blank _ rfl hwritable hblank hfew fresh_blank
  exact ⟨hwritable, hblank, hthree, fresh_blank, hfirst, note, created, hcreated, hnote, huser,
    Except.ok.inj (htitle.symm.trans htold)⟩

end LinkedNotes.Store
