import LinkedNotes.Database.Wording
import LinkedNotes.Proofs.Text.Occurrence
import LinkedNotes.Store.Relational
import Mathlib.Data.List.Infix

/-!
# What a search pattern finds

A pattern is read part by part (`parts?`), and `Matches` says which texts the parts stand for, with
no word on how to find out. `accepts` finds out: for a run it tries every rest of the text. An
escaped text is read as its own characters, whichever of them mean something in a pattern, so the
pattern of the texts that hold it matches those and no others (`holding_finds`).
-/

namespace LinkedNotes.Database.Pattern

/-! ## Reading a pattern -/

/-- A part of a pattern. -/
inductive Part where
  /-- Any run of characters, the empty one too. -/
  | run
  /-- Any one character. -/
  | one
  /-- The character itself. -/
  | just (c : Char)
  deriving DecidableEq, Repr

/-- The parts of a pattern. A pattern that ends with a backslash has none, as there is nothing
behind it to be taken as it is. -/
def parts? : List Char → Option (List Part)
  | [] => some []
  | '\\' :: [] => none
  | '\\' :: c :: r => (parts? r).map (.just c :: ·)
  | '%' :: r => (parts? r).map (.run :: ·)
  | '_' :: r => (parts? r).map (.one :: ·)
  | c :: r => (parts? r).map (.just c :: ·)

/-- The text is one of those that the parts stand for. -/
inductive Matches : List Part → List Char → Prop
  | nil : Matches [] []
  | run {parts : List Part} {rest : List Char} (skipped : List Char) (h : Matches parts rest) :
    Matches (.run :: parts) (skipped ++ rest)
  | one {parts : List Part} {rest : List Char} (c : Char) (h : Matches parts rest) :
    Matches (.one :: parts) (c :: rest)
  | just {parts : List Part} {rest : List Char} (c : Char) (h : Matches parts rest) :
    Matches (.just c :: parts) (c :: rest)

/-- Whether the text is one of those that the parts stand for. -/
def accepts : List Part → List Char → Bool
  | [], text => text.isEmpty
  | .run :: parts, text => text.tails.any (accepts parts)
  | .one :: parts, text =>
    match text with
    | [] => false
    | _ :: rest => accepts parts rest
  | .just c :: parts, text =>
    match text with
    | [] => false
    | d :: rest => c = d && accepts parts rest

/-- The pattern can be read and the text is one of those it stands for. -/
def finds (pattern text : List Char) : Bool :=
  match parts? pattern with
  | none => false
  | some parts => accepts parts text

lemma matches_run_iff {parts : List Part} {text : List Char} :
    Matches (.run :: parts) text ↔ ∃ rest, rest <:+ text ∧ Matches parts rest := by
  constructor
  · intro h
    cases h with
    | run skipped h => exact ⟨_, List.suffix_append _ _, h⟩
  · rintro ⟨rest, ⟨skipped, rfl⟩, h⟩
    exact .run skipped h

/-- Trying every rest of a text behind a run finds out what a pattern stands for. -/
theorem accepts_iff {parts : List Part} {text : List Char} :
    accepts parts text = true ↔ Matches parts text := by
  induction parts generalizing text with
  | nil =>
    rw [accepts, List.isEmpty_iff]
    constructor
    · rintro rfl
      exact .nil
    · intro h
      cases h
      rfl
  | cons part parts ih =>
    cases part with
    | run =>
      rw [accepts, List.any_eq_true, matches_run_iff]
      simp only [List.mem_tails, ih]
    | one =>
      cases text with
      | nil => exact iff_of_false Bool.false_ne_true (fun h => nomatch h)
      | cons d rest =>
        rw [accepts, ih]
        constructor
        · exact .one d
        · intro h
          cases h with
          | one _ h => exact h
    | just c =>
      cases text with
      | nil => exact iff_of_false Bool.false_ne_true (fun h => nomatch h)
      | cons d rest =>
        rw [accepts, Bool.and_eq_true, decide_eq_true_eq, ih]
        constructor
        · rintro ⟨rfl, h⟩
          exact .just c h
        · intro h
          cases h with
          | just _ h => exact ⟨rfl, h⟩

/-! ## An escaped text -/

/-- A character that means something in a pattern. -/
def isSpecial (c : Char) : Bool := c == '\\' || c == '%' || c == '_'

lemma mark_nil (c : Char) : mark c [] = [] := rfl

lemma mark_cons (c d : Char) (r : List Char) :
    mark c (d :: r) = (if d = c then ['\\', c] else [d]) ++ mark c r := List.flatMap_cons

/-- Three passes, each over what the one before left, mark each special character once. -/
lemma escape_cons (c : Char) (r : List Char) :
    escape (c :: r) = (if isSpecial c then ['\\', c] else [c]) ++ escape r := by
  unfold escape
  by_cases hbackslash : c = '\\'
  · subst hbackslash
    simp [mark_cons, isSpecial]
  by_cases hpercent : c = '%'
  · subst hpercent
    simp [mark_cons, isSpecial]
  by_cases hunderscore : c = '_'
  · subst hunderscore
    simp [mark_cons, isSpecial]
  · simp [mark_cons, isSpecial, hbackslash, hpercent, hunderscore]

lemma parts?_of_not_isSpecial {c : Char} (h : isSpecial c = false) (r : List Char) :
    parts? (c :: r) = (parts? r).map (.just c :: ·) := by
  simp only [isSpecial, Bool.or_eq_false_iff, beq_eq_false_iff_ne] at h
  obtain ⟨⟨hbackslash, hpercent⟩, hunderscore⟩ := h
  rw [parts?.eq_def]
  split <;> simp_all

/-- An escaped text is read as its characters, each taken as it is. -/
lemma parts?_escape_append (text rest : List Char) :
    parts? (escape text ++ rest) = (parts? rest).map (text.map .just ++ ·) := by
  induction text with
  | nil => simp [escape, mark_nil]
  | cons c r ih =>
    rw [escape_cons]
    by_cases hspecial : isSpecial c
    · rw [if_pos hspecial]
      simp [parts?, ih, Option.map_map, Function.comp_def]
    · rw [if_neg hspecial]
      simp [parts?_of_not_isSpecial (Bool.eq_false_iff.2 hspecial), ih, Option.map_map,
        Function.comp_def]

/-- The pattern of the texts that hold a text: that text between two runs. -/
theorem parts?_holding (text : List Char) :
    parts? (holding text) = some (.run :: text.map .just ++ [.run]) := by
  rw [holding, List.cons_append, parts?, parts?_escape_append]
  rfl

lemma matches_map_just_append_iff {text : List Char} {parts : List Part} {title : List Char} :
    Matches (text.map .just ++ parts) title ↔ ∃ rest, title = text ++ rest ∧ Matches parts rest := by
  induction text generalizing title with
  | nil => simp
  | cons c r ih =>
    rw [List.map_cons, List.cons_append]
    constructor
    · intro h
      cases h with
      | just _ h =>
        obtain ⟨rest, rfl, hrest⟩ := ih.1 h
        exact ⟨rest, rfl, hrest⟩
    · rintro ⟨rest, rfl, hrest⟩
      exact .just c (ih.2 ⟨rest, rfl, hrest⟩)

/-- A text between two runs stands for the texts that hold it. -/
lemma matches_between_runs_iff {text title : List Char} :
    Matches (.run :: text.map .just ++ [.run]) title ↔ text <:+: title := by
  rw [List.cons_append, matches_run_iff]
  simp only [matches_map_just_append_iff]
  constructor
  · rintro ⟨rest, ⟨front, rfl⟩, back, rfl, -⟩
    exact ⟨front, back, List.append_assoc _ _ _⟩
  · rintro ⟨front, back, rfl⟩
    refine ⟨text ++ back, ⟨front, (List.append_assoc _ _ _).symm⟩, back, rfl, ?_⟩
    rw [← List.append_nil back]
    exact .run back .nil

/-! ## Titles -/

/-- A text that occurs in another one is part of it. -/
lemma exists_occursAt_iff {pattern text : List Char} :
    (∃ i, Text.OccursAt pattern text i) ↔ pattern <:+: text := by
  constructor
  · rintro ⟨_, front, back, rfl, -⟩
    exact ⟨front, back, rfl⟩
  · rintro ⟨front, back, rfl⟩
    exact ⟨_, front, back, rfl, rfl⟩

/-- The store in memory looks for a text within a title, whatever the case of either. -/
lemma titleHolds_iff {title text : String} : Store.Relational.titleHolds title text = true ↔
    Text.lower text.toList <:+: Text.lower title.toList := by
  rw [Store.Relational.titleHolds, Bool.not_eq_true', List.isEmpty_eq_false_iff_exists_mem]
  simp only [Text.mem_occurrences]
  exact exists_occursAt_iff

/-- The pattern of the texts that hold a text can be read, and matches those and no others. So a
search by pattern finds what the store in memory finds, once small letters are written for all. -/
theorem holding_finds :
    (∀ text title : List Char, ∃ parts, parts? (holding text) = some parts ∧
      (Matches parts title ↔ text <:+: title)) ∧
    ∀ (store : Store.Relational) (user : Identifier) (text : String),
      store.noteTitled? user text false =
        Store.Relational.latest? (store.notes.filter fun note => note.user = user &&
          finds (holding (Text.lower text.toList)) (Text.lower note.title.toList)) := by
  constructor
  · intro text title
    exact ⟨_, parts?_holding text, matches_between_runs_iff⟩
  · intro store user text
    have hfinds : ∀ note : Note, Store.Relational.titleHolds note.title text =
        finds (holding (Text.lower text.toList)) (Text.lower note.title.toList) := by
      intro note
      rw [Bool.eq_iff_iff, titleHolds_iff, finds, parts?_holding]
      exact (accepts_iff.trans matches_between_runs_iff).symm
    unfold Store.Relational.noteTitled?
    simp only [hfinds, Bool.false_eq_true, if_false]

/-- Runs of backslashes next to characters that mean something are found as they are. -/
example : finds (holding "\\\\%_".toList) "a\\\\%_b".toList = true ∧
    finds (holding "\\%".toList) "\\\\a".toList = false := by decide

end LinkedNotes.Database.Pattern
