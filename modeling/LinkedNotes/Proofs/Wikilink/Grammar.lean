import LinkedNotes.Wikilink
import Mathlib.Data.List.TakeWhile

/-!
# Where links stand

A link stands at an offset of a text exactly when the text goes on there with two opening
brackets, an inner text without brackets whose target is not blank, and two closing brackets
(`mem_links`). That depends on the characters of the link alone, so a link is one wherever its
characters stand.
-/

namespace LinkedNotes.Wikilink

open Text (Interval)

/-- A text between double brackets. -/
def bracketed (inner : List Char) : List Char := '[' :: '[' :: (inner ++ [']', ']'])

@[simp] lemma length_bracketed (inner : List Char) :
    (bracketed inner).length = inner.length + 4 := by
  simp [bracketed]

/-- Double brackets around the text make a link. -/
structure IsInner (inner : List Char) : Prop where
  no_bracket : ∀ c ∈ inner, isBracket c = false
  target_ne_nil : targetOf inner ≠ []

/-- The link at an offset with the given text between its brackets. -/
def Link.of (offset : Nat) (inner : List Char) : Link :=
  ⟨⟨offset, offset + inner.length + 4⟩, targetOf inner⟩

/-- An inner text is read back from the front of any text that starts with it in brackets. -/
lemma inner?_bracketed {inner : List Char} (h : ∀ c ∈ inner, isBracket c = false)
    (rest : List Char) : inner? (bracketed inner ++ rest) = some inner := by
  have hopen : ∀ c ∈ inner, (!isBracket c) = true := fun c hc => by simp [h c hc]
  have hshape : bracketed inner ++ rest = '[' :: '[' :: (inner ++ (']' :: ']' :: rest)) := by
    simp [bracketed]
  have hdrop : (inner ++ (']' :: ']' :: rest)).dropWhile (fun c => !isBracket c) =
      ']' :: ']' :: rest := by
    rw [List.dropWhile_append_of_pos hopen]
    rfl
  have htake : (inner ++ (']' :: ']' :: rest)).takeWhile (fun c => !isBracket c) = inner := by
    rw [List.takeWhile_append_of_pos hopen]
    simp [isBracket]
  rw [hshape]
  simp only [inner?, hdrop, htake]

/-- What `inner?` finds is what stands in double brackets at the front of the text. -/
theorem inner?_eq_some_iff {text inner : List Char} :
    inner? text = some inner ↔ (∀ c ∈ inner, isBracket c = false) ∧ bracketed inner <+: text := by
  constructor
  · intro h
    unfold inner? at h
    split at h
    · next r =>
      split at h
      · next rest hrest =>
        obtain rfl : r.takeWhile (fun c => !isBracket c) = inner := Option.some.inj h
        refine ⟨fun c hc => by simpa using List.mem_takeWhile_imp hc, rest, ?_⟩
        have hr := List.takeWhile_append_dropWhile (p := fun c => !isBracket c) (l := r)
        rw [hrest] at hr
        simp [bracketed, hr]
      · cases h
    · cases h
  · intro hfront
    rcases hfront with ⟨h, rest, rfl⟩
    exact inner?_bracketed h rest

theorem linkAt?_eq_some_iff {offset : Nat} {text : List Char} {link : Link} :
    linkAt? offset text = some link ↔
      ∃ inner, IsInner inner ∧ bracketed inner <+: text ∧ link = Link.of offset inner := by
  constructor
  · intro h
    unfold linkAt? at h
    split at h
    · cases h
    · next inner hinner =>
      split at h
      · cases h
      · next htarget =>
        obtain ⟨hopen, hfront⟩ := inner?_eq_some_iff.1 hinner
        exact ⟨inner, ⟨hopen, htarget⟩, hfront, (Option.some.inj h).symm⟩
  · intro hlink
    rcases hlink with ⟨inner, hinner, hfront, rfl⟩
    have h := inner?_eq_some_iff.2 ⟨hinner.no_bracket, hfront⟩
    simp only [linkAt?, h, hinner.target_ne_nil, if_false, Link.of]

lemma linkAt?_nil (offset : Nat) : linkAt? offset [] = none := rfl

/-- The links are those found at one offset after the other. -/
lemma linksFrom_cons (offset : Nat) (c : Char) (r : List Char) :
    linksFrom offset (c :: r) =
      (linkAt? offset (c :: r)).toList ++ linksFrom (offset + 1) r := by
  rw [linksFrom]
  cases linkAt? offset (c :: r) <;> rfl

theorem mem_linksFrom {offset : Nat} {text : List Char} {link : Link} :
    link ∈ linksFrom offset text ↔ ∃ k, linkAt? (offset + k) (text.drop k) = some link := by
  -- a link behind the first character is found one offset further on
  induction text generalizing offset with
  | nil => simp [linksFrom, linkAt?_nil]
  | cons c r ih =>
    rw [linksFrom_cons, List.mem_append, Option.mem_toList, ih]
    constructor
    · intro hfound
      rcases hfound with h | ⟨k, h⟩
      · exact ⟨0, h⟩
      · exact ⟨k + 1, by rwa [List.drop_succ_cons, ← Nat.add_right_comm, Nat.add_assoc] at *⟩
    · intro hfound
      rcases hfound with ⟨k, h⟩
      cases k with
      | zero => exact Or.inl h
      | succ k => exact Or.inr ⟨k, by rwa [Nat.add_right_comm, Nat.add_assoc]⟩

/-- The links of a text are the bracketed inner texts that stand in it, each at its offset. -/
theorem mem_links {text : List Char} {link : Link} :
    link ∈ links text ↔
      ∃ offset inner, IsInner inner ∧ bracketed inner <+: text.drop offset ∧
        link = Link.of offset inner := by
  simp only [links, mem_linksFrom, linkAt?_eq_some_iff, Nat.zero_add]

/-- Links are found in the order in which they stand. -/
theorem pairwise_linksFrom (offset : Nat) (text : List Char) :
    (linksFrom offset text).Pairwise fun a b => a.interval.start < b.interval.start := by
  induction text generalizing offset with
  | nil => exact List.Pairwise.nil
  | cons c r ih =>
    rw [linksFrom_cons]
    cases h : linkAt? offset (c :: r) with
    | none => exact ih (offset + 1)
    | some link =>
      refine List.Pairwise.cons (fun other hother => ?_) (ih (offset + 1))
      -- every other link was found at a later offset
      obtain ⟨inner, -, -, rfl⟩ := linkAt?_eq_some_iff.1 h
      obtain ⟨k, hk⟩ := mem_linksFrom.1 hother
      obtain ⟨inner', -, -, rfl⟩ := linkAt?_eq_some_iff.1 hk
      simp only [Link.of]
      omega

theorem pairwise_links (text : List Char) :
    (links text).Pairwise fun a b => a.interval.start < b.interval.start :=
  pairwise_linksFrom 0 text

/-- A link lies within its text. -/
theorem stop_le_length {text : List Char} {link : Link} (h : link ∈ links text) :
    link.interval.start < link.interval.stop ∧ link.interval.stop ≤ text.length := by
  obtain ⟨offset, inner, -, hfront, rfl⟩ := mem_links.1 h
  have hlength := hfront.length_le
  rw [length_bracketed, List.length_drop] at hlength
  simp only [Link.of]
  omega

end LinkedNotes.Wikilink
