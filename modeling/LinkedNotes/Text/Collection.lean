/-!
# Collections of texts

The lines of a text, a list without its repetitions, and texts in the order of their characters'
code points.
-/

namespace LinkedNotes.Text

/-! ## Lines

A text without any line feed is one line, and a line feed at the end is followed by an empty last
line. -/

/-- The pieces between line feeds. -/
def lines : List Char → List (List Char)
  | [] => [[]]
  | c :: r =>
    if c = '\n' then [] :: lines r
    else
      match lines r with
      | [] => [[c]]
      | line :: rest => (c :: line) :: rest

/-- The lines that hold something. -/
def fullLines (text : List Char) : List (List Char) := (lines text).filter (· ≠ [])

/-! ## Distinct members -/

/-- Drop every repetition of an earlier member. -/
def distinct {α : Type} [DecidableEq α] : List α → List α
  | [] => []
  | a :: r => a :: (distinct r).filter (· ≠ a)

theorem mem_distinct {α : Type} [DecidableEq α] {a : α} {l : List α} :
    a ∈ distinct l ↔ a ∈ l := by
  induction l with
  | nil => rfl
  | cons b r ih =>
    simp only [distinct, List.mem_cons, List.mem_filter, ih, decide_eq_true_eq, ne_eq]
    by_cases h : a = b <;> simp [h]

theorem nodup_distinct {α : Type} [DecidableEq α] (l : List α) : (distinct l).Nodup := by
  induction l with
  | nil => exact List.Pairwise.nil
  | cons b r ih =>
    rw [distinct, List.nodup_cons]
    exact ⟨by simp, ih.filter _⟩

/-! ## Order -/

/-- Put a text in front of the first that does not come before it. -/
def insertSorted (text : String) : List String → List String
  | [] => [text]
  | other :: r => if text ≤ other then text :: other :: r else other :: insertSorted text r

/-- The texts in order, by insertion: equal texts are the same, so it does not matter which of them
comes first. -/
def sorted (texts : List String) : List String := texts.foldr insertSorted []

theorem perm_insertSorted (text : String) (texts : List String) :
    (insertSorted text texts).Perm (text :: texts) := by
  induction texts with
  | nil => exact .refl _
  | cons other r ih =>
    unfold insertSorted
    split
    · exact .refl _
    · exact (ih.cons other).trans (.swap text other r)

theorem pairwise_insertSorted {text : String} {texts : List String} (h : texts.Pairwise (· ≤ ·)) :
    (insertSorted text texts).Pairwise (· ≤ ·) := by
  induction h with
  | nil => exact List.pairwise_singleton ..
  | @cons other r hother hr ih =>
    unfold insertSorted
    split
    · next hle =>
      refine List.pairwise_cons.2 ⟨?_, List.pairwise_cons.2 ⟨hother, hr⟩⟩
      intro b hb
      rcases List.mem_cons.1 hb with rfl | hmem
      · exact hle
      · exact String.le_trans hle (hother b hmem)
    · next hle =>
      refine List.pairwise_cons.2 ⟨?_, ih⟩
      intro b hb
      rcases List.mem_cons.1 ((perm_insertSorted text r).mem_iff.1 hb) with rfl | hmem
      · exact (String.le_total b other).resolve_left hle
      · exact hother b hmem

theorem perm_sorted (texts : List String) : (sorted texts).Perm texts := by
  induction texts with
  | nil => exact .refl _
  | cons text r ih => exact (perm_insertSorted text (sorted r)).trans (ih.cons text)

theorem pairwise_sorted (texts : List String) : (sorted texts).Pairwise (· ≤ ·) := by
  induction texts with
  | nil => exact .nil
  | cons text r ih => exact pairwise_insertSorted ih

end LinkedNotes.Text
