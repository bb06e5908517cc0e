import LinkedNotes.Text.Collection
import Mathlib.Tactic.Lemma

/-!
# Lines read back

Lines that are each followed by a line feed are the lines of the whole text.
-/

namespace LinkedNotes.Text

/-- A text has at least one line. -/
lemma lines_ne_nil (text : List Char) : lines text ≠ [] := by
  cases text with
  | nil => exact List.cons_ne_nil _ _
  | cons c r =>
    unfold lines
    split
    · exact List.cons_ne_nil _ _
    · split <;> exact List.cons_ne_nil _ _

/-- The lines of two texts with a line feed between them are those of the one and those of the
other. -/
theorem lines_append (text text' : List Char) :
    lines (text ++ '\n' :: text') = lines text ++ lines text' := by
  induction text with
  | nil => simp [lines]
  | cons c r ih =>
    rw [List.cons_append, lines, lines, ih]
    split
    · rfl
    · obtain ⟨line, rest, hlines⟩ := List.exists_cons_of_ne_nil (lines_ne_nil r)
      simp only [hlines, List.cons_append]

/-- A text without a line feed is one line. -/
lemma lines_of_notMem {line : List Char} (h : '\n' ∉ line) : lines line = [line] := by
  induction line with
  | nil => rfl
  | cons c r ih =>
    rw [List.mem_cons, not_or] at h
    rw [lines, if_neg (Ne.symm h.1), ih h.2]

/-- The lines that hold something of two texts with a line feed between them. -/
theorem fullLines_append (text text' : List Char) :
    fullLines (text ++ '\n' :: text') = fullLines text ++ fullLines text' := by
  rw [fullLines, lines_append, List.filter_append, fullLines, fullLines]

lemma ne_nil_of_mem_fullLines {text line : List Char} (h : line ∈ fullLines text) : line ≠ [] := by
  simpa using (List.mem_filter.1 h).2

/-- Lines that hold something and no line feed are read back. -/
theorem fullLines_flatMap {written : List (List Char)}
    (h : ∀ line ∈ written, line ≠ [] ∧ '\n' ∉ line) :
    fullLines (written.flatMap fun line => line ++ ['\n']) = written := by
  rw [fullLines]
  induction written with
  | nil => rfl
  | cons line rest ih =>
    obtain ⟨hne, hline⟩ := h line (by simp)
    have hrest := ih fun other hother => h other (by simp [hother])
    rw [List.flatMap_cons, List.append_assoc, List.singleton_append, lines_append,
      lines_of_notMem hline, List.singleton_append, List.filter_cons_of_pos (by simpa using hne),
      hrest]

end LinkedNotes.Text
