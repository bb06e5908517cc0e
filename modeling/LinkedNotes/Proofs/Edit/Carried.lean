import LinkedNotes.Edit.Touch
import LinkedNotes.Proofs.Edit.Revisions
import Mathlib.Tactic.Lemma

/-!
# What an edit carries over

`Keeps script i j` says where a kept character stands before and after the edit. Kept characters
stay in order, so a range of kept neighbours is carried over in one piece (`Carries`). The main
result here, `exists_carries`, is about ranges that `touches` reports as not touched: each of them
is carried over.
-/

namespace LinkedNotes.Edit

open Text (Interval)

/-! ## Kept characters -/

/-- The character at offset `i` of the old text is kept, at offset `j` of the new text. -/
inductive Keeps : List Segment → Nat → Nat → Prop
  | here {t : List Char} {r : List Segment} {i : Nat} (h : i < t.length) :
    Keeps (⟨.equal, t⟩ :: r) i i
  | behindEqual {t : List Char} {r : List Segment} {i j : Nat} (h : Keeps r i j) :
    Keeps (⟨.equal, t⟩ :: r) (t.length + i) (t.length + j)
  | behindDelete {t : List Char} {r : List Segment} {i j : Nat} (h : Keeps r i j) :
    Keeps (⟨.delete, t⟩ :: r) (t.length + i) j
  | behindInsert {t : List Char} {r : List Segment} {i j : Nat} (h : Keeps r i j) :
    Keeps (⟨.insert, t⟩ :: r) i (t.length + j)

namespace Keeps

variable {script : List Segment} {i j i' j' : Nat}

/-- A kept character is the same before and after. -/
theorem getElem?_eq (h : Keeps script i j) : (source script)[i]? = (target script)[j]? := by
  induction h with
  | here h => simp [List.getElem?_append_left, h]
  | behindEqual h ih => simpa [List.getElem?_append_right] using ih
  | behindDelete h ih => simpa [List.getElem?_append_right] using ih
  | behindInsert h ih => simpa [List.getElem?_append_right] using ih

/-- Kept characters stay in order. -/
theorem lt_iff_lt (h : Keeps script i j) (h' : Keeps script i' j') : i < i' ↔ j < j' := by
  induction h generalizing i' j' with
  | here h =>
    cases h' with
    | here h' => rfl
    | behindEqual h' => omega
  | behindEqual h ih =>
    cases h' with
    | here h' => omega
    | behindEqual h' => have := ih h'; omega
  | behindDelete h ih =>
    cases h' with
    | behindDelete h' => have := ih h'; omega
  | behindInsert h ih =>
    cases h' with
    | behindInsert h' => have := ih h'; omega

end Keeps

/-! ## Carried ranges -/

/-- The characters in range `i` of the old text are kept and make up range `j` of the new text. -/
structure Carries (script : List Segment) (i j : Interval) : Prop where
  length_eq : i.length = j.length
  keeps : ∀ k < i.length, Keeps script (i.start + k) (j.start + k)

namespace Carries

variable {script : List Segment} {i j i' j' : Interval}

/-- A carried range holds the same text before and after. -/
theorem window_eq (h : Carries script i j) :
    ((source script).drop i.start).take i.length =
      ((target script).drop j.start).take j.length := by
  -- character by character: inside the range each one is kept, and behind it there is none
  apply List.ext_getElem?
  intro k
  rw [← h.length_eq]
  by_cases hk : k < i.length
  · simpa [List.getElem?_take, hk] using (h.keeps k hk).getElem?_eq
  · simp only [List.getElem?_take, if_neg hk]

/-- Carried ranges stay in order. -/
theorem start_lt_iff (h : Carries script i j) (h' : Carries script i' j') (hi : 0 < i.length)
    (hi' : 0 < i'.length) : i.start < i'.start ↔ j.start < j'.start :=
  (h.keeps 0 hi).lt_iff_lt (h'.keeps 0 hi')

end Carries

/-! ## Ranges that are not touched -/

/-- What touches no range of several touches none of them. -/
lemma touchesFrom_singleton {ranges : List Interval} {offset : Nat} {script : List Segment}
    {i : Interval} (h : touchesFrom ranges offset script = false) (hi : i ∈ ranges) :
    touchesFrom [i] offset script = false := by
  induction script generalizing offset with
  | nil => rfl
  | cons s r ih =>
    obtain ⟨kind, t⟩ := s
    cases kind with
    | equal => exact ih h
    | insert =>
      simp only [touchesFrom, Bool.or_eq_false_iff, List.any_eq_false] at h ⊢
      exact ⟨fun k hk => h.1 k (by simp_all), ih h.2⟩
    | delete =>
      simp only [touchesFrom, Bool.or_eq_false_iff, List.any_eq_false] at h ⊢
      exact ⟨fun k hk => h.1 k (by simp_all), ih h.2⟩

section Untouched

variable {i : Interval} {offset : Nat} {t : List Char} {r : List Segment}

lemma untouched_equal (h : touchesFrom [i] offset (⟨.equal, t⟩ :: r) = false) :
    touchesFrom [i] (offset + t.length) r = false := h

/-- A deletion that does not touch a range lies before it or behind it. -/
lemma untouched_delete (h : touchesFrom [i] offset (⟨.delete, t⟩ :: r) = false) :
    (i.stop ≤ offset ∨ offset + t.length ≤ i.start) ∧
      touchesFrom [i] (offset + t.length) r = false := by
  simp only [touchesFrom, List.any_cons, List.any_nil, Bool.or_false,
    Interval.overlaps, Bool.or_eq_false_iff, Bool.and_eq_false_iff,
    decide_eq_false_iff_not, Nat.not_lt] at h
  exact h

/-- An insertion that does not touch a range is made before it or behind it, and not at an end. -/
lemma untouched_insert (h : touchesFrom [i] offset (⟨.insert, t⟩ :: r) = false) :
    (offset < i.start ∨ i.stop < offset) ∧ touchesFrom [i] offset r = false := by
  simp only [touchesFrom, List.any_cons, List.any_nil, Bool.or_false, Interval.meets,
    Bool.or_eq_false_iff, Bool.and_eq_false_iff, decide_eq_false_iff_not, Nat.not_le] at h
  exact h

end Untouched

/-- Inside a range that is not touched, nothing is deleted or inserted up to its end. -/
lemma keeps_of_inside {i : Interval} {offset : Nat} {script : List Segment}
    (h : touchesFrom [i] offset script = false) (hstart : i.start < offset)
    (hstop : i.stop ≤ offset + (source script).length) {k : Nat} (hk : offset + k < i.stop) :
    Keeps script k k := by
  induction script generalizing offset k with
  | nil => simp only [source_nil, List.length_nil] at hstop; omega
  | cons s r ih =>
    obtain ⟨kind, t⟩ := s
    cases kind with
    | equal =>
      simp only [source_cons, old_equal, List.length_append] at hstop
      by_cases hlt : k < t.length
      · exact .here hlt
      · have hrest := ih (untouched_equal h) (k := k - t.length) (by omega) (by omega) (by omega)
        have hk' : t.length + (k - t.length) = k := by omega
        rw [← hk']
        exact .behindEqual hrest
    -- the range has started and has not stopped, so neither can stand here
    | delete => have := (untouched_delete h).1; omega
    | insert => have := (untouched_insert h).1; omega

/-- A range further on that is not touched is kept, at some offset of the new text. -/
lemma keeps_of_ahead {i : Interval} {offset : Nat} {script : List Segment}
    (h : touchesFrom [i] offset script = false) (hoffset : offset ≤ i.start)
    (hne : i.start < i.stop) (hstop : i.stop ≤ offset + (source script).length) :
    ∃ j, ∀ k < i.length, Keeps script (i.start - offset + k) (j + k) := by
  induction script generalizing offset with
  | nil => simp only [source_nil, List.length_nil] at hstop; omega
  | cons s r ih =>
    obtain ⟨kind, t⟩ := s
    cases kind with
    | equal =>
      simp only [source_cons, old_equal, List.length_append] at hstop
      have hr := untouched_equal h
      by_cases hbehind : offset + t.length ≤ i.start
      · obtain ⟨j, hj⟩ := ih hr hbehind (by omega)
        refine ⟨t.length + j, fun k hk => ?_⟩
        have hk' : i.start - offset + k = t.length + (i.start - (offset + t.length) + k) := by omega
        rw [hk', Nat.add_assoc]
        exact .behindEqual (hj k hk)
      · -- the range starts in this segment, and may go on behind it
        refine ⟨i.start - offset, fun k hk => ?_⟩
        rw [Text.Interval.length] at hk
        by_cases hlt : i.start - offset + k < t.length
        · exact .here hlt
        · have hrest := keeps_of_inside hr (k := i.start - offset + k - t.length) (by omega)
            (by omega) (by omega)
          have hk' : t.length + (i.start - offset + k - t.length) = i.start - offset + k := by omega
          rw [← hk']
          exact .behindEqual hrest
    | delete =>
      obtain ⟨hplace, hr⟩ := untouched_delete h
      simp only [source_cons, old_delete, List.length_append] at hstop
      obtain ⟨j, hj⟩ := ih hr (by omega) (by omega)
      refine ⟨j, fun k hk => ?_⟩
      have hk' : i.start - offset + k = t.length + (i.start - (offset + t.length) + k) := by omega
      rw [hk']
      exact .behindDelete (hj k hk)
    | insert =>
      obtain ⟨hplace, hr⟩ := untouched_insert h
      simp only [source_cons, old_insert, List.nil_append] at hstop
      obtain ⟨j, hj⟩ := ih hr hoffset hstop
      refine ⟨t.length + j, fun k hk => ?_⟩
      rw [Nat.add_assoc]
      exact .behindInsert (hj k hk)

/-- What a script leaves untouched of a range is carried over: the part of it within the old text,
if there is any. -/
theorem exists_carries_clamp {script : List Segment} {ranges : List Interval} {i : Interval}
    (h : touches (source script).length script ranges = false) (hi : i ∈ ranges)
    (hne : (i.clamp (source script).length).start < (i.clamp (source script).length).stop) :
    ∃ j, Carries script (i.clamp (source script).length) j := by
  have hmem : i.clamp (source script).length ∈
      (ranges.map (Interval.clamp (source script).length)).filter fun i => !i.isEmpty := by
    rw [List.mem_filter]
    exact ⟨List.mem_map.2 ⟨i, hi, rfl⟩, by simp [Interval.isEmpty, hne]⟩
  have hstop : (i.clamp (source script).length).stop ≤ (source script).length :=
    Nat.min_le_right _ _
  have hone := touchesFrom_singleton h hmem
  obtain ⟨j, hj⟩ := keeps_of_ahead hone (Nat.zero_le _) hne (by omega)
  refine ⟨⟨j, j + (i.clamp (source script).length).length⟩, by simp [Text.Interval.length],
    fun k hk => ?_⟩
  simpa using hj k hk

/-- Every range of the old text that a script does not touch is carried over. -/
theorem exists_carries {script : List Segment} {ranges : List Interval} {i : Interval}
    (h : touches (source script).length script ranges = false) (hi : i ∈ ranges)
    (hne : i.start < i.stop) (hstop : i.stop ≤ (source script).length) :
    ∃ j, Carries script i j := by
  -- a range within the old text is looked at as it is
  have hclamp : i.clamp (source script).length = i := by
    rw [Interval.clamp, Nat.min_eq_left (by omega), Nat.min_eq_left hstop]
  have hcarries := exists_carries_clamp h hi
  rw [hclamp] at hcarries
  exact hcarries hne

end LinkedNotes.Edit
