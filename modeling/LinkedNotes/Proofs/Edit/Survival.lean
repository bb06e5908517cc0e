import LinkedNotes.Proofs.Edit.Carried

/-!
# Where a range survives

How far an edit moves what it keeps. A kept character moves on by what is inserted in front of it,
and back by what is deleted there (`Keeps.add_deletedBefore`). A range that no change touches is
kept character by character, and nothing is inserted or deleted within it, so it moves in one piece:
the new text holds the same characters, moved by the `shift` at the start of the range
(`Carries.survives`).
-/

namespace LinkedNotes.Edit

open Text (Interval)

/-- How many characters a script inserts in front of the character at an offset of the old text,
those at the offset itself included. -/
def insertedBefore : List Segment → Nat → Nat
  | [], _ => 0
  | s :: r, i =>
    match s.kind with
    | .insert => s.length + insertedBefore r i
    | .equal | .delete => if i < s.length then 0 else insertedBefore r (i - s.length)

/-- How many of the characters in front of an offset of the old text a script deletes. -/
def deletedBefore : List Segment → Nat → Nat
  | [], _ => 0
  | s :: r, i =>
    match s.kind with
    | .insert => deletedBefore r i
    | .equal => if i < s.length then 0 else deletedBefore r (i - s.length)
    | .delete => if i < s.length then i else s.length + deletedBefore r (i - s.length)

/-- How far on a script moves the character at an offset of the old text, if it keeps that. -/
def shift (script : List Segment) (i : Nat) : Int :=
  (insertedBefore script i : Int) - deletedBefore script i

/-! ## Behind the first segment -/

section Behind

variable (t : List Char) (r : List Segment) (i : Nat)

/-- An offset behind the first segment is looked up among the others. -/
lemma skip_first {α : Type} (first : α) (rest : Nat → α) :
    (if t.length + i < t.length then first else rest (t.length + i - t.length)) = rest i := by
  rw [if_neg (by omega), Nat.add_sub_cancel_left]

lemma insertedBefore_insert :
    insertedBefore (⟨.insert, t⟩ :: r) i = t.length + insertedBefore r i := rfl

lemma deletedBefore_insert : deletedBefore (⟨.insert, t⟩ :: r) i = deletedBefore r i := rfl

lemma insertedBefore_equal_add :
    insertedBefore (⟨.equal, t⟩ :: r) (t.length + i) = insertedBefore r i :=
  skip_first t i 0 (insertedBefore r)

lemma deletedBefore_equal_add :
    deletedBefore (⟨.equal, t⟩ :: r) (t.length + i) = deletedBefore r i :=
  skip_first t i 0 (deletedBefore r)

lemma insertedBefore_delete_add :
    insertedBefore (⟨.delete, t⟩ :: r) (t.length + i) = insertedBefore r i :=
  skip_first t i 0 (insertedBefore r)

lemma deletedBefore_delete_add :
    deletedBefore (⟨.delete, t⟩ :: r) (t.length + i) = t.length + deletedBefore r i :=
  skip_first t i (t.length + i) fun i => t.length + deletedBefore r i

end Behind

/-! ## Kept characters -/

namespace Keeps

variable {script : List Segment} {i j : Nat}

/-- A kept character stands in the new text. -/
lemma lt_length_target (h : Keeps script i j) : j < (target script).length := by
  induction h with
  | here h =>
    rw [target_cons, new_equal, List.length_append]
    omega
  | behindEqual h ih =>
    rw [target_cons, new_equal, List.length_append]
    omega
  | behindDelete h ih => rwa [target_cons, new_delete, List.nil_append]
  | behindInsert h ih =>
    rw [target_cons, new_insert, List.length_append]
    omega

/-- Where a kept character stands in the new text: what is inserted in front of it stands there too,
and what is deleted there does not. -/
theorem add_deletedBefore (h : Keeps script i j) :
    j + deletedBefore script i = i + insertedBefore script i := by
  induction h with
  | here h => simp [deletedBefore, insertedBefore, Segment.length, h]
  | behindEqual h ih =>
    rw [deletedBefore_equal_add, insertedBefore_equal_add]
    omega
  | behindDelete h ih =>
    rw [deletedBefore_delete_add, insertedBefore_delete_add]
    omega
  | behindInsert h ih =>
    rw [deletedBefore_insert, insertedBefore_insert]
    omega

end Keeps

/-! ## Ranges -/

/-- Range `i` of the old text stands unchanged in range `j` of the new text, moved by the shift at
its start. -/
structure Survives (script : List Segment) (i j : Interval) : Prop where
  start_eq : (j.start : Int) = i.start + shift script i.start
  stop_eq : (j.stop : Int) = i.stop + shift script i.start
  stop_le : j.stop ≤ (target script).length
  text_eq : ((target script).take j.stop).drop j.start = ((source script).take i.stop).drop i.start

/-- A carried range moves by the shift at its start. -/
lemma Carries.survives {script : List Segment} {i j : Interval} (h : Carries script i j)
    (hne : i.start < i.stop) : Survives script i j := by
  have hpos : 0 < i.length := by
    rw [Text.Interval.length]
    omega
  -- the first character of the range says how far it moves, and the last one where it ends
  have hshift := (h.keeps 0 hpos).add_deletedBefore
  have hlast := (h.keeps (i.length - 1) (by omega)).lt_length_target
  have hlength := h.length_eq
  simp only [Text.Interval.length, Nat.add_zero] at hpos hshift hlast hlength
  refine ⟨?_, ?_, ?_, ?_⟩
  · rw [shift]
    omega
  · rw [shift]
    omega
  · omega
  · have htext := h.window_eq
    rw [List.drop_take, List.drop_take]
    exact htext.symm

/-- Whatever the script, each protected range survives it that it does not touch, as far as the
range lies within the old text: the new text holds the same characters, moved by the difference of
what is inserted and what is deleted in front of them. -/
theorem survives_of_not_touches {script : List Segment} {ranges : List Interval}
    (h : touches (source script).length script ranges = false) :
    ∀ i ∈ ranges, (i.clamp (source script).length).start < (i.clamp (source script).length).stop →
      ∃ j, Survives script (i.clamp (source script).length) j := by
  intro i hi hne
  obtain ⟨j, hcarries⟩ := exists_carries_clamp h hi hne
  exact ⟨j, hcarries.survives hne⟩

/-- A script with changes in front of two ranges, the second of which goes on behind the text. -/
def around : List Segment :=
  [⟨.insert, "new ".toList⟩, ⟨.equal, "a ".toList⟩, ⟨.delete, "bb ".toList⟩,
    ⟨.equal, "[[cc]] ".toList⟩, ⟨.insert, "xyz".toList⟩, ⟨.delete, "d".toList⟩,
    ⟨.equal, " [[e]]".toList⟩]

theorem survives_around :
    touches (source around).length around [⟨5, 11⟩, ⟨14, 40⟩] = false ∧
      (∃ j, Survives around ⟨5, 11⟩ j) ∧ shift around 5 = 1 ∧
      (∃ j, Survives around ⟨14, 19⟩ j) ∧ shift around 14 = 3 := by
  have huntouched : touches (source around).length around [⟨5, 11⟩, ⟨14, 40⟩] = false := by decide
  have hsurvive := survives_of_not_touches huntouched
  exact ⟨huntouched, hsurvive ⟨5, 11⟩ (by simp) (by decide), by decide,
    hsurvive ⟨14, 40⟩ (by simp) (by decide), by decide⟩

end LinkedNotes.Edit
