import LinkedNotes.Edit.Slide
import LinkedNotes.Edit.Snake

/-!
# Differences

`diff` finds a shortest script between two texts by divide and conquer: what the texts share at
their ends is kept, and the rest is split at a middle snake and solved half by half. The script is
then put in order by `slide`, `group` and `fuse`.
-/

namespace LinkedNotes.Edit

/-- The point `(x, y)` splits texts of lengths `n` and `m` into two smaller problems. -/
def Splits (x y n m : Nat) : Prop := x ≤ n ∧ y ≤ m ∧ 0 < x + y ∧ x + y < n + m

instance (x y n m : Nat) : Decidable (Splits x y n m) := by
  unfold Splits
  infer_instance

/-- A script by divide and conquer. Where no point splits the problem, the old text is replaced
whole. -/
def conquer (old new : List Char) : List Segment :=
  let ends := Ends.of old new
  let changes :=
    if ends.old = [] ∨ ends.new = [] then replacement ends.old ends.new
    else
      match Snake.point? ends.old ends.new with
      | none => replacement ends.old ends.new
      | some (x, y) =>
        if Splits x y ends.old.length ends.new.length then
          conquer (ends.old.take x) (ends.new.take y) ++
            conquer (ends.old.drop x) (ends.new.drop y)
        else replacement ends.old ends.new
  piece .equal ends.front ++ changes ++ piece .equal ends.back
  termination_by old.length + new.length
  decreasing_by
    all_goals
      rename_i h
      have ho := Ends.length_old_le old new
      have hn := Ends.length_new_le old new
      obtain ⟨hx, hy, hpos, hlt⟩ := h
      simp only [List.length_take, List.length_drop, ends] at *
      omega

/-- The script that turns `old` into `new`. -/
def diff (old new : List Char) : List Segment := fuse (group (slide (conquer old new)))

end LinkedNotes.Edit
