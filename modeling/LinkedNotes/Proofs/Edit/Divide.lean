import LinkedNotes.Proofs.Edit.Search

/-!
# Divide and conquer

`Divides` is the division of two texts as it is done with work arrays that all searches share, and
with nothing to stop it but the texts themselves: what the arrays hold is left over from the
searches before, and a division goes on as long as there is something to divide. It comes to an end
on all texts, and with the script that `conquer` makes (`divides_iff`).
-/

namespace LinkedNotes.Edit

variable {old new : List Char} {reach x y : Nat} {script : List Segment}

/-! ## Ends that differ -/

/-- What is left behind the common front starts with different characters. -/
lemma head?_ne_of_shareFront (a b : List Char) (ha : (shareFront a b).2.1 ≠ [])
    (hb : (shareFront a b).2.2 ≠ []) :
    (shareFront a b).2.1.head? ≠ (shareFront a b).2.2.head? := by
  induction a generalizing b with
  | nil => exact absurd rfl ha
  | cons c r ih =>
    cases b with
    | nil => exact absurd rfl hb
    | cons e s =>
      rw [shareFront] at ha hb ⊢
      split at ha
      · next heq =>
        rw [if_pos heq] at hb ⊢
        exact ih s ha hb
      · next hne =>
        rw [if_neg hne]
        simpa using hne

/-- What is left before the common back ends with different characters. -/
lemma getLast?_ne_of_shareBack (a b : List Char) (ha : (shareBack a b).1 ≠ [])
    (hb : (shareBack a b).2.1 ≠ []) :
    (shareBack a b).1.getLast? ≠ (shareBack a b).2.1.getLast? := by
  have h := head?_ne_of_shareFront a.reverse b.reverse (by simpa [shareBack] using ha)
    (by simpa [shareBack] using hb)
  simpa [shareBack] using h

/-- Without the common back, a text still starts as it did. -/
lemma head?_shareBack_left (a b : List Char) (h : (shareBack a b).1 ≠ []) :
    (shareBack a b).1.head? = a.head? := by
  conv_rhs => rw [← shareBack_left a b]
  exact (List.head?_append_of_ne_nil _ h).symm

@[inherit_doc head?_shareBack_left]
lemma head?_shareBack_right (a b : List Char) (h : (shareBack a b).2.1 ≠ []) :
    (shareBack a b).2.1.head? = b.head? := by
  conv_rhs => rw [← shareBack_right a b]
  exact (List.head?_append_of_ne_nil _ h).symm

/-- What differs between two texts differs at its front and at its back. -/
lemma Ends.differ (hold : (Ends.of old new).old ≠ []) (hnew : (Ends.of old new).new ≠ []) :
    (Ends.of old new).old.head? ≠ (Ends.of old new).new.head? ∧
      (Ends.of old new).old.getLast? ≠ (Ends.of old new).new.getLast? := by
  have hleft := head?_shareBack_left _ _ hold
  have hright := head?_shareBack_right _ _ hnew
  refine ⟨?_, getLast?_ne_of_shareBack _ _ hold hnew⟩
  show (shareBack _ _).1.head? ≠ (shareBack _ _).2.1.head?
  rw [hleft, hright]
  refine head?_ne_of_shareFront old new (fun hnil => ?_) fun hnil => ?_
  · exact hold (List.head?_eq_none_iff.1 (hleft.trans (congrArg List.head? hnil)))
  · exact hnew (List.head?_eq_none_iff.1 (hright.trans (congrArg List.head? hnil)))

/-! ## Searches with shared work arrays -/

/-- The search finds the point whatever the work arrays hold. It begins at the front of both texts,
and writes that into the arrays first. -/
def Snake.Finds (reach : Nat) (old new : List Char) (x y : Nat) : Prop :=
  ∀ front back : Frontier, front.Spans reach → back.Spans reach →
    search old.toArray new.toArray old.reverse.toArray new.reverse.toArray (front.record 1 0)
      (back.record 1 0) 0 ((old.length + new.length + 1) / 2 + 1) = some (x, y)

lemma Snake.Finds.unique {x' y' : Nat} (h : Snake.Finds reach old new x y)
    (h' : Snake.Finds reach old new x' y') : x = x' ∧ y = y' := by
  have hstart := Frontier.spans_start reach
  have heq := (h _ _ hstart hstart).symm.trans (h' _ _ hstart hstart)
  simpa using heq

/-- Texts that differ at both ends are split by a point that every search finds. -/
theorem Snake.exists_finds (hold : old ≠ []) (hnew : new ≠ []) (hhead : old.head? ≠ new.head?)
    (hlast : old.getLast? ≠ new.getLast?) (hreach : (old.length + new.length + 1) / 2 ≤ reach) :
    ∃ x y, Snake.Finds reach old new x y ∧ Snake.point? old new = some (x, y) ∧
      Splits x y old.length new.length := by
  have hold' := List.length_pos_iff.2 hold
  have hnew' := List.length_pos_iff.2 hnew
  have hback : ∀ l : List Char, l.reverse[l.length - 1]? = l.head? := by
    intro l
    rw [← List.length_reverse, ← List.getLast?_eq_getElem?, List.getLast?_reverse]
  obtain ⟨x, y, hmiddle, hsplits⟩ :=
    @exists_splits_of_middle old.toArray new.toArray old.reverse.toArray new.reverse.toArray 0
      (by simp) (by simp) hold' hnew'
      (agreement_eq_zero_of_ne (by simpa [List.head?_eq_getElem?] using hhead))
      (agreement_eq_zero_of_ne (by simpa [← List.head?_eq_getElem?] using hlast))
      (by simpa [hback] using hhead)
      ((old.length + new.length + 1) / 2) (by simp) trivial
  refine ⟨x, y, fun front back hfront hback => ?_, ?_, hsplits⟩
  · rw [← hmiddle]
    exact search_eq_middle _ (by omega) (by omega) (hfront.record _ _) (hback.record _ _)
      (hfront.knows_record (by omega) _ _) (hback.knows_record (by omega) _ _)
  · rw [← hmiddle]
    exact search_eq_middle _ (by omega) (by omega) (Frontier.spans_start _)
      (Frontier.spans_start _) (Frontier.reached_start _ _) (Frontier.reached_start _ _)

/-! ## Division -/

/-- A script by divide and conquer, in which every search works on the same arrays. -/
inductive Divides (reach : Nat) : List Char → List Char → List Segment → Prop
  /-- One of the texts has nothing but what they share at their ends. -/
  | whole {old new : List Char} (h : (Ends.of old new).old = [] ∨ (Ends.of old new).new = []) :
      Divides reach old new (piece .equal (Ends.of old new).front ++
        replacement (Ends.of old new).old (Ends.of old new).new ++
        piece .equal (Ends.of old new).back)
  /-- What differs is split at the point that the search finds. -/
  | split {old new : List Char} {x y : Nat} {first second : List Segment}
      (hold : (Ends.of old new).old ≠ []) (hnew : (Ends.of old new).new ≠ [])
      (hpoint : Snake.Finds reach (Ends.of old new).old (Ends.of old new).new x y)
      (hfirst : Divides reach ((Ends.of old new).old.take x) ((Ends.of old new).new.take y) first)
      (hsecond : Divides reach ((Ends.of old new).old.drop x) ((Ends.of old new).new.drop y)
        second) :
      Divides reach old new (piece .equal (Ends.of old new).front ++ (first ++ second) ++
        piece .equal (Ends.of old new).back)

/-- What differs is split into smaller texts, where every search finds the point. -/
lemma exists_finds_of_ends (hold : (Ends.of old new).old ≠ []) (hnew : (Ends.of old new).new ≠ [])
    (hreach : (old.length + new.length + 1) / 2 ≤ reach) :
    ∃ x y, Snake.Finds reach (Ends.of old new).old (Ends.of old new).new x y ∧
      Snake.point? (Ends.of old new).old (Ends.of old new).new = some (x, y) ∧
      Splits x y (Ends.of old new).old.length (Ends.of old new).new.length := by
  obtain ⟨hhead, hlast⟩ := Ends.differ hold hnew
  have hle := Ends.length_old_le old new
  have hle' := Ends.length_new_le old new
  exact Snake.exists_finds hold hnew hhead hlast (by omega)

lemma conquer_of_nil (h : (Ends.of old new).old = [] ∨ (Ends.of old new).new = []) :
    conquer old new = piece .equal (Ends.of old new).front ++
      replacement (Ends.of old new).old (Ends.of old new).new ++
      piece .equal (Ends.of old new).back := by
  rw [conquer, if_pos h]

lemma conquer_of_splits (hold : (Ends.of old new).old ≠ []) (hnew : (Ends.of old new).new ≠ [])
    (hpoint : Snake.point? (Ends.of old new).old (Ends.of old new).new = some (x, y))
    (hsplits : Splits x y (Ends.of old new).old.length (Ends.of old new).new.length) :
    conquer old new = piece .equal (Ends.of old new).front ++
      (conquer ((Ends.of old new).old.take x) ((Ends.of old new).new.take y) ++
        conquer ((Ends.of old new).old.drop x) ((Ends.of old new).new.drop y)) ++
      piece .equal (Ends.of old new).back := by
  rw [conquer, if_neg (not_or.2 ⟨hold, hnew⟩), hpoint]
  dsimp only
  rw [if_pos hsplits]

/-- The division comes to an end, and makes the script of `conquer`. -/
theorem divides_iff (hreach : (old.length + new.length + 1) / 2 ≤ reach) :
    Divides reach old new script ↔ script = conquer old new := by
  have hparts : ∀ {old new : List Char} {x y : Nat}, (old.length + new.length + 1) / 2 ≤ reach →
      (((Ends.of old new).old.take x).length + ((Ends.of old new).new.take y).length + 1) / 2
        ≤ reach ∧
      (((Ends.of old new).old.drop x).length + ((Ends.of old new).new.drop y).length + 1) / 2
        ≤ reach := by
    intro old new x y hreach
    have hle := Ends.length_old_le old new
    have hle' := Ends.length_new_le old new
    simp only [List.length_take, List.length_drop]
    omega
  constructor
  · intro h
    induction h with
    | whole h => exact (conquer_of_nil h).symm
    | split hold hnew hpoint hfirst hsecond ihFirst ihSecond =>
      obtain ⟨x', y', hfinds, hfound, hsplits⟩ := exists_finds_of_ends hold hnew hreach
      obtain ⟨rfl, rfl⟩ := hpoint.unique hfinds
      rw [conquer_of_splits hold hnew hfound hsplits, ihFirst (hparts hreach).1,
        ihSecond (hparts hreach).2]
  · rintro rfl
    induction hsize : old.length + new.length using Nat.strongRecOn generalizing old new with
    | ind size ih =>
      by_cases hnil : (Ends.of old new).old = [] ∨ (Ends.of old new).new = []
      · rw [conquer_of_nil hnil]
        exact .whole hnil
      · obtain ⟨hold, hnew⟩ := not_or.1 hnil
        obtain ⟨x, y, hfinds, hfound, hsplits⟩ := exists_finds_of_ends hold hnew hreach
        have hle := Ends.length_old_le old new
        have hle' := Ends.length_new_le old new
        rw [conquer_of_splits hold hnew hfound hsplits]
        -- the point lies inside, so both halves are smaller
        obtain ⟨hx, hy, hpos, hlt⟩ := hsplits
        refine .split hold hnew hfinds (ih _ ?_ (hparts hreach).1 rfl)
          (ih _ ?_ (hparts hreach).2 rfl)
        · simp only [List.length_take]
          omega
        · simp only [List.length_drop]
          omega

end LinkedNotes.Edit
