/-!
# Shared ends

What two texts have in common at their front and at their back.
-/

namespace LinkedNotes.Edit

/-- The longest common front of two texts, and what follows it in each. -/
def shareFront : List Char → List Char → List Char × List Char × List Char
  | a :: as, b :: bs =>
    if a = b then
      let (front, restA, restB) := shareFront as bs
      (a :: front, restA, restB)
    else ([], a :: as, b :: bs)
  | as, bs => ([], as, bs)

/-- The longest common back of two texts, after what precedes it in each. -/
def shareBack (a b : List Char) : List Char × List Char × List Char :=
  let (back, restA, restB) := shareFront a.reverse b.reverse
  (restA.reverse, restB.reverse, back.reverse)

theorem shareFront_left (a b : List Char) :
    (shareFront a b).1 ++ (shareFront a b).2.1 = a := by
  induction a generalizing b with
  | nil => simp [shareFront]
  | cons c r ih =>
    cases b with
    | nil => simp [shareFront]
    | cons d s =>
      rw [shareFront]
      split
      · simpa using ih s
      · rfl

theorem shareFront_right (a b : List Char) :
    (shareFront a b).1 ++ (shareFront a b).2.2 = b := by
  induction a generalizing b with
  | nil => simp [shareFront]
  | cons c r ih =>
    cases b with
    | nil => simp [shareFront]
    | cons d s =>
      rw [shareFront]
      split
      · next h => simpa [h] using ih s
      · rfl

theorem shareBack_left (a b : List Char) :
    (shareBack a b).1 ++ (shareBack a b).2.2 = a := by
  have h := congrArg List.reverse (shareFront_left a.reverse b.reverse)
  simpa [shareBack] using h

theorem shareBack_right (a b : List Char) :
    (shareBack a b).2.1 ++ (shareBack a b).2.2 = b := by
  have h := congrArg List.reverse (shareFront_right a.reverse b.reverse)
  simpa [shareBack] using h

/-- Two texts cut into a common front, what differs, and a common back. -/
structure Ends where
  front : List Char
  old : List Char
  new : List Char
  back : List Char

/-- Cut off the common front first, then the common back of what is left. -/
def Ends.of (old new : List Char) : Ends :=
  let (front, restOld, restNew) := shareFront old new
  let (midOld, midNew, back) := shareBack restOld restNew
  ⟨front, midOld, midNew, back⟩

theorem Ends.of_old (old new : List Char) :
    (Ends.of old new).front ++ (Ends.of old new).old ++ (Ends.of old new).back = old := by
  simp only [Ends.of, List.append_assoc, shareBack_left, shareFront_left]

theorem Ends.of_new (old new : List Char) :
    (Ends.of old new).front ++ (Ends.of old new).new ++ (Ends.of old new).back = new := by
  simp only [Ends.of, List.append_assoc, shareBack_right, shareFront_right]

theorem Ends.length_old_le (old new : List Char) : (Ends.of old new).old.length ≤ old.length := by
  have h := congrArg List.length (Ends.of_old old new)
  simp only [List.length_append] at h
  omega

theorem Ends.length_new_le (old new : List Char) : (Ends.of old new).new.length ≤ new.length := by
  have h := congrArg List.length (Ends.of_new old new)
  simp only [List.length_append] at h
  omega

end LinkedNotes.Edit
