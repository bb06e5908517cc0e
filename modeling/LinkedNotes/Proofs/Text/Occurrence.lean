import LinkedNotes.Text.Place
import Mathlib.Data.List.Nodup
import Mathlib.Data.Nat.Init
import Mathlib.Tactic.Lemma

/-!
# Where a pattern is found

`OccursAt` says what an occurrence is, and `mem_occurrences` that all of them are listed, each once.
A search looks at them one after another. What it knows of those it has looked at (`Search.Knows`)
is the nearest of them and whether there is another one as near. Every look keeps that true, so at
the end of the list it answers with the one occurrence that is nearer than all others, and the
pattern is located there (`locate_eq_some_iff`).
-/

namespace LinkedNotes.Text

variable {pattern text : List Char} {x i : Nat}

/-- The pattern stands in the text from the offset on. -/
def OccursAt (pattern text : List Char) (i : Nat) : Prop :=
  ∃ front back, text = front ++ pattern ++ back ∧ front.length = i

/-! ## The list of occurrences -/

lemma occursAt_iff : OccursAt pattern text i ↔ i ≤ text.length ∧ pattern <+: text.drop i := by
  constructor
  · rintro ⟨front, back, rfl, rfl⟩
    rw [List.append_assoc, List.drop_left, List.length_append]
    exact ⟨Nat.le_add_right _ _, List.prefix_append _ _⟩
  · rintro ⟨hi, back, hback⟩
    refine ⟨text.take i, back, ?_, List.length_take_of_le hi⟩
    rw [List.append_assoc, hback, List.take_append_drop]

/-- An occurrence ends within the text. -/
lemma OccursAt.add_length_le (h : OccursAt pattern text i) :
    i + pattern.length ≤ text.length := by
  obtain ⟨front, back, rfl, rfl⟩ := h
  rw [List.length_append, List.length_append]
  omega

/-- Nothing but the empty pattern occurs in the empty text. -/
lemma occursAt_nil_iff : OccursAt pattern [] i ↔ i = 0 ∧ pattern = [] := by
  rw [occursAt_iff, List.drop_nil, List.prefix_nil, List.length_nil, Nat.le_zero]

lemma occursAt_cons_zero_iff {c : Char} {r : List Char} :
    OccursAt pattern (c :: r) 0 ↔ pattern <+: c :: r := by
  rw [occursAt_iff, List.drop_zero]
  exact and_iff_right (Nat.zero_le _)

lemma occursAt_cons_succ_iff {c : Char} {r : List Char} :
    OccursAt pattern (c :: r) (i + 1) ↔ OccursAt pattern r i := by
  rw [occursAt_iff, occursAt_iff, List.drop_succ_cons, List.length_cons, Nat.add_le_add_iff_right]

lemma mem_occurrencesFrom {k : Nat} :
    i ∈ occurrencesFrom pattern k text ↔ ∃ j, i = k + j ∧ OccursAt pattern text j := by
  induction text generalizing k with
  | nil =>
    simp only [occursAt_nil_iff, occurrencesFrom, ← List.isEmpty_iff]
    split
    · next hnil => simp [hnil]
    · next hne => simp [hne]
  | cons c r ih =>
    -- an occurrence is at the first character or at a later one
    have hcases : (∃ j, i = k + j ∧ OccursAt pattern (c :: r) j) ↔
        (pattern <+: c :: r ∧ i = k) ∨ i ∈ occurrencesFrom pattern (k + 1) r := by
      rw [ih]
      constructor
      · rintro ⟨j, rfl, hj⟩
        cases j with
        | zero => exact .inl ⟨occursAt_cons_zero_iff.1 hj, rfl⟩
        | succ j => exact .inr ⟨j, by omega, occursAt_cons_succ_iff.1 hj⟩
      · rintro (⟨hstands, rfl⟩ | ⟨j, rfl, hj⟩)
        · exact ⟨0, rfl, occursAt_cons_zero_iff.2 hstands⟩
        · exact ⟨j + 1, by omega, occursAt_cons_succ_iff.2 hj⟩
    rw [hcases, occurrencesFrom, ← List.isPrefixOf_iff_prefix]
    split
    · next hstands => simp [hstands]
    · next hstands => simp [hstands]

/-- What is listed are the occurrences. -/
lemma mem_occurrences : i ∈ occurrences text pattern ↔ OccursAt pattern text i := by
  rw [occurrences, mem_occurrencesFrom]
  simp

lemma pairwise_occurrencesFrom (k : Nat) :
    (occurrencesFrom pattern k text).Pairwise (· < ·) := by
  induction text generalizing k with
  | nil =>
    rw [occurrencesFrom]
    split <;> simp
  | cons c r ih =>
    rw [occurrencesFrom]
    split
    · refine List.pairwise_cons.2 ⟨fun i hi => ?_, ih (k + 1)⟩
      obtain ⟨j, rfl, -⟩ := mem_occurrencesFrom.1 hi
      omega
    · exact ih (k + 1)

/-- No occurrence is listed twice. -/
lemma nodup_occurrences (text pattern : List Char) : (occurrences text pattern).Nodup :=
  (pairwise_occurrencesFrom 0).imp Nat.ne_of_lt

/-- A pattern occurs once only if one occurrence is listed. -/
lemma existsUnique_occursAt (h : occurrences text pattern = [i]) :
    ∃! j, OccursAt pattern text j := by
  simp only [← mem_occurrences, h, List.mem_singleton]
  exact ⟨i, rfl, fun _ => id⟩

/-! ## The search -/

/-- What a search knows once it has looked at some offsets: nothing if there were none, otherwise
the nearest one and whether another one is as near. -/
inductive Search.Knows (x : Nat) : List Nat → Search → Prop
  | nothing : Knows x [] ⟨none, false⟩
  | nearest {seen : List Nat} {i : Nat} {tied : Bool} (mem : i ∈ seen)
    (least : ∀ j ∈ seen, distance i x ≤ distance j x)
    (tied_iff : tied = true ↔ ∃ j ∈ seen, j ≠ i ∧ distance j x = distance i x) :
    Knows x seen ⟨some (i, distance i x), tied⟩

namespace Search.Knows

variable {seen rest : List Nat} {s : Search}

/-- A search still knows what there is to know after a look at another offset. -/
lemma visit (h : Knows x seen s) (hi : i ∉ seen) : Knows x (seen ++ [i]) (s.visit x i) := by
  cases h with
  | nothing => exact .nearest (by simp) (by simp) (by simp)
  | @nearest _ b tied mem least tied_iff =>
    have hne : i ≠ b := fun h => hi (h ▸ mem)
    unfold Search.visit
    dsimp only
    split
    · next hlt =>
      -- nearer than the nearest so far, so nothing that was seen is as near
      refine .nearest (by simp) ?_ (iff_of_false Bool.false_ne_true ?_)
      · intro j hj
        rcases List.mem_append.1 hj with hj | hj
        · exact Nat.le_trans (Nat.le_of_lt hlt) (least j hj)
        · exact (List.mem_singleton.1 hj ▸ Nat.le_refl _)
      · rintro ⟨j, hj, hji, heq⟩
        rcases List.mem_append.1 hj with hj | hj
        · exact absurd (least j hj) (by omega)
        · exact hji (List.mem_singleton.1 hj)
    · next hlt =>
      have hleast : ∀ j ∈ seen ++ [i], distance b x ≤ distance j x := by
        intro j hj
        rcases List.mem_append.1 hj with hj | hj
        · exact least j hj
        · rw [List.mem_singleton.1 hj]
          omega
      split
      · next heq => exact .nearest (by simp [mem]) hleast (iff_of_true rfl ⟨i, by simp, hne, heq⟩)
      · next hfar =>
        refine .nearest (by simp [mem]) hleast (tied_iff.trans ⟨?_, ?_⟩)
        · rintro ⟨j, hj, hjb, heq⟩
          exact ⟨j, by simp [hj], hjb, heq⟩
        · rintro ⟨j, hj, hjb, heq⟩
          rcases List.mem_append.1 hj with hj | hj
          · exact ⟨j, hj, hjb, heq⟩
          · exact absurd (List.mem_singleton.1 hj ▸ heq) hfar

lemma foldl (h : Knows x seen s) (hnodup : (seen ++ rest).Nodup) :
    Knows x (seen ++ rest) (rest.foldl (Search.visit x) s) := by
  -- what was seen grows from step to step, so it is part of what is proved by induction
  induction rest generalizing seen s with
  | nil => simpa using h
  | cons i rest ih =>
    have hi : i ∉ seen := fun hi => (List.nodup_append.1 hnodup).2.2 i hi i (by simp) rfl
    rw [List.append_cons] at hnodup ⊢
    exact ih (h.visit hi) hnodup

/-- A search through offsets that are all different knows the nearest of them. -/
lemma of_nodup (hnodup : rest.Nodup) : Knows x rest (rest.foldl (Search.visit x) {}) :=
  foldl .nothing hnodup

/-- The answer is the offset that is nearer than all others. -/
lemma answer_eq_some_iff (h : Knows x seen s) :
    s.answer = some i ↔ i ∈ seen ∧ ∀ j ∈ seen, j ≠ i → distance i x < distance j x := by
  cases h with
  | nothing => simp [Search.answer]
  | @nearest _ b tied mem least tied_iff =>
    unfold Search.answer
    split
    · next htied =>
      obtain ⟨j, hj, hjb, heq⟩ := tied_iff.1 htied
      refine iff_of_false (by simp) ?_
      rintro ⟨hi, hnearer⟩
      -- the nearest one is the only one that could be nearer than all others, and it is tied
      by_cases hbi : b = i
      · subst hbi
        exact absurd (hnearer j hj hjb) (by omega)
      · exact absurd (hnearer b mem hbi) (Nat.not_lt.2 (least i hi))
    · next htied =>
      simp only [Option.map_some, Option.some.injEq]
      constructor
      · rintro rfl
        refine ⟨mem, fun j hj hjb => ?_⟩
        refine Nat.lt_of_le_of_ne (least j hj) fun heq => ?_
        exact htied (tied_iff.2 ⟨j, hj, hjb, heq.symm⟩)
      · rintro ⟨hi, hnearer⟩
        by_contra hbi
        exact absurd (hnearer b mem hbi) (Nat.not_lt.2 (least i hi))

/-- There is no answer if there are no offsets or two are tied for the nearest. -/
lemma answer_eq_none_iff (h : Knows x seen s) :
    s.answer = none ↔ seen = [] ∨ ∃ i ∈ seen, ∃ j ∈ seen, i ≠ j ∧
      distance i x = distance j x ∧ ∀ k ∈ seen, distance i x ≤ distance k x := by
  cases h with
  | nothing => simp [Search.answer]
  | @nearest _ b tied mem least tied_iff =>
    have hne : seen ≠ [] := List.ne_nil_of_mem mem
    unfold Search.answer
    split
    · next htied =>
      obtain ⟨j, hj, hjb, heq⟩ := tied_iff.1 htied
      exact iff_of_true rfl (.inr ⟨b, mem, j, hj, hjb.symm, heq.symm, least⟩)
    · next htied =>
      refine iff_of_false (by simp) ?_
      rintro (hnil | ⟨i, hi, j, hj, hij, heq, hleast⟩)
      · exact hne hnil
      · -- both are as near as the nearest one, and one of them is another one
        have hi' := Nat.le_antisymm (hleast b mem) (least i hi)
        by_cases hib : i = b
        · exact htied (tied_iff.2 ⟨j, hj, hib ▸ hij.symm, by omega⟩)
        · exact htied (tied_iff.2 ⟨i, hi, hib, hi'⟩)

end Search.Knows

/-! ## Locating a pattern -/

section Locate

variable {expected : Nat}

lemma distance_eq_zero_iff {i j : Nat} : distance i j = 0 ↔ i = j := by
  unfold distance
  omega

/-- The pattern occurs at `i`, and nowhere else as near to `x`. -/
structure IsNearest (pattern text : List Char) (x i : Nat) : Prop where
  occurs : OccursAt pattern text i
  nearer : ∀ j, OccursAt pattern text j → j ≠ i → distance i x < distance j x

/-- Two occurrences of the pattern are as near to `x` as each other, and none is nearer. -/
def IsTied (pattern text : List Char) (x : Nat) : Prop :=
  ∃ i, OccursAt pattern text i ∧ ∃ j, OccursAt pattern text j ∧ i ≠ j ∧
    distance i x = distance j x ∧ ∀ k, OccursAt pattern text k → distance i x ≤ distance k x

/-- A pattern that occurs at the expected offset is found there. -/
lemma locate_of_occursAt (h : OccursAt pattern text (min expected text.length)) :
    locate text pattern expected = some (min expected text.length) := by
  rw [locate]
  exact if_pos (List.isPrefixOf_iff_prefix.2 (occursAt_iff.1 h).2)

lemma locate_self (h : OccursAt pattern text i) : locate text pattern i = some i := by
  have hmin : min i text.length = i := Nat.min_eq_left (occursAt_iff.1 h).1
  rw [← hmin] at h
  exact (locate_of_occursAt h).trans (congrArg some hmin)

/-- A pattern that does not occur at the expected offset is searched for. A search is left out only
where it would find nothing. -/
lemma locate_of_not_occursAt (h : ¬OccursAt pattern text (min expected text.length)) :
    locate text pattern expected = ((occurrences text pattern).foldl
      (Search.visit (min expected text.length)) {}).answer := by
  have hle : min expected text.length ≤ text.length := Nat.min_le_right _ _
  rw [occursAt_iff, not_and] at h
  rw [locate, if_neg (fun hstands => h hle (List.isPrefixOf_iff_prefix.1 hstands))]
  split
  · next hnothing =>
    have hlong : text.length < pattern.length := by
      rcases Bool.or_eq_true_iff.1 hnothing with hnil | hlong
      · rw [List.isEmpty_iff.1 hnil] at h
        exact absurd List.nil_prefix (h hle)
      · exact of_decide_eq_true hlong
    have hnone : occurrences text pattern = [] := by
      refine List.eq_nil_iff_forall_not_mem.2 fun i hi => ?_
      have hle := (mem_occurrences.1 hi).add_length_le
      omega
    rw [hnone]
    rfl
  · rfl

/-- A search through all occurrences. -/
lemma knows_occurrences (text pattern : List Char) (x : Nat) :
    Search.Knows x (occurrences text pattern)
      ((occurrences text pattern).foldl (Search.visit x) {}) :=
  .of_nodup (nodup_occurrences text pattern)

/-- A pattern is found where an occurrence is nearer to the expected offset than all others. -/
lemma locate_eq_some_iff : locate text pattern expected = some i ↔
    IsNearest pattern text (min expected text.length) i := by
  by_cases hx : OccursAt pattern text (min expected text.length)
  · rw [locate_of_occursAt hx, Option.some.injEq]
    constructor
    · rintro rfl
      refine ⟨hx, fun j _ hj => ?_⟩
      rw [distance_eq_zero_iff.2 rfl]
      exact Nat.pos_of_ne_zero fun h => hj (distance_eq_zero_iff.1 h)
    · rintro ⟨-, hnearer⟩
      by_contra hne
      have hlt := hnearer _ hx hne
      rw [distance_eq_zero_iff.2 rfl] at hlt
      exact Nat.not_lt_zero _ hlt
  · rw [locate_of_not_occursAt hx, (knows_occurrences text pattern _).answer_eq_some_iff]
    simp only [mem_occurrences]
    exact ⟨fun h => ⟨h.1, h.2⟩, fun h => ⟨h.occurs, h.nearer⟩⟩

/-- A pattern is found nowhere if it does not occur or its nearest occurrences are tied. -/
lemma locate_eq_none_iff : locate text pattern expected = none ↔
    (∀ i, ¬OccursAt pattern text i) ∨ IsTied pattern text (min expected text.length) := by
  by_cases hx : OccursAt pattern text (min expected text.length)
  · rw [locate_of_occursAt hx]
    refine iff_of_false (by simp) ?_
    rintro (hnone | ⟨i, -, j, -, hij, heq, hleast⟩)
    · exact hnone _ hx
    · -- no occurrence is nearer than the one at the expected offset, and none but it is as near
      have hle := hleast _ hx
      rw [distance_eq_zero_iff.2 rfl] at hle
      have hi := distance_eq_zero_iff.1 (Nat.le_zero.1 hle)
      rw [hi, distance_eq_zero_iff.2 rfl] at heq
      exact hij (hi.trans (distance_eq_zero_iff.1 heq.symm).symm)
  · rw [locate_of_not_occursAt hx, (knows_occurrences text pattern _).answer_eq_none_iff]
    simp only [mem_occurrences, List.eq_nil_iff_forall_not_mem]
    rfl

/-- A pattern that occurs once only is found there, wherever it is expected. -/
lemma locate_of_unique (h : OccursAt pattern text i)
    (hunique : ∀ j, OccursAt pattern text j → j = i) : locate text pattern expected = some i :=
  locate_eq_some_iff.2 ⟨h, fun j hj hne => absurd (hunique j hj) hne⟩

end Locate

/-- Of all the occurrences of a pattern, the one that is nearest to the expected offset is found.
None is found exactly if there are none or the nearest ones are tied. -/
theorem locates_nearest (text pattern : List Char) (expected : Nat) :
    (∀ i, locate text pattern expected = some i ↔
      IsNearest pattern text (min expected text.length) i) ∧
    (locate text pattern expected = none ↔
      (∀ i, ¬OccursAt pattern text i) ∨ IsTied pattern text (min expected text.length)) :=
  ⟨fun _ => locate_eq_some_iff, locate_eq_none_iff⟩

/-- Two occurrences at the same distance on either side are tied, and a third one further on does
not help. -/
example : locate "xxabxxabxxab".toList "ab".toList 4 = none := by decide

end LinkedNotes.Text
