import LinkedNotes.Text.Collection
import Mathlib.Data.List.Infix
import Mathlib.Data.List.Perm.Subperm

/-!
# First appearances

How `distinct` treats a list that goes on: the members that are new come behind the others. Two
lists have the same members in the same order of first appearance exactly when those members that
only one of them has do not show (`distinct_map_eq_iff`).
-/

namespace LinkedNotes.Text

variable {α β : Type} [DecidableEq α]

/-- A member at the end counts if it stood nowhere before. -/
lemma distinct_concat (l : List α) (a : α) :
    distinct (l ++ [a]) = if a ∈ l then distinct l else distinct l ++ [a] := by
  induction l with
  | nil => simp [distinct]
  | cons b r ih =>
    rw [List.cons_append, distinct, ih, distinct]
    by_cases hr : a ∈ r
    · simp [hr]
    · by_cases hb : a = b
      · subst hb
        simp [hr]
      · simp [hr, hb]

/-- What stands in front appears first. -/
lemma distinct_prefix_append (l r : List α) : distinct l <+: distinct (l ++ r) := by
  induction r using List.reverseRecOn with
  | nil => simp
  | append_singleton r a ih =>
    rw [← List.append_assoc, distinct_concat]
    split
    · exact ih
    · exact ih.trans (List.prefix_append _ _)

/-- A list without repetitions stays as it is. -/
lemma distinct_eq_self {l : List α} (h : l.Nodup) : distinct l = l := by
  induction l with
  | nil => rfl
  | cons a r ih =>
    obtain ⟨ha, hr⟩ := List.nodup_cons.1 h
    rw [distinct, ih hr]
    congr 1
    exact List.filter_eq_self.2 fun b hb => by
      simp only [ne_eq, decide_not, Bool.not_eq_true', decide_eq_false_iff_not]
      rintro rfl
      exact ha hb

/-- A list whose members another list has too has no more distinct ones. -/
lemma length_distinct_le {l r : List α} (h : l ⊆ r) :
    (distinct l).length ≤ (distinct r).length := by
  refine List.Subperm.length_le ((nodup_distinct l).subperm fun a ha => ?_)
  rw [mem_distinct] at ha ⊢
  exact h ha

/-- The members of a list that satisfy `P` show alone exactly when each other member comes at a
point where nothing but the front of their list has been met. -/
theorem distinct_map_eq_iff {l : List β} {P : β → Prop} [DecidablePred P] {f : β → α} :
    distinct (l.map f) = distinct ((l.filter P).map f) ↔
      ∀ front b back, l = front ++ b :: back → ¬P b →
        distinct ((front ++ [b]).map f) <+: distinct ((l.filter P).map f) := by
  constructor
  · rintro h front b back rfl -
    have hsplit : (front ++ b :: back).map f = (front ++ [b]).map f ++ back.map f := by simp
    rw [← h, hsplit]
    exact distinct_prefix_append _ _
  · intro h
    -- by induction, all that is met up to any point is a front of the list
    have hfront : ∀ front back, l = front ++ back →
        distinct (front.map f) <+: distinct ((l.filter P).map f) := by
      intro front
      induction front using List.reverseRecOn with
      | nil => exact fun _ _ => List.nil_prefix
      | append_singleton front b ih =>
        intro back hl
        have hl' : l = front ++ b :: back := by rw [hl]; simp
        by_cases hb : P b
        · have hmet := ih (b :: back) hl'
          rw [List.map_append, List.map_singleton, distinct_concat]
          split
          · exact hmet
          · next hnew =>
            -- `b` is next in the list of the chosen members, which holds no more than was met
            have hchosen : distinct ((front.filter P).map f) ++ [f b] <+:
                distinct ((l.filter P).map f) := by
              have hnew' : f b ∉ (front.filter P).map f := fun hmem =>
                hnew (List.map_subset f (List.filter_subset_self _) hmem)
              have hconcat := distinct_concat ((front.filter P).map f) (f b)
              rw [if_neg hnew'] at hconcat
              rw [← hconcat, hl', List.filter_append, List.filter_cons_of_pos (by simpa using hb),
                List.map_append, List.map_cons,
                List.append_cons _ (f b) ((back.filter P).map f)]
              exact distinct_prefix_append _ _
            have hle : (distinct ((front.filter P).map f)).length ≤
                (distinct (front.map f)).length := by
              refine length_distinct_le fun a ha => ?_
              exact List.map_subset f (List.filter_subset_self _) ha
            rcases hle.lt_or_eq with hlt | heq
            · have hmem := List.prefix_of_prefix_length_le hchosen hmet (by
                rw [List.length_append, List.length_singleton]
                exact hlt)
              exact absurd (mem_distinct.1 (hmem.subset (by simp))) hnew
            · have hsame := List.prefix_of_prefix_length_le
                ((List.prefix_append _ _).trans hchosen) hmet hle
              rwa [← hsame.eq_of_length heq]
        · exact h front b back hl' hb
    refine (hfront l [] (by simp)).eq_of_length_le ?_
    refine length_distinct_le fun a ha => ?_
    exact List.map_subset f (List.filter_subset_self _) ha

end LinkedNotes.Text
