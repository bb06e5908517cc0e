import LinkedNotes.Edit.Diff
import Mathlib.Tactic.Lemma

/-!
# A difference is a script between its two texts

Every step of `diff` keeps the two revisions that a script stands for: dividing at a point,
sliding a change past its neighbours, grouping a run of changes and fusing neighbours. So the old
text is the source of the script that `diff` finds, and the new text is its target.
-/

namespace LinkedNotes.Edit

/-! ## Pieces -/

@[simp] lemma old_equal (t : List Char) : (⟨.equal, t⟩ : Segment).old = t := rfl

@[simp] lemma old_delete (t : List Char) : (⟨.delete, t⟩ : Segment).old = t := rfl

@[simp] lemma old_insert (t : List Char) : (⟨.insert, t⟩ : Segment).old = [] := rfl

@[simp] lemma new_equal (t : List Char) : (⟨.equal, t⟩ : Segment).new = t := rfl

@[simp] lemma new_delete (t : List Char) : (⟨.delete, t⟩ : Segment).new = [] := rfl

@[simp] lemma new_insert (t : List Char) : (⟨.insert, t⟩ : Segment).new = t := rfl

/-- A piece takes up in the old revision what a segment of its text does. -/
@[simp] lemma source_piece (kind : Kind) (t : List Char) :
    source (piece kind t) = (⟨kind, t⟩ : Segment).old := by
  cases t with
  | nil => cases kind <;> rfl
  | cons c r => simp

@[simp] lemma target_piece (kind : Kind) (t : List Char) :
    target (piece kind t) = (⟨kind, t⟩ : Segment).new := by
  cases t with
  | nil => cases kind <;> rfl
  | cons c r => simp

/-- A piece is one segment at most, so it reads the same from its back. -/
@[simp] lemma reverse_piece (kind : Kind) (t : List Char) :
    (piece kind t).reverse = piece kind t := by
  cases t <;> rfl

/-- The script turns one text into the other. -/
structure Turns (script : List Segment) (old new : List Char) : Prop where
  source_eq : source script = old
  target_eq : target script = new

lemma turns_iff {script : List Segment} {old new : List Char} :
    Turns script old new ↔ source script = old ∧ target script = new :=
  ⟨fun h => ⟨h.source_eq, h.target_eq⟩, fun h => ⟨h.1, h.2⟩⟩

lemma turns_replacement (old new : List Char) : Turns (replacement old new) old new :=
  ⟨by simp [replacement], by simp [replacement]⟩

/-! ## Divide and conquer -/

/-- Scripts of the parts make up a script of the whole. -/
lemma Turns.append {r s : List Segment} {a b c d : List Char} (hr : Turns r a b)
    (hs : Turns s c d) : Turns (r ++ s) (a ++ c) (b ++ d) :=
  ⟨by rw [source_append, hr.source_eq, hs.source_eq],
    by rw [target_append, hr.target_eq, hs.target_eq]⟩

/-- Kept text around the changes makes up for the shared ends that were cut off. -/
lemma Turns.between {old new : List Char} {changes : List Segment}
    (h : Turns changes (Ends.of old new).old (Ends.of old new).new) :
    Turns (piece .equal (Ends.of old new).front ++ changes ++
      piece .equal (Ends.of old new).back) old new := by
  constructor
  · simp only [source_append, source_piece, old_equal, h.source_eq]
    exact Ends.of_old old new
  · simp only [target_append, target_piece, new_equal, h.target_eq]
    exact Ends.of_new old new

theorem turns_conquer (old new : List Char) : Turns (conquer old new) old new := by
  induction old, new using conquer.induct with
  | case1 old new ends ihFront ihBack =>
    rw [conquer]
    apply Turns.between
    split
    · exact turns_replacement _ _
    · split
      · exact turns_replacement _ _
      · next x y hpoint =>
        split
        · next hsplit =>
          -- the halves are the texts before and after the point
          have h := (ihFront x y hsplit).append (ihBack x y hsplit)
          rwa [List.take_append_drop, List.take_append_drop] at h
        · exact turns_replacement _ _

/-! ## Sliding -/

/-- Text kept in front of what follows counts in both revisions. -/
@[simp] lemma source_keepBefore (t : List Char) (r : List Segment) :
    source (keepBefore t r) = t ++ source r := by
  unfold keepBefore
  split <;> simp

@[simp] lemma target_keepBefore (t : List Char) (r : List Segment) :
    target (keepBefore t r) = t ++ target r := by
  unfold keepBefore
  split <;> simp

@[simp] lemma source_reverse_keepAfter (t : List Char) (r : List Segment) :
    source (keepAfter t r).reverse = source r.reverse ++ t := by
  unfold keepAfter
  split <;> simp

@[simp] lemma target_reverse_keepAfter (t : List Char) (r : List Segment) :
    target (keepAfter t r).reverse = target r.reverse ++ t := by
  unfold keepAfter
  split <;> simp

/-- Sliding a change up does not change what the script says. -/
theorem turns_slideUp {old new : List Char} (before : List Segment) (this : Segment)
    (after : List Segment) :
    Turns (slideUp before this after).script old new ↔
      Turns (Place.mk before this after).script old new := by
  fun_induction slideUp before this after with
  | case1 => rfl
  | case2 after text r inserted kept moved shared hshare hlt ih =>
    -- the insertion gives up at its back what it gains in front
    have htext := shareBack_left text inserted
    have hinserted := shareBack_right text inserted
    simp only [hshare] at htext hinserted
    rw [ih]
    simp [turns_iff, Place.script, ← htext, ← hinserted]
  | case3 => rfl
  | case4 => rfl
  | case5 after text r inserted ih => rw [ih]; simp [turns_iff, Place.script]
  | case6 after text r deleted ih => rw [ih]; simp [turns_iff, Place.script]
  | case7 => rfl
  | case8 after text r deleted ih => rw [ih]; simp [turns_iff, Place.script]
  | case9 after text r inserted ih => rw [ih]; simp [turns_iff, Place.script]
  | case10 => rfl

/-- Sliding a change down does not change what the script says. -/
theorem turns_slideDown {old new : List Char} (before : List Segment) (this : Segment)
    (after : List Segment) :
    Turns (slideDown before this after).script old new ↔
      Turns (Place.mk before this after).script old new := by
  fun_induction slideDown before this after with
  | case1 => rfl
  | case2 before text r inserted shared kept moved hshare hlt ih =>
    have htext := shareFront_left text inserted
    have hinserted := shareFront_right text inserted
    simp only [hshare] at htext hinserted
    rw [ih]
    simp [turns_iff, Place.script, ← htext, ← hinserted]
  | case3 => rfl
  | case4 => rfl
  | case5 before text r inserted ih => rw [ih]; simp [turns_iff, Place.script]
  | case6 before text r deleted ih => rw [ih]; simp [turns_iff, Place.script]
  | case7 => rfl
  | case8 before text r deleted ih => rw [ih]; simp [turns_iff, Place.script]
  | case9 before text r inserted ih => rw [ih]; simp [turns_iff, Place.script]
  | case10 => rfl

/-- A pass may stop anywhere: what it has not looked at yet stays behind what it has. -/
theorem turns_slidePass {old new : List Char} (kind : Kind) (steps : Nat)
    (before after : List Segment) :
    Turns (slidePass kind steps before after) old new ↔
      Turns (before.reverse ++ after) old new := by
  fun_induction slidePass kind steps before after with
  | case1 => simp
  | case2 => rfl
  -- a change of the kind slides up and then down, and neither changes what the script says
  | case3 steps before s after hkind up down ih =>
    have hdown : Turns down.script old new ↔ Turns up.script old new :=
      turns_slideDown up.before up.this up.after
    have hup : Turns up.script old new ↔ Turns (Place.mk before s after).script old new :=
      turns_slideUp before s after
    have hscript : (down.this :: down.before).reverse ++ down.after = down.script := by
      simp [Place.script]
    rw [ih, hscript]
    exact hdown.trans hup
  | case4 steps before s after hkind ih => rw [ih]; simp

theorem turns_slide {old new : List Char} (script : List Segment) :
    Turns (slide script) old new ↔ Turns script old new := by
  simp [slide, slideKind, turns_slidePass]

/-! ## Grouping and fusing -/

/-- The collected changes of a run come before the rest of the script. -/
theorem turns_groupFrom {old new : List Char} (deleted inserted : List Char)
    (script : List Segment) :
    Turns (groupFrom deleted inserted script) old new ↔
      Turns (replacement deleted inserted ++ script) old new := by
  -- the induction is over all pairs of texts, since a run that ends starts over with empty ones
  induction deleted, inserted, script using groupFrom.induct generalizing old new with
  | case1 deleted inserted => simp [groupFrom]
  | case2 deleted inserted text r ih =>
    have h : Turns (groupFrom [] [] r) (source r) (target r) :=
      ih.2 (by simp [turns_iff, replacement])
    simp [turns_iff, groupFrom, replacement, h.source_eq, h.target_eq]
  | case3 deleted inserted text r ih => rw [groupFrom, ih]; simp [turns_iff, replacement]
  | case4 deleted inserted text r ih => rw [groupFrom, ih]; simp [turns_iff, replacement]

theorem turns_group {old new : List Char} (script : List Segment) :
    Turns (group script) old new ↔ Turns script old new := by
  rw [group, turns_groupFrom]
  simp [turns_iff, replacement]

/-- Joined neighbours of one kind take up what they took up apart. -/
lemma old_append (kind : Kind) (s t : List Char) :
    (⟨kind, s ++ t⟩ : Segment).old = (⟨kind, s⟩ : Segment).old ++ (⟨kind, t⟩ : Segment).old := by
  cases kind <;> rfl

lemma new_append (kind : Kind) (s t : List Char) :
    (⟨kind, s ++ t⟩ : Segment).new = (⟨kind, s⟩ : Segment).new ++ (⟨kind, t⟩ : Segment).new := by
  cases kind <;> rfl

theorem source_fuse (script : List Segment) : source (fuse script) = source script := by
  fun_induction fuse script with
  | case1 => rfl
  | case2 s r hfuse ih => rw [source_cons s r, ← ih, hfuse]; rfl
  | case3 s r t r' hfuse hkind ih =>
    -- a neighbour of the same kind is joined
    obtain ⟨kind, text⟩ := t
    obtain rfl : s.kind = kind := hkind
    rw [source_cons s r, ← ih, hfuse, source_cons, source_cons, old_append, List.append_assoc]
  | case4 s r t r' hfuse hkind ih => rw [source_cons s r, ← ih, hfuse, source_cons]

theorem target_fuse (script : List Segment) : target (fuse script) = target script := by
  fun_induction fuse script with
  | case1 => rfl
  | case2 s r hfuse ih => rw [target_cons s r, ← ih, hfuse]; rfl
  | case3 s r t r' hfuse hkind ih =>
    obtain ⟨kind, text⟩ := t
    obtain rfl : s.kind = kind := hkind
    rw [target_cons s r, ← ih, hfuse, target_cons, target_cons, new_append, List.append_assoc]
  | case4 s r t r' hfuse hkind ih => rw [target_cons s r, ← ih, hfuse, target_cons]

/-- The script that `diff` finds turns the old text into the new one. -/
theorem turns_diff (old new : List Char) : Turns (diff old new) old new := by
  -- fusing keeps source and target but is no equivalence, so it comes last
  have h : Turns (group (slide (conquer old new))) old new := by
    rw [turns_group, turns_slide]
    exact turns_conquer old new
  exact ⟨by rw [diff, source_fuse, h.source_eq], by rw [diff, target_fuse, h.target_eq]⟩

end LinkedNotes.Edit
