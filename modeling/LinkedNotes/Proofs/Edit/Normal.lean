import LinkedNotes.Proofs.Edit.Divide
import LinkedNotes.Proofs.Edit.Pass
import Mathlib.Data.List.Chain

/-!
# Differences in normal form

Grouping leaves one deletion and one insertion at most between kept segments, and fusing joins the
kept ones, so the script that `diff` finds is in normal form. The whole procedure, with shared work
arrays in its searches and with passes that go on as long as they have something to do
(`Computes`), comes to an end on all texts and finds that script and no other (`computes_diff`).
-/

namespace LinkedNotes.Edit

variable {old new : List Char} {script : List Segment}

/-! ## Normal form -/

/-- A script in normal form. -/
structure Normal (script : List Segment) : Prop where
  filled : Filled script
  /-- No two neighbours are of the same kind. -/
  alternates : script.IsChain fun s t => s.kind ≠ t.kind
  /-- Between kept segments there is one deletion at most, and after it one insertion at most. -/
  runs : ∀ changes, changes <:+: script → (∀ s ∈ changes, s.kind ≠ .equal) →
    (changes.map (·.kind)).Sublist [.delete, .insert]

/-- One of the kinds is that of kept text, or the first is a deletion and the second an
insertion. -/
def Kind.MayPrecede (k l : Kind) : Prop := k = .equal ∨ l = .equal ∨ (k = .delete ∧ l = .insert)

/-- Every segment may precede the next one. -/
def Grouped (script : List Segment) : Prop := script.IsChain fun s t => s.kind.MayPrecede t.kind

lemma Grouped.runs (h : Grouped script) {changes : List Segment} (hin : changes <:+: script)
    (hchanges : ∀ s ∈ changes, s.kind ≠ .equal) :
    (changes.map (·.kind)).Sublist [.delete, .insert] := by
  obtain ⟨front, back, rfl⟩ := hin
  have hgrouped : Grouped changes := h.left_of_append.right_of_append
  have hpair : ∀ s ∈ changes, ∀ t ∈ changes, s.kind.MayPrecede t.kind →
      s.kind = .delete ∧ t.kind = .insert :=
    fun s hs t ht h => (h.resolve_left (hchanges s hs)).resolve_left (hchanges t ht)
  -- neighbours are a deletion and an insertion, so there are no three in a row
  match changes with
  | [] => exact List.nil_sublist _
  | [s] =>
    have hs := hchanges s (by simp)
    cases hkind : s.kind with
    | equal => exact absurd hkind hs
    | delete => simp [hkind]
    | insert => simp [hkind]
  | [s, t] =>
    obtain ⟨hst, -⟩ := List.isChain_cons_cons.1 hgrouped
    obtain ⟨hs, ht⟩ := hpair s (by simp) t (by simp) hst
    simp [hs, ht]
  | s :: t :: u :: r =>
    obtain ⟨hst, hrest⟩ := List.isChain_cons_cons.1 hgrouped
    obtain ⟨htu, -⟩ := List.isChain_cons_cons.1 hrest
    obtain ⟨-, ht⟩ := hpair s (by simp) t (by simp) hst
    obtain ⟨ht', -⟩ := hpair t (by simp) u (by simp) htu
    rw [ht] at ht'
    cases ht'

/-! ## Grouping -/

lemma grouped_replacement (old new : List Char) : Grouped (replacement old new) := by
  unfold replacement
  cases old <;> cases new <;> simp [Grouped, Kind.MayPrecede]

lemma Grouped.append_equal {text : List Char} {rest : List Segment} (h : Grouped script)
    (hrest : Grouped rest) : Grouped (script ++ ⟨.equal, text⟩ :: rest) := by
  refine List.isChain_append.2 ⟨h, hrest.cons fun _ _ => Or.inl rfl, ?_⟩
  intro s _ t ht
  obtain rfl : ⟨.equal, text⟩ = t := by simpa using ht
  exact Or.inr (Or.inl rfl)

lemma grouped_groupFrom (deleted inserted : List Char) (script : List Segment) :
    Grouped (groupFrom deleted inserted script) := by
  induction deleted, inserted, script using groupFrom.induct with
  | case1 deleted inserted => exact grouped_replacement _ _
  | case2 deleted inserted text r ih =>
    rw [groupFrom]
    exact (grouped_replacement _ _).append_equal ih
  | case3 deleted inserted text r ih =>
    rw [groupFrom]
    exact ih
  | case4 deleted inserted text r ih =>
    rw [groupFrom]
    exact ih

lemma Filled.groupFrom (h : Filled script) (deleted inserted : List Char) :
    Filled (groupFrom deleted inserted script) := by
  induction deleted, inserted, script using groupFrom.induct with
  | case1 deleted inserted => exact filled_replacement _ _
  | case2 deleted inserted text r ih =>
    rw [Edit.groupFrom]
    exact filled_append.2 ⟨filled_replacement _ _,
      filled_cons.2 ⟨(filled_cons.1 h).1, ih (filled_cons.1 h).2⟩⟩
  | case3 deleted inserted text r ih =>
    rw [Edit.groupFrom]
    exact ih (filled_cons.1 h).2
  | case4 deleted inserted text r ih =>
    rw [Edit.groupFrom]
    exact ih (filled_cons.1 h).2

/-! ## Fusing -/

/-- A script starts with the same kind of segment after fusing. -/
lemma kind_head?_fuse (script : List Segment) :
    (fuse script).head?.map (·.kind) = script.head?.map (·.kind) := by
  fun_cases fuse script <;> rfl

lemma Filled.fuse (h : Filled script) : Filled (fuse script) := by
  fun_induction Edit.fuse script with
  | case1 => exact h
  | case2 s r hfuse ih => exact filled_cons.2 ⟨(filled_cons.1 h).1, filled_nil⟩
  | case3 s r t r' hfuse hkind ih =>
    obtain ⟨hs, hr⟩ := filled_cons.1 h
    have hrest := ih hr
    rw [hfuse] at hrest
    exact filled_cons.2 ⟨List.append_ne_nil_of_left_ne_nil hs _, (filled_cons.1 hrest).2⟩
  | case4 s r t r' hfuse hkind ih =>
    obtain ⟨hs, hr⟩ := filled_cons.1 h
    have hrest := ih hr
    rw [hfuse] at hrest
    exact filled_cons.2 ⟨hs, hrest⟩

/-- What holds of the kinds of neighbours holds after fusing, and the kinds differ then. -/
lemma isChain_fuse {R : Kind → Kind → Prop} (h : script.IsChain fun s t => R s.kind t.kind) :
    (fuse script).IsChain fun s t => R s.kind t.kind ∧ s.kind ≠ t.kind := by
  fun_induction fuse script with
  | case1 => exact List.isChain_nil
  | case2 s r hfuse ih => exact List.isChain_singleton s
  | case3 s r t r' hfuse hkind ih =>
    have hrest := ih (List.isChain_cons.1 h).2
    rw [hfuse, List.isChain_cons] at hrest
    refine List.isChain_cons.2 ⟨fun u hu => ?_, hrest.2⟩
    rw [hkind]
    exact hrest.1 u hu
  | case4 s r t r' hfuse hkind ih =>
    obtain ⟨hhead, hr⟩ := List.isChain_cons.1 h
    have hrest := ih hr
    rw [hfuse] at hrest
    refine List.isChain_cons_cons.2 ⟨⟨?_, hkind⟩, hrest⟩
    -- what follows now starts with the kind that it started with
    have hsame := kind_head?_fuse r
    rw [hfuse] at hsame
    cases r with
    | nil => cases hsame
    | cons u r =>
      have hkind' : t.kind = u.kind := by simpa using hsame
      rw [hkind']
      exact hhead u rfl

/-- A script that was grouped and fused is in normal form. -/
theorem normal_fuse_group (h : Filled script) : Normal (fuse (group script)) := by
  have hgrouped : Grouped (group script) := grouped_groupFrom [] [] script
  have hchain := isChain_fuse hgrouped
  constructor
  · exact (h.groupFrom [] []).fuse
  · exact hchain.imp fun _ _ => And.right
  · have hfused : Grouped (fuse (group script)) := hchain.imp fun _ _ => And.left
    exact fun changes => hfused.runs

/-! ## The procedure -/

/-- The whole procedure: the texts are divided with shared work arrays that reach as far as the
texts call for, the deletions are slid together and then the insertions, and what comes out is
grouped and fused. -/
def Computes (old new : List Char) (script : List Segment) : Prop :=
  ∃ divided deleted inserted, Divides ((old.length + new.length + 1) / 2) old new divided ∧
    Passes .delete [] divided deleted ∧ Passes .insert [] deleted inserted ∧
    script = fuse (group inserted)

/-- The procedure comes to an end on all texts, with the one script that `diff` finds. That script
has the old text as its source and the new one as its target, and it is in normal form. -/
theorem computes_diff (old new : List Char) :
    (∀ script, Computes old new script ↔ script = diff old new) ∧
      source (diff old new) = old ∧ target (diff old new) = new ∧ Normal (diff old new) := by
  have hdivided := filled_conquer old new
  have hdeleted : Filled (slideKind .delete (conquer old new)) := filled_slideKind hdivided
  have hinserted : Filled (slideKind .insert (slideKind .delete (conquer old new))) :=
    filled_slideKind hdeleted
  obtain ⟨hsource, htarget⟩ := turns_diff old new
  refine ⟨fun script => ⟨fun h => ?_, ?_⟩, hsource, htarget, normal_fuse_group hinserted⟩
  · obtain ⟨divided, deleted, inserted, hdivides, hpass, hpass', rfl⟩ := h
    rw [divides_iff (Nat.le_refl _)] at hdivides
    rw [hdivides, passes_iff hdivided] at hpass
    rw [hpass, passes_iff hdeleted] at hpass'
    rw [hpass']
    rfl
  · rintro rfl
    exact ⟨_, _, _, (divides_iff (Nat.le_refl _)).2 rfl, (passes_iff hdivided).2 rfl,
      (passes_iff hdeleted).2 rfl, rfl⟩

end LinkedNotes.Edit
