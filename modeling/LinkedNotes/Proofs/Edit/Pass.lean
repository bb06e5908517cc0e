import LinkedNotes.Proofs.Edit.Revisions
import Mathlib.Algebra.GroupWithZero.Nat
import Mathlib.Tactic.Tauto

/-!
# Passes come to an end

A pass slides every segment of one kind, those included that it meets after it slid others. `Passes`
is a pass with no limit on its steps. What is left to do gets less all the same: a slide leaves
fewer segments of the kind behind it, and what else it leaves behind cannot outnumber the characters
of the script, since no segment is empty and no slide changes how many characters there are
(`Slid`). So a pass ends within the steps that `slideKind` allows (`passes_iff`).
-/

namespace LinkedNotes.Edit

variable {kind : Kind} {before after script result : List Segment} {s : Segment}

/-! ## Filled scripts -/

/-- No segment is empty. -/
def Filled (script : List Segment) : Prop := ∀ s ∈ script, s.text ≠ []

@[simp] lemma filled_nil : Filled [] := fun _ hs => absurd hs List.not_mem_nil

@[simp] lemma filled_cons : Filled (s :: script) ↔ s.text ≠ [] ∧ Filled script :=
  List.forall_mem_cons

@[simp] lemma filled_append : Filled (before ++ after) ↔ Filled before ∧ Filled after :=
  List.forall_mem_append

@[simp] lemma filled_reverse : Filled script.reverse ↔ Filled script := by
  simp [Filled]

@[simp] lemma filled_piece (kind : Kind) (text : List Char) : Filled (piece kind text) := by
  cases text <;> simp

@[simp] lemma filled_replacement (old new : List Char) : Filled (replacement old new) := by
  simp [replacement]

lemma Filled.keepBefore (h : Filled after) {text : List Char} (htext : text ≠ []) :
    Filled (keepBefore text after) := by
  unfold Edit.keepBefore
  split <;> simp_all

lemma Filled.keepAfter (h : Filled before) {text : List Char} (htext : text ≠ []) :
    Filled (keepAfter text before) := by
  unfold Edit.keepAfter
  split <;> simp_all

theorem filled_conquer (old new : List Char) : Filled (conquer old new) := by
  induction old, new using conquer.induct with
  | case1 old new ends ihFront ihBack =>
    rw [conquer]
    simp only [filled_append, filled_piece, true_and, and_true]
    split
    · exact filled_replacement _ _
    · split
      · exact filled_replacement _ _
      · next x y hpoint =>
        split
        · next hsplit => exact filled_append.2 ⟨ihFront x y hsplit, ihBack x y hsplit⟩
        · exact filled_replacement _ _

/-! ## Characters -/

/-- How many characters the segments have. -/
def volume (script : List Segment) : Nat := (script.map Segment.length).sum

@[simp] lemma volume_nil : volume [] = 0 := rfl

@[simp] lemma volume_cons : volume (s :: script) = s.text.length + volume script := rfl

@[simp] lemma volume_append : volume (before ++ after) = volume before + volume after := by
  simp [volume]

@[simp] lemma volume_reverse : volume script.reverse = volume script := by
  simp [volume, List.map_reverse]

@[simp] lemma volume_piece (kind : Kind) (text : List Char) :
    volume (piece kind text) = text.length := by
  cases text <;> simp

@[simp] lemma volume_keepBefore (text : List Char) (after : List Segment) :
    volume (keepBefore text after) = text.length + volume after := by
  unfold keepBefore
  split <;> simp [Nat.add_assoc]

@[simp] lemma volume_keepAfter (text : List Char) (before : List Segment) :
    volume (keepAfter text before) = text.length + volume before := by
  unfold keepAfter
  split
  · simp
    omega
  · simp

lemma volume_le_weight (script : List Segment) : volume script ≤ weight script := by
  induction script with
  | nil => exact Nat.le_refl _
  | cons s r ih =>
    rw [volume_cons, weight]
    omega

/-- There are no more segments than characters. -/
lemma Filled.length_le_volume (h : Filled script) : script.length ≤ volume script := by
  induction script with
  | nil => exact Nat.le_refl _
  | cons s r ih =>
    obtain ⟨hs, hr⟩ := filled_cons.1 h
    have := List.length_pos_iff.2 hs
    have := ih hr
    rw [List.length_cons, volume_cons]
    omega

/-! ## Slides -/

lemma filled_script : Filled (Place.mk before s after).script ↔
    Filled before ∧ s.text ≠ [] ∧ Filled after := by
  simp [Place.script]

lemma volume_script : volume (Place.mk before s after).script =
    volume before + s.text.length + volume after := by
  simp [Place.script, Nat.add_assoc]

/-- How many segments of a kind there are. -/
def count (kind : Kind) (script : List Segment) : Nat := script.countP fun s => s.kind = kind

/-- What sliding a segment keeps, and that it leaves no more segments of its kind behind. -/
structure Slid (p q : Place) : Prop where
  kind_eq : q.this.kind = p.this.kind
  filled : Filled p.script → Filled q.script
  volume_eq : volume q.script = volume p.script
  count_le : count p.this.kind q.after ≤ count p.this.kind p.after

lemma Slid.refl (p : Place) : Slid p p := ⟨rfl, id, rfl, Nat.le_refl _⟩

lemma Slid.trans {p q r : Place} (h : Slid p q) (h' : Slid q r) : Slid p r where
  kind_eq := h'.kind_eq.trans h.kind_eq
  filled := h'.filled ∘ h.filled
  volume_eq := h'.volume_eq.trans h.volume_eq
  count_le := by
    have := h'.count_le
    rw [h.kind_eq] at this
    exact Nat.le_trans this h.count_le

/-- What a slide leaves behind cannot outnumber the characters of the script. -/
lemma Slid.length_after_le {p q : Place} (h : Slid p q) (hfilled : Filled p.script) :
    q.after.length ≤ volume p.script := by
  obtain ⟨before, s, after⟩ := q
  obtain ⟨-, -, hafter⟩ := filled_script.1 (h.filled hfilled)
  have hle := hafter.length_le_volume
  have hvolume := h.volume_eq
  rw [volume_script] at hvolume
  dsimp only
  omega

lemma count_keepBefore (text : List Char) (after : List Segment) (hkind : kind ≠ .equal) :
    count kind (keepBefore text after) = count kind after := by
  unfold keepBefore
  split <;> simp [count, Ne.symm hkind]

lemma count_piece_equal (text : List Char) (hkind : kind ≠ .equal) :
    count kind (piece .equal text ++ after) = count kind after := by
  cases text <;> simp [count, Ne.symm hkind]

/-- What changes places with a segment of another kind is not counted with it. -/
lemma Slid.swap {this other : Segment} (hkind : other.kind ≠ this.kind) :
    Slid ⟨other :: before, this, after⟩ ⟨before, this, other :: after⟩ ∧
      Slid ⟨before, this, other :: after⟩ ⟨other :: before, this, after⟩ := by
  have hcount : count this.kind (other :: after) = count this.kind after := by
    simp [count, hkind]
  refine ⟨⟨rfl, ?_, ?_, Nat.le_of_eq hcount⟩, ⟨rfl, ?_, ?_, Nat.le_of_eq hcount.symm⟩⟩
  · rw [filled_script, filled_script, filled_cons, filled_cons]
    tauto
  · rw [volume_script, volume_script, volume_cons, volume_cons]
    omega
  · rw [filled_script, filled_script, filled_cons, filled_cons]
    tauto
  · rw [volume_script, volume_script, volume_cons, volume_cons]
    omega

/-- A segment takes in one of its own kind. -/
lemma Slid.join (kind : Kind) (text text' : List Char) :
    Slid ⟨⟨kind, text⟩ :: before, ⟨kind, text'⟩, after⟩ ⟨before, ⟨kind, text ++ text'⟩, after⟩ ∧
      Slid ⟨before, ⟨kind, text⟩, ⟨kind, text'⟩ :: after⟩
        ⟨before, ⟨kind, text ++ text'⟩, after⟩ := by
  have hnil : text ≠ [] → text ++ text' ≠ [] := fun h => List.append_ne_nil_of_left_ne_nil h _
  refine ⟨⟨rfl, ?_, ?_, Nat.le_refl _⟩, ⟨rfl, ?_, ?_, ?_⟩⟩
  · rw [filled_script, filled_script, filled_cons]
    tauto
  · rw [volume_script, volume_script, volume_cons]
    simp only [List.length_append]
    omega
  · rw [filled_script, filled_script, filled_cons]
    tauto
  · rw [volume_script, volume_script, volume_cons]
    simp only [List.length_append]
    omega
  · simp [count]

/-- An insertion slides up over kept text that ends as it does. -/
lemma Slid.overBack {text inserted kept moved shared : List Char}
    (hshare : shareBack text inserted = (kept, moved, shared))
    (hlt : kept.length < text.length) :
    Slid ⟨⟨.equal, text⟩ :: before, ⟨.insert, inserted⟩, after⟩
      ⟨piece .equal kept ++ before, ⟨.insert, shared ++ moved⟩, keepBefore shared after⟩ := by
  have htext := shareBack_left text inserted
  have hinserted := shareBack_right text inserted
  simp only [hshare] at htext hinserted
  refine ⟨rfl, fun h => ?_, ?_, Nat.le_of_eq (count_keepBefore _ _ (by simp))⟩
  · have hshared : shared ≠ [] := by
      rintro rfl
      simp [← htext] at hlt
    rw [filled_script, filled_cons] at h
    obtain ⟨⟨-, hbefore⟩, -, hafter⟩ := h
    rw [filled_script]
    exact ⟨filled_append.2 ⟨filled_piece _ _, hbefore⟩, by simp [hshared],
      hafter.keepBefore hshared⟩
  · rw [volume_script, volume_script]
    simp [← htext, ← hinserted]
    omega

/-- An insertion slides down over kept text that starts as it does. -/
lemma Slid.overFront {text inserted kept moved shared : List Char}
    (hshare : shareFront text inserted = (shared, kept, moved))
    (hlt : kept.length < text.length) :
    Slid ⟨before, ⟨.insert, inserted⟩, ⟨.equal, text⟩ :: after⟩
      ⟨keepAfter shared before, ⟨.insert, moved ++ shared⟩, piece .equal kept ++ after⟩ := by
  have htext := shareFront_left text inserted
  have hinserted := shareFront_right text inserted
  simp only [hshare] at htext hinserted
  refine ⟨rfl, fun h => ?_, ?_, ?_⟩
  · have hshared : shared ≠ [] := by
      rintro rfl
      simp [← htext] at hlt
    rw [filled_script, filled_cons] at h
    obtain ⟨hbefore, -, -, hafter⟩ := h
    rw [filled_script]
    exact ⟨hbefore.keepAfter hshared, by simp [hshared],
      filled_append.2 ⟨filled_piece _ _, hafter⟩⟩
  · rw [volume_script, volume_script]
    simp [← htext, ← hinserted]
    omega
  · show count .insert (piece .equal kept ++ after) ≤ count .insert (⟨.equal, text⟩ :: after)
    rw [count_piece_equal _ (by decide)]
    simp [count]

lemma slid_slideUp (before : List Segment) (this : Segment) (after : List Segment) :
    Slid ⟨before, this, after⟩ (slideUp before this after) := by
  fun_induction slideUp before this after with
  | case1 => exact .refl _
  | case2 after text r inserted kept moved shared hshare hlt ih =>
    exact (Slid.overBack hshare hlt).trans ih
  | case3 => exact .refl _
  | case4 => exact .refl _
  | case5 after text r inserted ih => exact (Slid.join .insert text inserted).1.trans ih
  | case6 after text r deleted ih => exact (Slid.swap (by simp)).1.trans ih
  | case7 => exact .refl _
  | case8 after text r deleted ih => exact (Slid.join .delete text deleted).1.trans ih
  | case9 after text r inserted ih => exact (Slid.swap (by simp)).1.trans ih
  | case10 => exact .refl _

lemma slid_slideDown (before : List Segment) (this : Segment) (after : List Segment) :
    Slid ⟨before, this, after⟩ (slideDown before this after) := by
  fun_induction slideDown before this after with
  | case1 => exact .refl _
  | case2 before text r inserted shared kept moved hshare hlt ih =>
    exact (Slid.overFront hshare hlt).trans ih
  | case3 => exact .refl _
  | case4 => exact .refl _
  | case5 before text r inserted ih => exact (Slid.join .insert inserted text).2.trans ih
  | case6 before text r deleted ih => exact (Slid.swap (by simp)).2.trans ih
  | case7 => exact .refl _
  | case8 before text r deleted ih => exact (Slid.join .delete deleted text).2.trans ih
  | case9 before text r inserted ih => exact (Slid.swap (by simp)).2.trans ih
  | case10 => exact .refl _

/-! ## Passes -/

/-- Up as far as it goes, and from there down as far as it goes. -/
def slideBoth (before : List Segment) (this : Segment) (after : List Segment) : Place :=
  slideDown (slideUp before this after).before (slideUp before this after).this
    (slideUp before this after).after

lemma slid_slideBoth (before : List Segment) (this : Segment) (after : List Segment) :
    Slid ⟨before, this, after⟩ (slideBoth before this after) :=
  (slid_slideUp before this after).trans (slid_slideDown _ _ _)

/-- A pass over the segments of a kind, from a script of which some has been looked at. -/
inductive Passes (kind : Kind) : List Segment → List Segment → List Segment → Prop
  | done {before : List Segment} : Passes kind before [] before.reverse
  | slid {before after result : List Segment} {s : Segment} (hkind : s.kind = kind)
      (hrest : Passes kind ((slideBoth before s after).this :: (slideBoth before s after).before)
        (slideBoth before s after).after result) : Passes kind before (s :: after) result
  | passed {before after result : List Segment} {s : Segment} (hkind : s.kind ≠ kind)
      (hrest : Passes kind (s :: before) after result) : Passes kind before (s :: after) result

lemma Passes.unique {result' : List Segment} (h : Passes kind before after result)
    (h' : Passes kind before after result') : result = result' := by
  induction h with
  | done =>
    cases h'
    rfl
  | slid hkind hrest ih =>
    cases h' with
    | slid hkind' hrest' => exact ih hrest'
    | passed hkind' hrest' => exact absurd hkind hkind'
  | passed hkind hrest ih =>
    cases h' with
    | slid hkind' hrest' => exact absurd hkind' hkind
    | passed hkind' hrest' => exact ih hrest'

/-- How much a pass has to do at most: the segments of the kind each let it look at all characters
once more. -/
def effort (kind : Kind) (total : Nat) (after : List Segment) : Nat :=
  count kind after * (total + 1) + after.length

lemma count_cons_of_eq (hkind : s.kind = kind) :
    count kind (s :: after) = count kind after + 1 := by
  simp [count, hkind]

lemma count_cons_of_ne (hkind : s.kind ≠ kind) : count kind (s :: after) = count kind after := by
  simp [count, hkind]

/-- After a slide there is less to do, whatever the slide left behind. -/
lemma effort_slideBoth_lt {total : Nat} (hkind : s.kind = kind)
    (hfilled : Filled (Place.mk before s after).script)
    (htotal : volume (Place.mk before s after).script = total) :
    effort kind total (slideBoth before s after).after < effort kind total (s :: after) := by
  have hslid := slid_slideBoth before s after
  have hcount : count kind (slideBoth before s after).after ≤ count kind after := by
    rw [← hkind]
    exact hslid.count_le
  have hlength := hslid.length_after_le hfilled
  have hmul := Nat.mul_le_mul_right (total + 1) hcount
  rw [effort, effort, count_cons_of_eq hkind, Nat.add_mul, List.length_cons]
  omega

/-- With as many steps as it has to do, the pass comes to its end. -/
lemma passes_slidePass {steps total : Nat} (hfilled : Filled (before.reverse ++ after))
    (htotal : volume (before.reverse ++ after) = total) (hsteps : effort kind total after ≤ steps) :
    Passes kind before after (slidePass kind steps before after) := by
  induction steps generalizing before after with
  | zero =>
    cases after with
    | nil =>
      rw [slidePass]
      exact .done
    | cons s r =>
      rw [effort, List.length_cons] at hsteps
      omega
  | succ steps ih =>
    cases after with
    | nil =>
      rw [slidePass]
      exact .done
    | cons s r =>
      rw [slidePass]
      split
      · next hkind =>
        have hslid := slid_slideBoth before s r
        have hless := effort_slideBoth_lt hkind hfilled htotal
        have hscript : ((slideBoth before s r).this :: (slideBoth before s r).before).reverse ++
            (slideBoth before s r).after = (slideBoth before s r).script := by
          simp [Place.script]
        refine .slid hkind (ih ?_ ?_ (by omega))
        · rw [hscript]
          exact hslid.filled hfilled
        · rw [hscript]
          exact hslid.volume_eq.trans htotal
      · next hkind =>
        refine .passed hkind (ih (by simpa using hfilled) (by simpa using htotal) ?_)
        rw [effort, count_cons_of_ne hkind, List.length_cons] at hsteps
        rw [effort]
        omega

/-- The pass comes to an end, and it does within the steps that are allowed. -/
theorem passes_iff (h : Filled script) :
    Passes kind [] script result ↔ result = slideKind kind script := by
  have heffort : effort kind (volume script) script ≤
      (weight script + 1) * (weight script + 1) := by
    have hcount : count kind script ≤ weight script :=
      Nat.le_trans List.countP_le_length (Nat.le_trans h.length_le_volume (volume_le_weight script))
    have hvolume := volume_le_weight script
    have hlength := h.length_le_volume
    have hmul := Nat.mul_le_mul hcount (Nat.add_le_add_right hvolume 1)
    rw [effort, Nat.add_mul]
    omega
  have hpass : Passes kind [] script (slideKind kind script) :=
    passes_slidePass (by simpa using h) (by simp) heffort
  constructor
  · intro hpasses
    exact hpasses.unique hpass
  · rintro rfl
    exact hpass

lemma Passes.filled (h : Passes kind before after result)
    (hfilled : Filled (before.reverse ++ after)) : Filled result := by
  induction h with
  | done => simpa using hfilled
  | @slid before after result s hkind hrest ih =>
    refine ih ?_
    have hslid := (slid_slideBoth before s after).filled (by simpa [Place.script] using hfilled)
    simpa [Place.script] using hslid
  | passed hkind hrest ih => exact ih (by simpa using hfilled)

/-- Sliding leaves no segment empty. -/
lemma filled_slideKind (h : Filled script) : Filled (slideKind kind script) :=
  ((passes_iff h).2 rfl).filled (by simpa using h)

end LinkedNotes.Edit
