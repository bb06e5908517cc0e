import LinkedNotes.Edit.Snake
import Mathlib.Data.List.Nodup
import Mathlib.Tactic.Lemma

/-!
# How far paths reach

How far the paths with `d` changes reach on each diagonal, as a function of the two texts alone. A
path that enters a diagonal comes from one of its neighbours (`entered_succ_cases`). From that it
follows how many characters it has covered, and that a path which has left the box of the two texts
has a neighbour on the inner side that is as far. So where paths from both ends have not passed each
other before, the next point that is looked at lies inside the box (`entered_inside`), and is not
its corner (`entered_not_corner`).
-/

namespace LinkedNotes.Edit.Snake

variable {a b : Array Char} {d : Nat} {k : Int}

/-! ## Agreement -/

/-- How far the texts agree from the point with offset `x` on diagonal `k`. -/
def run (a b : Array Char) (x : Nat) (k : Int) : Nat :=
  if 0 ≤ (x : Int) - k then agreement a b x ((x : Int) - k).toNat else 0

lemma agreement_eq_zero {i j : Nat} (h : a.size ≤ i ∨ b.size ≤ j) : agreement a b i j = 0 := by
  rw [agreement, dif_neg (by omega)]

lemma agreement_eq_zero_of_ne {i j : Nat} (h : a[i]? ≠ b[j]?) : agreement a b i j = 0 := by
  rw [agreement]
  split
  · next hbox =>
    rw [Array.getElem?_eq_getElem hbox.1, Array.getElem?_eq_getElem hbox.2] at h
    exact if_neg fun heq => h (congrArg some heq)
  · rfl

/-- Agreement does not lead out of the texts. -/
lemma agreement_le (a b : Array Char) {i j : Nat} (hi : i ≤ a.size) (hj : j ≤ b.size) :
    i + agreement a b i j ≤ a.size ∧ j + agreement a b i j ≤ b.size := by
  fun_induction agreement a b i j with
  | case1 i j h heq ih =>
    have := ih (by omega) (by omega)
    omega
  | case2 i j h hne => omega
  | case3 i j h => omega

/-- Texts that agree to their ends have the same last character. -/
lemma getElem?_eq_of_agreement {i j : Nat} (hpos : 0 < agreement a b i j)
    (hi : i + agreement a b i j = a.size) (hj : j + agreement a b i j = b.size) :
    a[a.size - 1]? = b[b.size - 1]? := by
  fun_induction agreement a b i j with
  | case1 i j h heq ih =>
    by_cases hrest : 0 < agreement a b (i + 1) (j + 1)
    · exact ih hrest (by omega) (by omega)
    · rw [show a.size - 1 = i by omega, show b.size - 1 = j by omega,
        Array.getElem?_eq_getElem h.1, Array.getElem?_eq_getElem h.2, heq]
  | case2 i j h hne => omega
  | case3 i j h => omega

lemma run_eq_zero {x : Nat} (h : a.size ≤ x ∨ (b.size : Int) ≤ (x : Int) - k) :
    run a b x k = 0 := by
  unfold run
  split
  · exact agreement_eq_zero (by omega)
  · rfl

/-- A run stays in the box of the texts. -/
lemma run_le {x : Nat} (hx : x ≤ a.size) (hy : (x : Int) - k ≤ b.size) :
    x + run a b x k ≤ a.size ∧ ((x + run a b x k : Nat) : Int) - k ≤ b.size := by
  unfold run
  split
  · have := agreement_le a b hx (j := ((x : Int) - k).toNat) (by omega)
    omega
  · omega

/-- Only texts that have their last characters in common can have a run to the far corner of their
box. -/
lemma run_not_corner {x : Nat} (hx : 0 ≤ (x : Int) - k) (hends : a[a.size - 1]? ≠ b[b.size - 1]?)
    (hcorner : ¬(x = a.size ∧ (x : Int) - k = b.size)) :
    ¬(x + run a b x k = a.size ∧ ((x + run a b x k : Nat) : Int) - k = b.size) := by
  intro hend
  rw [run, if_pos hx] at hend
  by_cases hpos : 0 < agreement a b x ((x : Int) - k).toNat
  · exact hends (getElem?_eq_of_agreement hpos hend.1 (by omega))
  · omega

/-! ## Diagonals -/

lemma mem_diagonals : k ∈ diagonals d ↔ -(d : Int) ≤ k ∧ k ≤ d ∧ ((d : Int) - k) % 2 = 0 := by
  rw [diagonals, List.mem_map]
  constructor
  · intro hk
    obtain ⟨i, hi, rfl⟩ := hk
    rw [List.mem_range] at hi
    omega
  · intro hk
    refine ⟨(((d : Int) - k) / 2).toNat, ?_, by omega⟩
    rw [List.mem_range]
    omega

lemma nodup_diagonals (d : Nat) : (diagonals d).Nodup := by
  refine List.Nodup.map (fun i j hij => ?_) List.nodup_range
  omega

/-! ## Furthest offsets -/

/-- Where the path with `d` changes enters diagonal `k` if the paths with one change less reach the
given offsets. -/
def enter (prev : Int → Nat) (d k : Int) : Nat :=
  if k = -d ∨ (k ≠ d ∧ prev (k - 1) < prev (k + 1)) then prev (k + 1) else prev (k - 1) + 1

/-- The furthest offset on each diagonal before round `d`. -/
def before (a b : Array Char) : Nat → Int → Nat
  | 0, _ => 0
  | d + 1, k => enter (before a b d) d k + run a b (enter (before a b d) d k) k

/-- Where the path with `d` changes enters diagonal `k`. -/
def entered (a b : Array Char) (d : Nat) (k : Int) : Nat := enter (before a b d) d k

lemma before_succ (a b : Array Char) (d : Nat) (k : Int) :
    before a b (d + 1) k = entered a b d k + run a b (entered a b d k) k := rfl

lemma entered_zero (hk : k ∈ diagonals 0) : entered a b 0 k = 0 := by
  have hk := mem_diagonals.1 hk
  rw [entered, enter, if_pos (by omega), before]

/-- Between texts that differ from their fronts on, a path without changes does not get away. -/
lemma before_one_zero (hfirst : agreement a b 0 0 = 0) : before a b 1 0 = 0 := by
  rw [before_succ, entered_zero (mem_diagonals.2 (by omega))]
  simpa [run] using hfirst

/-- A path enters a diagonal from the one above, if that is strictly ahead, or else from the one
below. -/
lemma entered_succ_cases (a b : Array Char) (hk : k ∈ diagonals (d + 1)) :
    (k + 1 ∈ diagonals d ∧ entered a b (d + 1) k = before a b (d + 1) (k + 1) ∧
      (k - 1 ∈ diagonals d → before a b (d + 1) (k - 1) < before a b (d + 1) (k + 1))) ∨
    (k - 1 ∈ diagonals d ∧ entered a b (d + 1) k = before a b (d + 1) (k - 1) + 1 ∧
      (k + 1 ∈ diagonals d → before a b (d + 1) (k + 1) ≤ before a b (d + 1) (k - 1))) := by
  rw [mem_diagonals] at hk
  rw [mem_diagonals, mem_diagonals, entered, enter]
  split
  · next habove =>
    refine Or.inl ⟨by omega, rfl, fun hbelow => ?_⟩
    exact (habove.resolve_left (by omega)).2
  · next hbelow =>
    rw [not_or, not_and, Nat.not_lt] at hbelow
    refine Or.inr ⟨by omega, rfl, fun habove => ?_⟩
    exact hbelow.2 (by omega)

/-- Whichever way it is entered, a diagonal is reached as far as its neighbours allow. -/
lemma le_entered_succ (a b : Array Char) (hk : k ∈ diagonals (d + 1)) :
    (k + 1 ∈ diagonals d → before a b (d + 1) (k + 1) ≤ entered a b (d + 1) k) ∧
      (k - 1 ∈ diagonals d → before a b (d + 1) (k - 1) + 1 ≤ entered a b (d + 1) k) := by
  rcases entered_succ_cases a b hk with ⟨-, heq, hother⟩ | ⟨-, heq, hother⟩
  · refine ⟨fun _ => by omega, fun hbelow => ?_⟩
    have := hother hbelow
    omega
  · refine ⟨fun habove => ?_, fun _ => by omega⟩
    have := hother habove
    omega

lemma entered_le_before (a b : Array Char) (d : Nat) (k : Int) :
    entered a b d k ≤ before a b (d + 1) k := Nat.le_add_right _ _

/-- A path with `d` changes has covered at least `d` characters of both texts together, and none of
them before their fronts. -/
lemma le_entered (a b : Array Char) (hk : k ∈ diagonals d) :
    k ≤ entered a b d k ∧ (d : Int) ≤ 2 * entered a b d k - k := by
  induction d generalizing k with
  | zero =>
    rw [entered_zero hk]
    have hk := mem_diagonals.1 hk
    omega
  | succ d ih =>
    rcases entered_succ_cases a b hk with ⟨hmem, heq, -⟩ | ⟨hmem, heq, -⟩
    · have := ih hmem
      have := entered_le_before a b d (k + 1)
      omega
    · have := ih hmem
      have := entered_le_before a b d (k - 1)
      omega

lemma le_before (a b : Array Char) (hk : k ∈ diagonals d) :
    k ≤ before a b (d + 1) k ∧ (d : Int) ≤ 2 * before a b (d + 1) k - k := by
  have := le_entered a b hk
  have := entered_le_before a b d k
  omega

/-- What runs beyond where it was entered lies in the box. -/
lemma before_succ_cases (a b : Array Char) (d : Nat) (k : Int) :
    before a b (d + 1) k = entered a b d k ∨
      (entered a b d k ≤ a.size ∧ (entered a b d k : Int) - k ≤ b.size ∧
        before a b (d + 1) k ≤ a.size ∧ (before a b (d + 1) k : Int) - k ≤ b.size) := by
  by_cases hbox : entered a b d k < a.size ∧ (entered a b d k : Int) - k < b.size
  · have := run_le (a := a) (b := b) (Nat.le_of_lt hbox.1) (Int.le_of_lt hbox.2)
    rw [← before_succ] at this
    exact Or.inr ⟨by omega, by omega, this.1, this.2⟩
  · left
    rw [before_succ, run_eq_zero (by omega), Nat.add_zero]

lemma before_le_of_entered_le {c : Nat}
    (h : (2 * entered a b d k - k : Int) ≤ a.size + b.size + c) :
    (2 * before a b (d + 1) k - k : Int) ≤ a.size + b.size + c := by
  rcases before_succ_cases a b d k with heq | ⟨-, -, hx, hy⟩
  · rw [heq]
    exact h
  · omega

/-- A path with `d` changes leads at most `d` characters beyond both texts. -/
lemma entered_le (a b : Array Char) (hk : k ∈ diagonals d) :
    (2 * entered a b d k - k : Int) ≤ a.size + b.size + d := by
  induction d generalizing k with
  | zero =>
    rw [entered_zero hk]
    have hk := mem_diagonals.1 hk
    omega
  | succ d ih =>
    rcases entered_succ_cases a b hk with ⟨hmem, heq, -⟩ | ⟨hmem, heq, -⟩
    · have := before_le_of_entered_le (ih hmem)
      omega
    · have := before_le_of_entered_le (ih hmem)
      omega

/-! ## Beyond the box -/

/-- A path that has left the new text behind is not ahead of the diagonal above. -/
lemma before_lt_above (hk : k ∈ diagonals d) (hout : (b.size : Int) < before a b (d + 1) k - k) :
    k + 2 ∈ diagonals d ∧ before a b (d + 1) k < before a b (d + 1) (k + 2) := by
  have hrun := before_succ_cases a b d k
  induction d generalizing k with
  | zero =>
    have hzero := entered_zero (a := a) (b := b) hk
    have hk := mem_diagonals.1 hk
    omega
  | succ d ih =>
    rcases entered_succ_cases a b hk with ⟨habove, heq, -⟩ | ⟨hbelow, heq, hother⟩
    · -- it came down from the diagonal above, from which the next one can be entered as well
      have hmem : k + 2 ∈ diagonals (d + 1) := by
        rw [mem_diagonals] at *
        omega
      have hnext := (le_entered_succ a b hmem).2 (by rwa [show k + 2 - 1 = k + 1 by omega])
      rw [show k + 2 - 1 = k + 1 by omega] at hnext
      have := entered_le_before a b (d + 1) (k + 2)
      exact ⟨hmem, by omega⟩
    · -- had it come from below, then from a path that had left before and was not ahead
      obtain ⟨hmem, hlt⟩ := ih hbelow (by omega) (before_succ_cases a b d (k - 1))
      rw [show k - 1 + 2 = k + 1 by omega] at hmem hlt
      have := hother hmem
      omega

/-- A path that has left the old text behind is at most one ahead of the diagonal below. -/
lemma before_le_below (hk : k ∈ diagonals d) (hout : a.size < before a b (d + 1) k) :
    k - 2 ∈ diagonals d ∧ before a b (d + 1) k ≤ before a b (d + 1) (k - 2) + 1 := by
  have hrun := before_succ_cases a b d k
  induction d generalizing k with
  | zero =>
    have hzero := entered_zero (a := a) (b := b) hk
    omega
  | succ d ih =>
    have hbelow : k - 1 ∈ diagonals d ∧
        before a b (d + 1 + 1) k ≤ before a b (d + 1) (k - 1) + 1 := by
      rcases entered_succ_cases a b hk with ⟨habove, heq, hother⟩ | ⟨hbelow, heq, -⟩
      · obtain ⟨hmem, hle⟩ := ih habove (by omega) (before_succ_cases a b d (k + 1))
        rw [show k + 1 - 2 = k - 1 by omega] at hmem hle
        exact ⟨hmem, by omega⟩
      · exact ⟨hbelow, by omega⟩
    have hmem : k - 2 ∈ diagonals (d + 1) := by
      rw [mem_diagonals] at *
      omega
    have hnext := (le_entered_succ a b hmem).1
      (by rw [show k - 2 + 1 = k - 1 by omega]; exact hbelow.1)
    rw [show k - 2 + 1 = k - 1 by omega] at hnext
    have := entered_le_before a b (d + 1) (k - 2)
    exact ⟨hmem, by omega⟩

/-! ## Inside the box -/

section Inside

variable {delta : Int} {c : Nat}

/-- The diagonals nearer to `delta` than `c` are within the box still. -/
def Within (a b : Array Char) (d : Nat) (delta : Int) (c : Nat) : Prop :=
  ∀ k ∈ diagonals d, (k - delta).natAbs < c →
    before a b (d + 1) k < a.size ∧ (before a b (d + 1) k : Int) - k < b.size

variable (hdelta : delta = a.size - b.size) (hprev : Within a b d delta c) (hc : d ≤ c)
  (hk : k ∈ diagonals (d + 1)) (hnear : (k - delta).natAbs ≤ c) (hparity : (k - delta - c) % 2 = 0)

include hdelta hprev hc hk hnear hparity

/-- The point where the next path enters a diagonal lies in the box. -/
lemma entered_inside :
    entered a b (d + 1) k ≤ a.size ∧ (entered a b (d + 1) k : Int) - k ≤ b.size := by
  have hsum := entered_le a b hk
  rcases entered_succ_cases a b hk with ⟨habove, heq, -⟩ | ⟨hbelow, heq, hother⟩
  · by_cases hwithin : (k + 1 - delta).natAbs < c
    · have := hprev (k + 1) habove hwithin
      omega
    · constructor
      · by_contra hout
        obtain ⟨hmem, hle⟩ := before_le_below (a := a) (b := b) habove (by omega)
        rw [show k + 1 - 2 = k - 1 by omega] at hmem hle
        have hfar : (k - 1 - delta).natAbs < c ∨ d = 0 := by omega
        rcases hfar with hfar | rfl
        · have := hprev (k - 1) hmem hfar
          omega
        · rw [mem_diagonals] at hmem habove
          omega
      · omega
  · by_cases hwithin : (k - 1 - delta).natAbs < c
    · have hinside := hprev (k - 1) hbelow hwithin
      omega
    · constructor
      · omega
      · by_contra hout
        obtain ⟨hmem, hlt⟩ := before_lt_above (a := a) (b := b) hbelow (by omega)
        rw [show k - 1 + 2 = k + 1 by omega] at hmem hlt
        have := hother hmem
        omega

omit hnear in
/-- It is not the far corner of the box. -/
lemma entered_not_corner (hfirst : agreement a b 0 0 = 0) (ha : 0 < a.size) (hb : 0 < b.size) :
    ¬(entered a b (d + 1) k = a.size ∧ (entered a b (d + 1) k : Int) - k = b.size) := by
  intro hcorner
  have hzero : d = 0 → before a b (d + 1) 0 = 0 := by
    rintro rfl
    exact before_one_zero hfirst
  have hwithin : ∀ l ∈ diagonals d, (l = k + 1 ∨ l = k - 1) →
      (before a b (d + 1) l < a.size ∧ (before a b (d + 1) l : Int) - l < b.size) ∨
        (d = 0 ∧ l = 0) := by
    intro l hl hstep
    by_cases hnear' : (l - delta).natAbs < c
    · exact Or.inl (hprev l hl hnear')
    · have hl := mem_diagonals.1 hl
      exact Or.inr (by omega)
  rcases entered_succ_cases a b hk with ⟨habove, heq, -⟩ | ⟨hbelow, heq, -⟩
  · rcases hwithin _ habove (Or.inl rfl) with hinside | ⟨rfl, hl⟩
    · omega
    · rw [hl, hzero rfl] at heq
      omega
  · rcases hwithin _ hbelow (Or.inr rfl) with hinside | ⟨rfl, hl⟩
    · omega
    · rw [hl, hzero rfl] at heq
      omega

end Inside

end LinkedNotes.Edit.Snake
