import LinkedNotes.Edit.Diff
import LinkedNotes.Proofs.Edit.Reach

/-!
# The search for a middle snake

The search works on two arrays that may hold anything when it begins: a round reads only what the
round before it wrote, and writes between those cells (`search_eq_middle`). So what it finds depends
on the two texts alone, and the arrays can be shared by all searches. It always finds a point
(`isSome_middle`), and as long as the texts differ at both ends the point splits them into two
smaller problems (`splits_of_middle`).
-/

namespace LinkedNotes.Edit.Snake

variable {a b ra rb : Array Char} {d reach : Nat} {k l : Int}

/-! ## Work arrays -/

namespace Frontier

/-- The frontier has cells for the diagonals from `-reach` to `reach`. -/
structure Spans (f : Frontier) (reach : Nat) : Prop where
  le_middle : reach ≤ f.middle
  lt_size : f.middle + reach < f.cells.size

/-- Before round `d` the frontier holds how far the round before it reached, whatever else it
holds. -/
def Knows (f : Frontier) (a b : Array Char) : Nat → Prop
  | 0 => f.reached 1 = 0
  | d + 1 => ∀ k ∈ diagonals d, f.reached k = before a b (d + 1) k

variable {f : Frontier} {x : Nat}

lemma Spans.record (h : f.Spans reach) (k : Int) (x : Nat) : (f.record k x).Spans reach :=
  ⟨h.le_middle, by rw [Frontier.record, Array.size_setIfInBounds]; exact h.lt_size⟩

lemma spans_start (reach : Nat) : (start reach).Spans reach := by
  refine ⟨Nat.le_refl _, ?_⟩
  show reach + reach < (Array.replicate (2 * reach + 1) 0).size
  rw [Array.size_replicate]
  omega

lemma reached_start (reach : Nat) (k : Int) : (start reach).reached k = 0 := by
  rw [reached, start, Array.getD_eq_getD_getElem?, Array.getElem?_replicate]
  split <;> rfl

lemma reached_record_self (h : f.Spans reach) (hk : k.natAbs ≤ reach) :
    (f.record k x).reached k = x := by
  have hmiddle := h.le_middle
  have hsize := h.lt_size
  show (f.cells.setIfInBounds (k + f.middle).toNat x).getD (k + f.middle).toNat 0 = x
  rw [Array.getD_eq_getD_getElem?, Array.getElem?_setIfInBounds_self_of_lt (by omega),
    Option.getD_some]

lemma reached_record_of_ne (h : f.Spans reach) (hk : k.natAbs ≤ reach) (hl : l.natAbs ≤ reach)
    (hne : l ≠ k) : (f.record k x).reached l = f.reached l := by
  have hmiddle := h.le_middle
  show (f.cells.setIfInBounds (k + f.middle).toNat x).getD (l + f.middle).toNat 0 = _
  rw [Array.getD_eq_getD_getElem?, Array.getElem?_setIfInBounds_ne (by omega),
    ← Array.getD_eq_getD_getElem?, reached]

/-- The first round begins at the front of both texts. -/
lemma Spans.knows_record (h : f.Spans reach) (hreach : 1 ≤ reach) (a b : Array Char) :
    (f.record 1 0).Knows a b 0 :=
  reached_record_self h hreach

/-- A round enters a diagonal where the path does. -/
lemma Knows.entry_eq (h : f.Knows a b d) (hk : k ∈ diagonals d) :
    f.entry d k = entered a b d k := by
  have hk' := mem_diagonals.1 hk
  cases d with
  | zero =>
    have hzero : f.reached 1 = 0 := h
    rw [entered_zero hk, entry, if_pos (by omega), show k + 1 = 1 by omega, hzero]
  | succ d =>
    -- at the ends of a round only one of the neighbours was written, and only that one counts
    have hknown : ∀ l ∈ diagonals d, f.reached l = before a b (d + 1) l := h
    have habove : k ≠ (d + 1 : Nat) → f.reached (k + 1) = before a b (d + 1) (k + 1) :=
      fun hne => hknown _ (mem_diagonals.2 (by omega))
    have hbelow : k ≠ -(d + 1 : Nat) → f.reached (k - 1) = before a b (d + 1) (k - 1) :=
      fun hne => hknown _ (mem_diagonals.2 (by omega))
    show (if k = -(d + 1 : Nat) ∨ (k ≠ (d + 1 : Nat) ∧ f.reached (k - 1) < f.reached (k + 1)) then
      f.reached (k + 1) else f.reached (k - 1) + 1) = entered a b (d + 1) k
    rw [entered, enter]
    by_cases hlast : k = -(d + 1 : Nat)
    · rw [if_pos (Or.inl hlast), if_pos (Or.inl hlast), habove (by omega)]
    · by_cases hfirst : k = (d + 1 : Nat)
      · rw [if_neg (by omega), if_neg (by omega), hbelow hlast]
      · rw [habove hfirst, hbelow hlast]

/-- Recording what a round reaches does not touch what it reads. -/
lemma Knows.record (h : f.Knows a b d) (hspans : f.Spans reach) (hd : d ≤ reach)
    (hreach : 1 ≤ reach) (hk : k ∈ diagonals d) (x : Nat) : (f.record k x).Knows a b d := by
  have hk' := mem_diagonals.1 hk
  cases d with
  | zero =>
    have hzero : f.reached 1 = 0 := h
    show (f.record k x).reached 1 = 0
    rw [reached_record_of_ne hspans (by omega) (by omega) (by omega), hzero]
  | succ d =>
    intro l hl
    have hl' := mem_diagonals.1 hl
    rw [reached_record_of_ne hspans (by omega) (by omega) (by omega)]
    exact h l hl

end Frontier

/-! ## Rounds -/

/-- Paths from both ends pass each other on diagonal `k`, when they reach the given offsets. -/
def Meets (n : Nat) (delta bound : Int) (mine other : Int → Nat) (k : Int) : Prop :=
  (k - delta).natAbs ≤ bound ∧ n ≤ mine k + other (delta - k)

instance (n : Nat) (delta bound : Int) (mine other : Int → Nat) (k : Int) :
    Decidable (Meets n delta bound mine other k) :=
  inferInstanceAs (Decidable (_ ∧ _))

/-- A round either stops at the first diagonal on which paths meet, or it writes how far it reached
on all of them. -/
lemma sweep_cases {delta bound : Int} {other : Frontier} {o : Int → Nat} (hd : d ≤ reach)
    (hreach : 1 ≤ reach)
    (hother : ∀ k ∈ diagonals d, (k - delta).natAbs ≤ bound →
      other.reached (delta - k) = o (delta - k))
    (ks : List Int) (hks : ks ⊆ diagonals d) (hnodup : ks.Nodup) {front : Frontier}
    (hspans : front.Spans reach) (hknows : front.Knows a b d)
    (hdone : ∀ k ∈ diagonals d, k ∉ ks → front.reached k = before a b (d + 1) k) :
    (∃ k, ks.find? (Meets a.size delta bound (before a b (d + 1)) o) = some k ∧
      sweep a b d delta bound other ks front =
        .met (entered a b d k) ((entered a b d k : Int) - k).toNat (run a b (entered a b d k) k)) ∨
    (ks.find? (Meets a.size delta bound (before a b (d + 1)) o) = none ∧
      ∃ front', sweep a b d delta bound other ks front = .reached front' ∧
        front'.Spans reach ∧ front'.Knows a b (d + 1)) := by
  induction ks generalizing front with
  | nil => exact Or.inr ⟨rfl, front, rfl, hspans, fun k hk => hdone k hk List.not_mem_nil⟩
  | cons k rest ih =>
    obtain ⟨hk, hrest⟩ := List.cons_subset.1 hks
    obtain ⟨hnot, hnodup⟩ := List.nodup_cons.1 hnodup
    have hk' := mem_diagonals.1 hk
    have hsweep : sweep a b d delta bound other (k :: rest) front =
        if (k - delta).natAbs ≤ bound ∧
            a.size ≤ before a b (d + 1) k + other.reached (delta - k) then
          .met (entered a b d k) ((entered a b d k : Int) - k).toNat
            (run a b (entered a b d k) k)
        else sweep a b d delta bound other rest (front.record k (before a b (d + 1) k)) := by
      rw [sweep, hknows.entry_eq hk]
      rfl
    have hmeets : ((k - delta).natAbs ≤ bound ∧
        a.size ≤ before a b (d + 1) k + other.reached (delta - k)) ↔
          Meets a.size delta bound (before a b (d + 1)) o k :=
      and_congr_right fun hnear => by rw [hother k hk hnear]
    rw [hsweep]
    by_cases h : Meets a.size delta bound (before a b (d + 1)) o k
    · rw [if_pos (hmeets.2 h)]
      exact Or.inl ⟨k, List.find?_cons_of_pos (decide_eq_true h), rfl⟩
    · rw [if_neg (mt hmeets.1 h), List.find?_cons_of_neg (by simpa using h)]
      refine ih hrest hnodup (hspans.record _ _) (hknows.record hspans hd hreach hk _) ?_
      -- what was written now is known, and what was written before is still there
      intro l hl hout
      have hl' := mem_diagonals.1 hl
      by_cases heq : l = k
      · rw [heq, Frontier.reached_record_self hspans (by omega)]
      · rw [Frontier.reached_record_of_ne hspans (by omega) (by omega) heq]
        exact hdone l hl (by simp [heq, hout])

/-! ## The point that is found -/

/-- On a forward round, which diagonals the search from the back can have reached. -/
def frontBound (delta : Int) (d : Nat) : Int := if delta % 2 ≠ 0 then (d : Int) - 1 else -1

/-- On a backward round, which diagonals the search from the front can have reached. -/
def backBound (delta : Int) (d : Nat) : Int := if delta % 2 ≠ 0 then -1 else (d : Int)

/-- The paths from the front meet those from the back on diagonal `k` of round `d`. -/
abbrev MeetsFront (a b ra rb : Array Char) (d : Nat) : Int → Prop :=
  Meets a.size (a.size - b.size) (frontBound (a.size - b.size) d) (before a b (d + 1))
    (before ra rb d)

/-- The paths from the back meet those from the front on diagonal `k` of round `d`. -/
abbrev MeetsBack (a b ra rb : Array Char) (d : Nat) : Int → Prop :=
  Meets ra.size (a.size - b.size) (backBound (a.size - b.size) d) (before ra rb (d + 1))
    (before a b (d + 1))

/-- The point that the search finds, told from the texts alone. -/
def middle (a b ra rb : Array Char) (d : Nat) : Nat → Option (Nat × Nat)
  | 0 => none
  | rounds + 1 =>
    match (diagonals d).find? (MeetsFront a b ra rb d) with
    | some k => some (entered a b d k, ((entered a b d k : Int) - k).toNat)
    | none =>
      match (diagonals d).find? (MeetsBack a b ra rb d) with
      | some k =>
        some (a.size - (entered ra rb d k + run ra rb (entered ra rb d k) k),
          b.size - (((entered ra rb d k : Int) - k).toNat + run ra rb (entered ra rb d k) k))
      | none => middle a b ra rb (d + 1) rounds

lemma search_succ (front back : Frontier) (rounds : Nat) :
    search a b ra rb front back d (rounds + 1) =
      match sweep a b d (a.size - b.size) (frontBound (a.size - b.size) d) back (diagonals d)
          front with
      | .met x y _ => some (x, y)
      | .reached front =>
        match sweep ra rb d (a.size - b.size) (backBound (a.size - b.size) d) front (diagonals d)
            back with
        | .met x y run => some (a.size - (x + run), b.size - (y + run))
        | .reached back => search a b ra rb front back (d + 1) rounds := rfl

/-- Whatever the work arrays held, the search finds the same. -/
theorem search_eq_middle {front back : Frontier} (rounds : Nat) (hd : d + rounds ≤ reach + 1)
    (hreach : 1 ≤ reach) (hfront : front.Spans reach) (hback : back.Spans reach)
    (hknows : front.Knows a b d) (hknows' : back.Knows ra rb d) :
    search a b ra rb front back d rounds = middle a b ra rb d rounds := by
  induction rounds generalizing d front back with
  | zero => rfl
  | succ rounds ih =>
    have hfar : ∀ k ∈ diagonals d,
        (k - (a.size - b.size : Int)).natAbs ≤ frontBound (a.size - b.size) d →
          back.reached (a.size - b.size - k) = before ra rb d (a.size - b.size - k) := by
      intro k hk hnear
      unfold frontBound at hnear
      rw [mem_diagonals] at hk
      cases d with
      | zero => split at hnear <;> omega
      | succ e =>
        split at hnear
        · exact hknows' _ (mem_diagonals.2 (by omega))
        · omega
    rw [search_succ, middle]
    rcases sweep_cases (by omega) hreach hfar (diagonals d) (List.Subset.refl _)
        (nodup_diagonals d) hfront hknows (fun k hk hout => absurd hk hout) with
      ⟨k, hfind, hsweep⟩ | ⟨hfind, front', hsweep, hspans, hnext⟩
    · rw [hfind, hsweep]
    · have hfar' : ∀ k ∈ diagonals d,
          (k - (a.size - b.size : Int)).natAbs ≤ backBound (a.size - b.size) d →
            front'.reached (a.size - b.size - k) = before a b (d + 1) (a.size - b.size - k) := by
        intro k hk hnear
        unfold backBound at hnear
        rw [mem_diagonals] at hk
        split at hnear
        · omega
        · exact hnext _ (mem_diagonals.2 (by omega))
      rw [hfind, hsweep]
      dsimp only
      rcases sweep_cases (by omega) hreach hfar' (diagonals d) (List.Subset.refl _)
          (nodup_diagonals d) hback hknows' (fun k hk hout => absurd hk hout) with
        ⟨k, hfind', hsweep'⟩ | ⟨hfind', back', hsweep', hspans', hnext'⟩
      · rw [hfind', hsweep']
      · rw [hfind', hsweep']
        exact ih (by omega) hspans hspans' hnext hnext'

/-! ## Where the point lies -/

/-- In the round before `d`, no paths have met. -/
def Apart (a b ra rb : Array Char) : Nat → Prop
  | 0 => True
  | d + 1 => (∀ k ∈ diagonals d, ¬MeetsFront a b ra rb d k) ∧
      ∀ k ∈ diagonals d, ¬MeetsBack a b ra rb d k

/-- Where paths could have met but did not, they are in the box still. -/
lemma within_of_not_meets {n c : Nat} {delta bound : Int} {other : Int → Nat} (hn : n = a.size)
    (hdelta : delta = a.size - b.size)
    (h : ∀ k ∈ diagonals d, ¬Meets n delta bound (before a b (d + 1)) other k)
    (hother : ∀ k ∈ diagonals d, (k - delta).natAbs < c →
      ((k - delta).natAbs : Int) ≤ bound ∧ delta - k ≤ other (delta - k)) :
    Within a b d delta c := by
  intro k hk hnear
  obtain ⟨hbound, hle⟩ := hother k hk hnear
  have hnot : ¬n ≤ before a b (d + 1) k + other (delta - k) := fun hmet => h k hk ⟨hbound, hmet⟩
  omega

section Point

variable (hra : ra.size = a.size) (hrb : rb.size = b.size) (ha : 0 < a.size) (hb : 0 < b.size)
  (hfirst : agreement a b 0 0 = 0) (hlast : agreement ra rb 0 0 = 0)
  (hends : ra[ra.size - 1]? ≠ rb[rb.size - 1]?)

include ha hb hfirst in
/-- Where a path from the front meets one from the back, it has entered the diagonal inside the
box, off both corners. -/
lemma splits_of_meetsFront (hapart : Apart a b ra rb d) (hk : k ∈ diagonals d)
    (h : MeetsFront a b ra rb d k) :
    Splits (entered a b d k) ((entered a b d k : Int) - k).toNat a.size b.size := by
  obtain ⟨hnear, -⟩ := h
  unfold frontBound at hnear
  have hk' := mem_diagonals.1 hk
  split at hnear
  · next hodd =>
    cases d with
    | zero => omega
    | succ e =>
      have hwithin : Within a b e (a.size - b.size) e := by
        refine within_of_not_meets rfl rfl hapart.1 fun l hl hnear' => ?_
        rw [frontBound, if_pos hodd]
        rw [mem_diagonals] at hl
        cases e with
        | zero => omega
        | succ e =>
          have hmem : (a.size - b.size - l : Int) ∈ diagonals e := mem_diagonals.2 (by omega)
          have := (le_before ra rb hmem).1
          omega
      have hinside := entered_inside rfl hwithin (Nat.le_refl _) hk (by omega) (by omega)
      have hcorner := entered_not_corner rfl hwithin (Nat.le_refl _) hk (by omega) hfirst ha hb
      have hle := le_entered a b hk
      unfold Splits
      omega
  · omega

include hra hrb ha hb hfirst hlast hends in
/-- Where a path from the back meets one from the front, it has got inside the box, off both
corners. -/
lemma splits_of_meetsBack (hapart : Apart a b ra rb d) (hk : k ∈ diagonals d)
    (h : MeetsBack a b ra rb d k) :
    Splits (a.size - (entered ra rb d k + run ra rb (entered ra rb d k) k))
      (b.size - (((entered ra rb d k : Int) - k).toNat + run ra rb (entered ra rb d k) k))
      a.size b.size := by
  obtain ⟨hnear, hmet⟩ := h
  unfold backBound at hnear
  have hk' := mem_diagonals.1 hk
  split at hnear
  · omega
  · next heven =>
    cases d with
    | zero =>
      obtain rfl : k = 0 := by omega
      rw [show ((a.size - b.size : Int) - 0) = 0 by omega, before_one_zero hfirst,
        before_one_zero hlast] at hmet
      omega
    | succ e =>
      have hwithin : Within ra rb e (a.size - b.size) (e + 1) := by
        refine within_of_not_meets rfl (by rw [hra, hrb]) hapart.2 fun l hl hnear' => ?_
        rw [backBound, if_neg heven]
        rw [mem_diagonals] at hl
        have hmem : (a.size - b.size - l : Int) ∈ diagonals e := mem_diagonals.2 (by omega)
        have := (le_before a b hmem).1
        omega
      have hdelta : (a.size - b.size : Int) = ra.size - rb.size := by rw [hra, hrb]
      have hinside := entered_inside hdelta hwithin (Nat.le_succ _) hk (by omega) (by omega)
      have hcorner := entered_not_corner hdelta hwithin (Nat.le_succ _) hk (by omega) hlast
        (by omega) (by omega)
      have hrun := run_le hinside.1 hinside.2
      have hle := le_entered ra rb hk
      have hrest := run_not_corner (by omega) hends hcorner
      unfold Splits
      omega

/-! ## A point is always found -/

include hra ha hb in
/-- In the last round, paths from both ends have covered so much that they must meet. -/
lemma exists_meets (hd : d = (a.size + b.size + 1) / 2) :
    (∃ k ∈ diagonals d, MeetsFront a b ra rb d k) ∨ ∃ k ∈ diagonals d, MeetsBack a b ra rb d k := by
  -- the outermost diagonal on the side of the longer text
  obtain ⟨k, hk, hside⟩ : ∃ k ∈ diagonals d, (k = d ∧ b.size ≤ a.size) ∨
      (k = -d ∧ a.size < b.size) := by
    by_cases hle : b.size ≤ a.size
    · exact ⟨d, mem_diagonals.2 (by omega), Or.inl ⟨rfl, hle⟩⟩
    · exact ⟨-d, mem_diagonals.2 (by omega), Or.inr ⟨rfl, by omega⟩⟩
  by_cases hodd : (a.size - b.size : Int) % 2 ≠ 0
  · refine Or.inl ⟨k, hk, ?_, ?_⟩
    · rw [frontBound, if_pos hodd]
      omega
    · obtain ⟨e, rfl⟩ : ∃ e, d = e + 1 := ⟨d - 1, by omega⟩
      have hmem : (a.size - b.size - k : Int) ∈ diagonals e := mem_diagonals.2 (by omega)
      have hback := (le_before ra rb hmem).2
      have hfront := (le_before a b hk).2
      omega
  · refine Or.inr ⟨k, hk, ?_, ?_⟩
    · rw [backBound, if_neg hodd]
      omega
    · have hmem : (a.size - b.size - k : Int) ∈ diagonals d := mem_diagonals.2 (by omega)
      have hback := (le_before a b hmem).2
      have hfront := (le_before ra rb hk).2
      omega

include hra hrb ha hb hfirst hlast hends in
/-- A round finds a point that splits the texts, or no paths meet in it. -/
lemma middle_succ_cases (rounds : Nat) (hapart : Apart a b ra rb d) :
    (∃ x y, middle a b ra rb d (rounds + 1) = some (x, y) ∧ Splits x y a.size b.size) ∨
      (middle a b ra rb d (rounds + 1) = middle a b ra rb (d + 1) rounds ∧
        Apart a b ra rb (d + 1)) := by
  rw [middle]
  cases hfind : (diagonals d).find? (MeetsFront a b ra rb d) with
  | some k =>
    have hmeets : MeetsFront a b ra rb d k := by simpa using List.find?_some hfind
    exact Or.inl ⟨_, _, rfl,
      splits_of_meetsFront ha hb hfirst hapart (List.mem_of_find?_eq_some hfind) hmeets⟩
  | none =>
    cases hfind' : (diagonals d).find? (MeetsBack a b ra rb d) with
    | some k =>
      have hmeets : MeetsBack a b ra rb d k := by simpa using List.find?_some hfind'
      exact Or.inl ⟨_, _, rfl, splits_of_meetsBack hra hrb ha hb hfirst hlast hends hapart
        (List.mem_of_find?_eq_some hfind') hmeets⟩
    | none =>
      refine Or.inr ⟨rfl, fun k hk hmeets => ?_, fun k hk hmeets => ?_⟩
      · exact List.find?_eq_none.1 hfind k hk (decide_eq_true hmeets)
      · exact List.find?_eq_none.1 hfind' k hk (decide_eq_true hmeets)

include hra hrb ha hb hfirst hlast hends in
/-- If no paths have met before, the search finds a point, and that splits the texts. -/
theorem exists_splits_of_middle (rounds : Nat) (hrounds : d + rounds = (a.size + b.size + 1) / 2)
    (hapart : Apart a b ra rb d) :
    ∃ x y, middle a b ra rb d (rounds + 1) = some (x, y) ∧ Splits x y a.size b.size := by
  induction rounds generalizing d with
  | zero =>
    refine (middle_succ_cases hra hrb ha hb hfirst hlast hends 0 hapart).resolve_right ?_
    intro hnone
    obtain ⟨-, hfront, hback⟩ := hnone
    rcases exists_meets hra ha hb hrounds with ⟨k, hk, hmeets⟩ | ⟨k, hk, hmeets⟩
    · exact hfront k hk hmeets
    · exact hback k hk hmeets
  | succ rounds ih =>
    rcases middle_succ_cases hra hrb ha hb hfirst hlast hends (rounds + 1) hapart with
      hfound | ⟨hmiddle, hnext⟩
    · exact hfound
    · rw [hmiddle]
      exact ih (by omega) hnext

end Point

end LinkedNotes.Edit.Snake
