import LinkedNotes.Patch.Wire
import LinkedNotes.Proofs.Patch.Hunks
import Mathlib.Algebra.GroupWithZero.Nat

/-!
# The numbers that place hunks

Where a hunk goes is worked out in signed numbers of 64 bits, from the offset it says it starts at
and the drift of the hunk before. `numbers` lists all that come up when a patch is applied, as they
are before they are cut to size.

An offset is read without a sign, so it may be too large for a signed number, by itself or with the
drift added. From then on numbers wrap around, and hunks are looked for elsewhere than they say.
Apart from a text that is itself too long there is no other way out of the range
(`fits_numbersFrom_iff`), and a patch whose offsets leave room for all the text never takes one
(`not_overruns`). As long as none is taken, hunks go where they would if numbers had no limit
(`applyFrom_of_not_overruns`).
-/

namespace LinkedNotes.Patch

variable {drift : Int} {text : List Char} {h : Hunk} {start : Nat}

/-- The number has 64 bits with a sign. -/
def Fits (n : Int) : Prop := -2 ^ 63 ≤ n ∧ n < 2 ^ 63

instance (n : Int) : Decidable (Fits n) := inferInstanceAs (Decidable (_ ∧ _))

lemma Fits.signed_eq {n : Int} (hn : Fits n) : signed n = n := Patch.signed_eq hn.1 hn.2

/-- The signed numbers that come up while hunks are placed: the offset of a hunk, the same with the
drift added, where it is found, and the drift from there on. -/
def numbersFrom (drift : Int) (text : List Char) : List Hunk → List Int
  | [] => []
  | h :: r =>
    (h.newStart : Int) :: (signed h.newStart + drift) ::
      match h.place drift text with
      | none => []
      | some start =>
        (start : Int) :: (signed start - signed h.newStart) ::
          numbersFrom (h.drift start) (h.splice start text) r

/-- The signed numbers that come up while a patch text is applied; none if it cannot be read. -/
def numbers (text patch : List Char) : List Int :=
  match read patch with
  | .error _ => []
  | .ok hunks => numbersFrom 0 text hunks

/-! ## Ways out of the range -/

/-- Applying hunks comes to one that takes a number out of the range. Up to there, every number is
what it would be if there were no limit. -/
inductive Overruns : Int → List Char → List Hunk → Prop
  /-- The hunk says that it starts there. -/
  | own {drift : Int} {text : List Char} {h : Hunk} {r : List Hunk}
    (hown : 2 ^ 63 ≤ (h.newStart : Int)) : Overruns drift text (h :: r)
  /-- The drift takes the hunk there. -/
  | shifted {drift : Int} {text : List Char} {h : Hunk} {r : List Hunk}
    (hshifted : 2 ^ 63 ≤ h.newStart + drift) : Overruns drift text (h :: r)
  /-- The hunk is found there, in a text that is too long for any memory. -/
  | found {drift : Int} {text : List Char} {h : Hunk} {r : List Hunk} {start : Nat}
    (hplace : Text.locate text h.source (h.newStart + drift).toNat = some start)
    (hstart : 2 ^ 63 ≤ (start : Int)) : Overruns drift text (h :: r)
  /-- A later hunk comes there. -/
  | later {drift : Int} {text : List Char} {h : Hunk} {r : List Hunk} {start : Nat}
    (hplace : Text.locate text h.source (h.newStart + drift).toNat = some start)
    (rest : Overruns (start - h.newStart) (h.splice start text) r) : Overruns drift text (h :: r)

/-- Apply the hunks from the given number on, with numbers that have no limit. -/
def applyExactly (number : Nat) (drift : Int) (text : List Char) :
    List Hunk → Except Fault (List Char)
  | [] => .ok text
  | h :: r =>
    match Text.locate text h.source (h.newStart + drift).toNat with
    | none => .error (.misplaced number)
    | some start => applyExactly (number + 1) (start - h.newStart) (h.splice start text) r

/-- A hunk is looked for where it says, with the drift added, if these numbers fit. -/
lemma Hunk.place_of_fits (hown : Fits h.newStart) (hshifted : Fits (h.newStart + drift)) :
    h.place drift text = Text.locate text h.source (h.newStart + drift).toNat := by
  rw [Hunk.place, Hunk.expected, hown.signed_eq, hshifted.signed_eq]

lemma Hunk.drift_of_fits (hown : Fits h.newStart) (hstart : Fits start)
    (hdrift : Fits (start - h.newStart)) : h.drift start = start - h.newStart := by
  rw [Hunk.drift, hstart.signed_eq, hown.signed_eq, hdrift.signed_eq]

section Cons

variable {r : List Hunk}

/-- What has to fit for the numbers of a first hunk and of those behind it to fit. -/
lemma fits_numbersFrom_cons_iff : (∀ n ∈ numbersFrom drift text (h :: r), Fits n) ↔
    Fits h.newStart ∧ Fits (h.newStart + drift) ∧
      ∀ start, Text.locate text h.source (h.newStart + drift).toNat = some start →
        Fits start ∧ Fits (start - h.newStart) ∧
          ∀ n ∈ numbersFrom (start - h.newStart) (h.splice start text) r, Fits n := by
  rw [numbersFrom, List.forall_mem_cons, List.forall_mem_cons]
  -- each number is what it would be without a limit, since those before it fit
  refine and_congr_right fun hown => ?_
  rw [hown.signed_eq]
  refine and_congr_right fun hshifted => ?_
  rw [Hunk.place_of_fits hown hshifted]
  cases Text.locate text h.source (h.newStart + drift).toNat with
  | none => simp
  | some start =>
    simp only [List.forall_mem_cons, Option.some.injEq, forall_eq']
    refine and_congr_right fun hstart => ?_
    rw [hstart.signed_eq]
    refine and_congr_right fun hdrift => ?_
    rw [Hunk.drift_of_fits hown hstart hdrift]

/-- Nothing overruns if the numbers of the first hunk fit and nothing behind it overruns. No number
is ever too small, since a drift is not below the offset it comes from. -/
lemma not_overruns_cons_iff (hdrift : -2 ^ 63 ≤ drift) : ¬Overruns drift text (h :: r) ↔
    Fits h.newStart ∧ Fits (h.newStart + drift) ∧
      ∀ start, Text.locate text h.source (h.newStart + drift).toNat = some start →
        Fits start ∧ Fits (start - h.newStart) ∧
          ¬Overruns (start - h.newStart) (h.splice start text) r := by
  constructor
  · intro hnone
    have hown : (h.newStart : Int) < 2 ^ 63 := Int.not_le.1 fun hown => hnone (.own hown)
    have hshifted : h.newStart + drift < 2 ^ 63 :=
      Int.not_le.1 fun hshifted => hnone (.shifted hshifted)
    refine ⟨⟨by omega, hown⟩, ⟨by omega, hshifted⟩, fun start hplace => ?_⟩
    have hstart : (start : Int) < 2 ^ 63 := Int.not_le.1 fun hstart => hnone (.found hplace hstart)
    exact ⟨⟨by omega, hstart⟩, ⟨by omega, by omega⟩, fun rest => hnone (.later hplace rest)⟩
  · rintro ⟨hown, hshifted, hrest⟩ hover
    cases hover with
    | own hlarge => exact Int.not_le.2 hown.2 hlarge
    | shifted hlarge => exact Int.not_le.2 hshifted.2 hlarge
    | found hplace hlarge => exact Int.not_le.2 (hrest _ hplace).1.2 hlarge
    | later hplace rest => exact (hrest _ hplace).2.2 rest

end Cons

/-- All numbers that come up fit exactly if nothing overruns. -/
lemma fits_numbersFrom_iff {hunks : List Hunk} (hdrift : -2 ^ 63 ≤ drift) :
    (∀ n ∈ numbersFrom drift text hunks, Fits n) ↔ ¬Overruns drift text hunks := by
  induction hunks generalizing drift text with
  | nil => exact iff_of_true (fun n hn => nomatch hn) (fun hover => nomatch hover)
  | cons h r ih =>
    rw [fits_numbersFrom_cons_iff, not_overruns_cons_iff hdrift]
    refine and_congr_right fun hown => and_congr_right fun hshifted => ?_
    refine forall₂_congr fun start hplace => ?_
    exact and_congr_right fun hstart => and_congr_right fun hnext => ih hnext.1

/-- As long as nothing overruns, it does not matter that numbers have a limit. -/
lemma applyFrom_of_not_overruns {hunks : List Hunk} (hdrift : -2 ^ 63 ≤ drift)
    (hnone : ¬Overruns drift text hunks) (number : Nat) :
    applyFrom number drift text hunks = applyExactly number drift text hunks := by
  induction hunks generalizing number drift text with
  | nil => rfl
  | cons h r ih =>
    obtain ⟨hown, hshifted, hrest⟩ := (not_overruns_cons_iff hdrift).1 hnone
    rw [applyFrom, applyExactly, Hunk.place_of_fits hown hshifted]
    cases hplace : Text.locate text h.source (h.newStart + drift).toNat with
    | none => rfl
    | some start =>
      obtain ⟨hstart, hnext, hnone⟩ := hrest start hplace
      dsimp only
      rw [Hunk.drift_of_fits hown hstart hnext]
      exact ih hnext.1 hnone (number + 1)

/-! ## Patches that leave room -/

/-- How many characters hunks leave behind in all. -/
def leftBehind (hunks : List Hunk) : Nat := (hunks.map fun h => h.target.length).sum

/-- A hunk that is found replaces its source by its target. -/
lemma Hunk.length_splice (hle : start + h.source.length ≤ text.length) :
    (h.splice start text).length + h.source.length = text.length + h.target.length := by
  rw [Hunk.splice, List.length_append, List.length_append, List.length_take, List.length_drop]
  omega

/-- Where every offset leaves room for all the text there can be, nothing overruns: a drift is no
longer than the text in front of where a hunk was found. -/
lemma not_overruns {hunks : List Hunk} {room : Nat} (hdrift : drift ≤ text.length)
    (hroom : text.length + leftBehind hunks ≤ room)
    (hoffsets : ∀ h ∈ hunks, h.newStart + room < 2 ^ 63) : ¬Overruns drift text hunks := by
  intro hover
  induction hover with
  | @own drift text h r hown =>
    have hoffset := hoffsets h (by simp)
    omega
  | @shifted drift text h r hshifted =>
    have hoffset := hoffsets h (by simp)
    omega
  | @found drift text h r start hplace hstart =>
    have hoffset := hoffsets h (by simp)
    have hle := (Text.locate_eq_some_iff.1 hplace).occurs.add_length_le
    omega
  | @later drift text h r start hplace rest ih =>
    have hle := (Text.locate_eq_some_iff.1 hplace).occurs.add_length_le
    have hsplice := h.length_splice hle
    rw [leftBehind, List.map_cons, List.sum_cons] at hroom
    refine ih ?_ ?_ fun h' hmem => hoffsets h' (List.mem_cons_of_mem h hmem)
    · omega
    · rw [leftBehind]
      omega

/-! ## Patch texts -/

/-- What becomes of the numbers that a patch text makes come up, for every text and every patch
text. They all fit unless applying the hunks comes to one that overruns. As long as none does, the
outcome is the one of numbers without a limit, and none does if every offset leaves room for the
text and all that is inserted. A patch text that cannot be read is refused before any number comes
up. -/
theorem fits_numbers_iff (text patch : List Char) :
    (∀ fault, read patch = .error fault →
      apply text patch = .error fault ∧ numbers text patch = []) ∧
    ∀ hunks, read patch = .ok hunks →
      ((∀ n ∈ numbers text patch, Fits n) ↔ ¬Overruns 0 text hunks) ∧
      (¬Overruns 0 text hunks → apply text patch = applyExactly 1 0 text hunks) ∧
      ((∀ h ∈ hunks, h.newStart + (text.length + leftBehind hunks) < 2 ^ 63) →
        ¬Overruns 0 text hunks) := by
  constructor
  · intro fault hread
    rw [apply, numbers, hread]
    exact ⟨rfl, rfl⟩
  · intro hunks hread
    have happly : apply text patch = applyFrom 1 0 text hunks := by
      rw [apply, hread]
      rfl
    have hnumbers : numbers text patch = numbersFrom 0 text hunks := by rw [numbers, hread]
    rw [happly, hnumbers]
    refine ⟨fits_numbersFrom_iff (by omega), fun hnone => ?_, fun hoffsets => ?_⟩
    · exact applyFrom_of_not_overruns (by omega) hnone 1
    · exact not_overruns (by omega) le_rfl hoffsets

/-- Two hunks for a text that stands two characters further on than they say. -/
def near : List Char := "@@ -1,2 +1,3 @@\n-ab\n+ABC\n@@ -5,2 +6,2 @@\n-cd\n+CD\n".toList

theorem fits_numbers_near :
    (∀ n ∈ numbers "..ab--cd".toList near, Fits n) ∧
      numbers "..ab--cd".toList near = [0, 0, 2, 2, 5, 7, 7, 2] ∧
      apply "..ab--cd".toList near = .ok "..ABC--CD".toList := by
  have hread : read near = .ok [⟨0, 2, 0, 3, [⟨.delete, "ab".toList⟩, ⟨.insert, "ABC".toList⟩]⟩,
      ⟨4, 2, 5, 2, [⟨.delete, "cd".toList⟩, ⟨.insert, "CD".toList⟩]⟩] := by decide +kernel
  obtain ⟨hfits, hexact, hroom⟩ := (fits_numbers_iff "..ab--cd".toList near).2 _ hread
  have hnone := hroom (by decide)
  exact ⟨hfits.2 hnone, by decide +kernel, (hexact hnone).trans (by decide +kernel)⟩

/-- A hunk that says it starts at an offset with 64 bits, but none left for a sign. -/
def far : List Char := "@@ -3 +9223372036854775810 @@\n-a\n+b\n".toList

/-- The least offset that is negative when it is read with a sign: taken off any place where the
hunk is found, it makes a number that is too large. -/
def least : List Char := "@@ -0,0 +9223372036854775808,0 @@\n".toList

/-- The greatest offset that is not negative when it is read with a sign, behind a hunk that is
found one character further on than it says. -/
def greatest : List Char := "@@ -1 +1 @@\n a\n@@ -1 +9223372036854775808 @@\n a\n".toList

/-- Not all numbers fit whatever a patch text says. An offset behind every text is taken for one in
front of it, and the wrong one of two occurrences is replaced. The drift that is passed on, and the
offset that it is added to, may be too large as well. -/
theorem not_fits_numbers_far :
    (∃ n ∈ numbers "aXa".toList far, ¬Fits n) ∧ apply "aXa".toList far = .ok "bXa".toList ∧
      (∃ hunks, read far = .ok hunks ∧ applyExactly 1 0 "aXa".toList hunks = .ok "aXb".toList) ∧
      numbers [] least = [2 ^ 63, -2 ^ 63, 0, 2 ^ 63] ∧
      numbers "xa".toList greatest = [0, 0, 1, 1, 2 ^ 63 - 1, 2 ^ 63, 1, -2 ^ 63 + 2] := by
  refine ⟨⟨9223372036854775809, by decide +kernel, by decide⟩, by decide +kernel,
    ⟨[⟨2, 1, 9223372036854775809, 1, [⟨.delete, ['a']⟩, ⟨.insert, ['b']⟩]⟩], by decide +kernel,
      by decide +kernel⟩, by decide +kernel, by decide +kernel⟩

end LinkedNotes.Patch
