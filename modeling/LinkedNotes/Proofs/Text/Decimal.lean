import LinkedNotes.Text.Character
import Mathlib.Algebra.Ring.Nat
import Mathlib.Tactic.Lemma

/-!
# Numbers read back

A number written in decimal digits is read back as itself, whenever it is below the limit of the
reader. A hexadecimal digit of either case has the value it was written for.
-/

namespace LinkedNotes.Text

lemma decimal_ne_nil (n : Nat) : decimal n ≠ [] := Nat.toDigits_ne_nil

lemma isAsciiDigit_of_mem_decimal {n : Nat} {c : Char} (h : c ∈ decimal n) :
    isAsciiDigit c = true := by
  have hdigit := Nat.isDigit_of_mem_toDigits (by omega) (by omega) h
  rwa [Char.isDigit] at hdigit

lemma toNat_of_isAsciiDigit {c : Char} (h : isAsciiDigit c = true) :
    0x30 ≤ c.toNat ∧ c.toNat ≤ 0x39 := by
  simp only [isAsciiDigit, Bool.and_eq_true, decide_eq_true_eq, Char.le_def,
    UInt32.le_iff_toNat_le] at h
  exact h

/-- The ASCII digits are digits of a script. -/
lemma isDigit_of_isAsciiDigit {c : Char} (h : isAsciiDigit c = true) : isDigit c = true := by
  obtain ⟨hlow, hhigh⟩ := toNat_of_isAsciiDigit h
  refine List.any_eq_true.2 ⟨0x30, by simp [zeros], ?_⟩
  rw [Bool.and_eq_true, decide_eq_true_eq, decide_eq_true_eq]
  omega

/-- No ASCII digit is a blank. -/
lemma isBlank_of_isAsciiDigit {c : Char} (h : isAsciiDigit c = true) : isBlank c = false := by
  obtain ⟨hlow, hhigh⟩ := toNat_of_isAsciiDigit h
  simp only [isBlank, Bool.or_eq_false_iff, Bool.and_eq_false_iff, decide_eq_false_iff_not,
    beq_eq_false_iff_ne]
  omega

lemma isDigit_of_mem_decimal {n : Nat} {c : Char} (h : c ∈ decimal n) : isDigit c = true :=
  isDigit_of_isAsciiDigit (isAsciiDigit_of_mem_decimal h)

lemma digitsValue_decimal (n : Nat) : digitsValue (decimal n) = n :=
  Nat.ofDigitChars_toDigits (by omega) (by omega)

lemma exists_decimal_eq_cons (n : Nat) : ∃ c r, decimal n = c :: r ∧ isAsciiDigit c = true := by
  obtain ⟨c, r, hcons⟩ := List.exists_cons_of_ne_nil (decimal_ne_nil n)
  exact ⟨c, r, hcons, isAsciiDigit_of_mem_decimal (hcons ▸ List.mem_cons_self)⟩

/-- The digits of a number other than zero do not start with a zero. -/
lemma exists_decimal_eq_cons_of_pos {n : Nat} (h : 0 < n) :
    ∃ c r, decimal n = c :: r ∧ c ≠ '0' := by
  induction n using Nat.strongRecOn with
  | ind n ih =>
    by_cases hlt : n < 10
    · refine ⟨n.digitChar, [], Nat.toDigits_of_lt_base hlt, ?_⟩
      rw [Ne, Nat.digitChar_eq_zero]
      omega
    · obtain ⟨c, r, heq, hc⟩ := ih (n / 10) (by omega) (by omega)
      refine ⟨c, r ++ [(n % 10).digitChar], ?_, hc⟩
      rw [decimal] at heq ⊢
      rw [Nat.toDigits_of_base_le (by omega) (by omega), heq, List.cons_append]

/-! ## Digits with zeros in front -/

lemma digitsValue_append (l m : List Char) :
    digitsValue (l ++ m) = 10 ^ m.length * digitsValue l + digitsValue m := by
  have hsplit : Nat.ofDigitChars 10 (l ++ m) 0 =
      10 ^ m.length * Nat.ofDigitChars 10 l 0 + Nat.ofDigitChars 10 m 0 := by
    rw [Nat.ofDigitChars_append, Nat.ofDigitChars_eq_ofDigitChars_zero]
  exact hsplit

/-- Digits write a number that has no more of them. -/
lemma digitsValue_lt {digits : List Char} (h : ∀ c ∈ digits, isAsciiDigit c = true) :
    digitsValue digits < 10 ^ digits.length := by
  induction digits with
  | nil => decide
  | cons c r ih =>
    have hrest := ih fun d hd => h d (List.mem_cons_of_mem _ hd)
    have hfirst : digitsValue [c] ≤ 9 := by
      obtain ⟨hlow, hhigh⟩ := toNat_of_isAsciiDigit (h c List.mem_cons_self)
      change 10 * 0 + (c.toNat - 0x30) ≤ 9
      omega
    have hsplit : digitsValue (c :: r) = 10 ^ r.length * digitsValue [c] + digitsValue r :=
      digitsValue_append [c] r
    have hle : 10 ^ r.length * digitsValue [c] ≤ 10 ^ r.length * 9 :=
      Nat.mul_le_mul_left _ hfirst
    rw [hsplit, List.length_cons, Nat.pow_succ]
    omega

lemma digitsValue_replicate_zero (n : Nat) : digitsValue (List.replicate n '0') = 0 := by
  have hzeros : Nat.ofDigitChars 10 (List.replicate n '0') 0 = 10 ^ n * 0 :=
    Nat.ofDigitChars_replicate_zero
  exact hzeros

lemma digitsValue_decimalWide (width n : Nat) : digitsValue (decimalWide width n) = n := by
  rw [decimalWide, digitsValue_append, digitsValue_replicate_zero, digitsValue_decimal, Nat.mul_zero,
    Nat.zero_add]

lemma isAsciiDigit_of_mem_decimalWide {width n : Nat} {c : Char} (h : c ∈ decimalWide width n) :
    isAsciiDigit c = true := by
  rw [decimalWide, List.mem_append] at h
  rcases h with hzero | hdigit
  · rw [List.eq_of_mem_replicate hzero]
    decide
  · exact isAsciiDigit_of_mem_decimal hdigit

lemma decimalWide_ne_nil (width n : Nat) : decimalWide width n ≠ [] :=
  List.append_ne_nil_of_right_ne_nil _ (decimal_ne_nil n)

lemma exists_decimalWide_eq_cons (width n : Nat) :
    ∃ c r, decimalWide width n = c :: r ∧ isAsciiDigit c = true := by
  obtain ⟨c, r, hcons⟩ := List.exists_cons_of_ne_nil (decimalWide_ne_nil width n)
  exact ⟨c, r, hcons, isAsciiDigit_of_mem_decimalWide (hcons ▸ List.mem_cons_self)⟩

/-- A number with no more digits than the width is as wide. -/
lemma length_decimalWide {width n : Nat} (hwidth : 0 < width) (h : n < 10 ^ width) :
    (decimalWide width n).length = width := by
  have hle : (decimal n).length ≤ width := (Nat.length_toDigits_le_iff (by omega) hwidth).2 h
  rw [decimalWide, List.length_append, List.length_replicate]
  omega

/-! ## Hexadecimal digits -/

lemma hexValue?_hexDigit {n : Nat} (h : n < 16) : hexValue? (hexDigit n) = some n := by
  have hall : ∀ n < 16, hexValue? (hexDigit n) = some n := by decide
  exact hall n h

lemma hexValue?_toUpper_hexDigit {n : Nat} (h : n < 16) :
    hexValue? (hexDigit n).toUpper = some n := by
  have hall : ∀ n < 16, hexValue? (hexDigit n).toUpper = some n := by decide
  exact hall n h

/-! ## Reading -/

/-- A number below the limit is read back from its digits. -/
theorem readNat?_decimal {limit n : Nat} (h : n < limit) :
    readNat? limit (decimal n) = some n := by
  have hdigits : (decimal n).all isAsciiDigit = true :=
    List.all_eq_true.2 fun c hc => isAsciiDigit_of_mem_decimal hc
  rw [readNat?, digitsValue_decimal, if_pos ⟨decimal_ne_nil n, hdigits, h⟩]

/-- What is read as a number: ASCII digits, at least one, that write it. -/
theorem readNat?_eq_some_iff {limit n : Nat} {digits : List Char} :
    readNat? limit digits = some n ↔ digits ≠ [] ∧ (∀ c ∈ digits, isAsciiDigit c = true) ∧
      digitsValue digits = n ∧ n < limit := by
  unfold readNat?
  split
  · next hdigits =>
    obtain ⟨hne, hascii, hlt⟩ := hdigits
    rw [Option.some_inj]
    constructor
    · rintro rfl
      exact ⟨hne, List.all_eq_true.1 hascii, rfl, hlt⟩
    · exact fun h => h.2.2.1
  · next hdigits =>
    constructor
    · intro h
      cases h
    · rintro ⟨hne, hascii, rfl, hlt⟩
      exact absurd ⟨hne, List.all_eq_true.2 hascii, hlt⟩ hdigits

/-- A number that is read is below the limit. -/
lemma lt_of_readNat?_eq_some {limit n : Nat} {digits : List Char}
    (h : readNat? limit digits = some n) : n < limit :=
  (readNat?_eq_some_iff.1 h).2.2.2

end LinkedNotes.Text
