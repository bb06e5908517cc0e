import LinkedNotes.Identifier
import LinkedNotes.Proofs.Text.Decimal
import Mathlib.Algebra.Ring.Nat
import Mathlib.Tactic.Lemma
import Mathlib.Tactic.Ring

/-!
# Identifiers read back

The usual spelling of an identifier is read back as that identifier. It starts with a digit, so none
of the other spellings is taken for it, and its groups put together are all the digits.
-/

namespace LinkedNotes.Identifier

open Text (hexDigit)

/-! ## Digits -/

/-- A digit starts none of the other spellings. -/
lemma hexDigit_starts_digits {n : Nat} (h : n < 16) :
    hexDigit n ≠ '\x7b' ∧ (hexDigit n).toLower ≠ 'u' := by
  have hall : ∀ n < 16, hexDigit n ≠ '\x7b' ∧ (hexDigit n).toLower ≠ 'u' := by decide
  exact hall n h

lemma length_digits (n count : Nat) : (digits n count).length = count := by
  induction count generalizing n with
  | zero => rfl
  | succ count ih => rw [digits, List.length_append, ih, List.length_singleton]

lemma exists_digits_eq_cons (n count : Nat) :
    ∃ m r, m < 16 ∧ digits n (count + 1) = hexDigit m :: r := by
  induction count generalizing n with
  | zero => exact ⟨n % 16, [], Nat.mod_lt _ (by decide), rfl⟩
  | succ count ih =>
    obtain ⟨m, r, hm, hcons⟩ := ih (n / 16)
    exact ⟨m, r ++ [hexDigit (n % 16)], hm, by rw [digits, hcons, List.cons_append]⟩

lemma value?_append {n m : Nat} {all rest : List Char} (h : value? n all = some m) :
    value? n (all ++ rest) = value? m rest := by
  induction all generalizing n with
  | nil =>
    rw [value?, Option.some.injEq] at h
    rw [List.nil_append, h]
  | cons c r ih =>
    rw [value?] at h
    rw [List.cons_append, value?]
    split at h
    · exact absurd h (Option.some_ne_none m).symm
    · exact ih h

/-- Digits are read on from a number: it moves up by as many places, and they fill these. -/
lemma value?_digits (start n count : Nat) :
    value? start (digits n count) = some (start * 16 ^ count + n % 16 ^ count) := by
  induction count generalizing n with
  | zero => simp [digits, value?, Nat.mod_one]
  | succ count ih =>
    have hlast : n % 16 < 16 := Nat.mod_lt _ (by decide)
    have hsplit : n % 16 ^ (count + 1) = n % 16 + 16 * (n / 16 % 16 ^ count) := by
      rw [Nat.pow_succ', Nat.mod_mul]
    rw [digits, value?_append (ih (n / 16)), value?, Text.hexValue?_hexDigit hlast, hsplit]
    simp only [value?, Option.some.injEq]
    ring

/-! ## Groups -/

/-- Five groups of digits with hyphens between are read as the digits. -/
lemma ofGroups?_groups {a b c d e : List Char} (ha : a.length = 8) (hb : b.length = 4)
    (hc : c.length = 4) (hd : d.length = 4) (he : e.length = 12) :
    ofGroups? (a ++ '-' :: b ++ '-' :: c ++ '-' :: d ++ '-' :: e) =
      ofDigits? (a ++ b ++ c ++ d ++ e) := by
  unfold ofGroups?
  simp [List.take_append, List.drop_append, List.take_of_length_le, List.drop_eq_nil_of_le, ha, hb,
    hc, hd, he]

/-- The five groups of 32 digits are read as the digits. -/
lemma ofGroups?_hyphenate {all : List Char} (h : all.length = 32) :
    ofGroups? (hyphenate all) = ofDigits? all := by
  have hgroup : ∀ start stop, stop ≤ 32 → ((all.take stop).drop start).length = stop - start := by
    intro start stop hstop
    rw [List.length_drop, List.length_take, h, Nat.min_eq_left hstop]
  have hjoin : (all.take 8).drop 0 ++ (all.take 12).drop 8 ++ (all.take 16).drop 12 ++
      (all.take 20).drop 16 ++ (all.take 32).drop 20 = all := by
    simp only [List.drop_take, List.drop_zero]
    rw [← List.take_add, ← List.take_add, ← List.take_add, ← List.take_add]
    exact List.take_of_length_le (Nat.le_of_eq h)
  unfold hyphenate
  dsimp only
  rw [ofGroups?_groups (hgroup 0 8 (by decide)) (hgroup 8 12 (by decide)) (hgroup 12 16 (by decide))
    (hgroup 16 20 (by decide)) (hgroup 20 32 (by decide)), hjoin]

/-- An identifier is read back from its usual spelling. -/
theorem ofSpelling?_spell (id : Identifier) : ofSpelling? id.spell = some id := by
  have hlength := length_digits id.toNat 32
  have hgroups : ofGroups? id.spell = some id := by
    have hlt : id.toNat < 16 ^ 32 := id.bits.isLt
    rw [spell, ofGroups?_hyphenate hlength, ofDigits?, if_pos hlength, value?_digits, Nat.zero_mul,
      Nat.zero_add, Nat.mod_eq_of_lt hlt]
    simp [ofNat, toNat]
  have hlong : id.spell.length ≠ 32 := by
    simp [spell, hyphenate, hlength]
  obtain ⟨n, r, hn, hcons⟩ := exists_digits_eq_cons id.toNat 31
  obtain ⟨hbrace, hletter⟩ := hexDigit_starts_digits hn
  have hspell : ∃ rest, id.spell = hexDigit n :: rest := by
    rw [spell, hcons]
    exact ⟨_, rfl⟩
  obtain ⟨rest, hspell⟩ := hspell
  rw [hspell] at hgroups hlong ⊢
  have hspace : ((hexDigit n :: rest).take nameSpace.length).map Char.toLower ≠ nameSpace :=
    fun heq => hletter (List.cons.inj heq).1
  unfold ofSpelling?
  split
  · next heq => exact absurd (List.cons.inj heq).1 hbrace
  · rw [if_neg hspace, if_neg hlong, hgroups]

end LinkedNotes.Identifier
