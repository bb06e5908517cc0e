import LinkedNotes.Text.Utf8
import Mathlib.Tactic.IntervalCases
import Mathlib.Tactic.Lemma

/-!
# UTF-8 read back

The bytes of a text are read back as the text, and bytes that can be read are those of the text
that is read. A first byte says how many others follow and which bits they are appended to; the
bounds on the second byte hold because a character is written with as few bytes as it can be and is
no surrogate.
-/

namespace LinkedNotes.Text.Utf8

/-! ## Bytes -/

lemma lead?_two {n : Nat} (h : 0xc2 ≤ n) (h' : n ≤ 0xdf) :
    lead? (UInt8.ofNat n) = some ⟨1, n - 0xc0, 0x80, 0xbf⟩ := by
  interval_cases n <;> rfl

lemma lead?_three {n : Nat} (h : 0xe0 ≤ n) (h' : n ≤ 0xef) :
    lead? (UInt8.ofNat n) = some ⟨2, n - 0xe0, if n = 0xe0 then 0xa0 else 0x80,
      if n = 0xed then 0x9f else 0xbf⟩ := by
  interval_cases n <;> rfl

lemma lead?_four {n : Nat} (h : 0xf0 ≤ n) (h' : n ≤ 0xf4) :
    lead? (UInt8.ofNat n) = some ⟨3, n - 0xf0, if n = 0xf0 then 0x90 else 0x80,
      if n = 0xf4 then 0x8f else 0xbf⟩ := by
  interval_cases n <;> rfl

lemma toNat_ofNat {n : Nat} (h : n < 0x100) : (UInt8.ofNat n).toNat = n :=
  UInt8.toNat_ofNat_of_lt' h

/-- A byte from `0x80` on is no character of its own. -/
lemma not_lt_ofNat {n : Nat} (h : 0x80 ≤ n) (h' : n < 0x100) : ¬UInt8.ofNat n < 0x80 := by
  rw [UInt8.lt_iff_toNat_lt, toNat_ofNat h']
  exact Nat.not_lt.2 h

/-- The byte that continues a character with the low six bits of a number. -/
def continuation (n : Nat) : UInt8 := UInt8.ofNat (n % 64 + 0x80)

lemma toNat_continuation (n : Nat) : (continuation n).toNat = n % 64 + 0x80 :=
  toNat_ofNat (by omega)

lemma isContinuation_continuation (n : Nat) : isContinuation (continuation n) = true := by
  rw [isContinuation, Bool.and_eq_true, decide_eq_true_eq, decide_eq_true_eq,
    UInt8.le_iff_toNat_le, UInt8.le_iff_toNat_le, toNat_continuation]
  have hlow : (0x80 : UInt8).toNat = 0x80 := rfl
  have hhigh : (0xbf : UInt8).toNat = 0xbf := rfl
  omega

lemma extend_continuation (bits n : Nat) :
    extend bits (continuation n) = 64 * bits + n % 64 := by
  unfold extend
  rw [toNat_continuation]
  omega

/-- A continuation keeps to the bounds that a first byte sets. -/
lemma not_outside {n : Nat} (low high : UInt8) (h : low.toNat ≤ n % 64 + 0x80)
    (h' : n % 64 + 0x80 ≤ high.toNat) :
    ¬(continuation n < low ∨ high < continuation n) := by
  rw [UInt8.lt_iff_toNat_lt, UInt8.lt_iff_toNat_lt, toNat_continuation]
  omega

/-! ## Characters -/

section Character

variable {v : Nat} (index : Nat) (rest : List UInt8)

lemma decodeFrom_one (h : v ≤ 0x7f) :
    decodeFrom index (UInt8.ofNat v :: rest) =
      (Char.ofNat v :: ·) <$> decodeFrom (index + 1) rest := by
  have hlt : UInt8.ofNat v < 0x80 := by
    rw [UInt8.lt_iff_toNat_lt, toNat_ofNat (by omega)]
    exact Nat.lt_succ_of_le h
  rw [decodeFrom, if_pos hlt, toNat_ofNat (by omega)]

lemma decodeFrom_two (h : 0x80 ≤ v) (h' : v ≤ 0x7ff) :
    decodeFrom index (UInt8.ofNat (v / 64 % 32 + 0xc0) :: continuation v :: rest) =
      (Char.ofNat v :: ·) <$> decodeFrom (index + 2) rest := by
  have hbits : 64 * (v / 64 % 32) + v % 64 = v := by omega
  have hbounds := not_outside (n := v) 0x80 0xbf (show 0x80 ≤ _ by omega)
    (show _ ≤ 0xbf by omega)
  rw [decodeFrom, if_neg (not_lt_ofNat (by omega) (by omega)), lead?_two (by omega) (by omega)]
  simp only [if_neg hbounds, extend_continuation, Nat.add_sub_cancel, hbits, if_true]

lemma decodeFrom_three (h : 0x800 ≤ v) (h' : v ≤ 0xffff) (hsurrogate : v < 0xd800 ∨ 0xdfff < v) :
    decodeFrom index (UInt8.ofNat (v / 4096 % 16 + 0xe0) :: continuation (v / 64) ::
        continuation v :: rest) =
      (Char.ofNat v :: ·) <$> decodeFrom (index + 3) rest := by
  have hbits : 64 * (64 * (v / 4096 % 16) + v / 64 % 64) + v % 64 = v := by omega
  have hbounds := not_outside (n := v / 64)
    (if v / 4096 % 16 + 0xe0 = 0xe0 then 0xa0 else 0x80)
    (if v / 4096 % 16 + 0xe0 = 0xed then 0x9f else 0xbf)
    (by split <;> simp only [UInt8.reduceToNat] <;> omega)
    (by split <;> simp only [UInt8.reduceToNat] <;> omega)
  rw [decodeFrom, if_neg (not_lt_ofNat (by omega) (by omega)), lead?_three (by omega) (by omega)]
  simp only [if_neg hbounds, extend_continuation, isContinuation_continuation,
    Nat.add_sub_cancel, hbits]
  simp

lemma decodeFrom_four (h : 0x10000 ≤ v) (h' : v < 0x110000) :
    decodeFrom index (UInt8.ofNat (v / 262144 % 8 + 0xf0) :: continuation (v / 4096) ::
        continuation (v / 64) :: continuation v :: rest) =
      (Char.ofNat v :: ·) <$> decodeFrom (index + 4) rest := by
  have hbits : 64 * (64 * (64 * (v / 262144 % 8) + v / 4096 % 64) + v / 64 % 64) + v % 64 = v := by
    omega
  have hbounds := not_outside (n := v / 4096)
    (if v / 262144 % 8 + 0xf0 = 0xf0 then 0x90 else 0x80)
    (if v / 262144 % 8 + 0xf0 = 0xf4 then 0x8f else 0xbf)
    (by split <;> simp only [UInt8.reduceToNat] <;> omega)
    (by split <;> simp only [UInt8.reduceToNat] <;> omega)
  rw [decodeFrom, if_neg (not_lt_ofNat (by omega) (by omega)), lead?_four (by omega) (by omega)]
  simp only [if_neg hbounds, extend_continuation, isContinuation_continuation,
    Nat.add_sub_cancel, hbits]
  simp

end Character

/-- A character's number is no surrogate and lies in the code space. -/
lemma toNat_bounds (c : Char) : c.toNat < 0xd800 ∨ 0xdfff < c.toNat ∧ c.toNat < 0x110000 :=
  c.valid

section Bytes

variable {c : Char}

lemma encodeChar_one (h : c.toNat ≤ 0x7f) :
    String.utf8EncodeChar c = [UInt8.ofNat c.toNat] :=
  if_pos h

lemma encodeChar_two (h : 0x80 ≤ c.toNat) (h' : c.toNat ≤ 0x7ff) :
    String.utf8EncodeChar c =
      [UInt8.ofNat (c.toNat / 64 % 32 + 0xc0), continuation c.toNat] :=
  (if_neg (show ¬c.toNat ≤ 0x7f by omega)).trans (if_pos h')

lemma encodeChar_three (h : 0x800 ≤ c.toNat) (h' : c.toNat ≤ 0xffff) :
    String.utf8EncodeChar c = [UInt8.ofNat (c.toNat / 4096 % 16 + 0xe0),
      continuation (c.toNat / 64), continuation c.toNat] :=
  (if_neg (show ¬c.toNat ≤ 0x7f by omega)).trans
    ((if_neg (show ¬c.toNat ≤ 0x7ff by omega)).trans (if_pos h'))

lemma encodeChar_four (h : 0x10000 ≤ c.toNat) :
    String.utf8EncodeChar c = [UInt8.ofNat (c.toNat / 262144 % 8 + 0xf0),
      continuation (c.toNat / 4096), continuation (c.toNat / 64), continuation c.toNat] :=
  (if_neg (show ¬c.toNat ≤ 0x7f by omega)).trans
    ((if_neg (show ¬c.toNat ≤ 0x7ff by omega)).trans
      (if_neg (show ¬c.toNat ≤ 0xffff by omega)))

end Bytes

/-- The first character is read from its bytes. -/
lemma decodeFrom_append (index : Nat) (c : Char) (rest : List UInt8) :
    decodeFrom index (String.utf8EncodeChar c ++ rest) =
      (c :: ·) <$> decodeFrom (index + c.utf8Size) rest := by
  have hbounds := toNat_bounds c
  have hchar : Char.ofNat c.toNat = c := Char.ofNat_toNat c
  rw [← String.length_utf8EncodeChar]
  by_cases h1 : c.toNat ≤ 0x7f
  · rw [encodeChar_one h1, List.singleton_append, decodeFrom_one index rest h1, hchar]
    rfl
  by_cases h2 : c.toNat ≤ 0x7ff
  · rw [encodeChar_two (by omega) h2, List.cons_append, List.singleton_append,
      decodeFrom_two index rest (by omega) h2, hchar]
    rfl
  by_cases h3 : c.toNat ≤ 0xffff
  · rw [encodeChar_three (by omega) h3, List.cons_append, List.cons_append,
      List.singleton_append, decodeFrom_three index rest (by omega) h3 (by omega), hchar]
    rfl
  · rw [encodeChar_four (by omega), List.cons_append, List.cons_append, List.cons_append,
      List.singleton_append, decodeFrom_four index rest (by omega) (by omega), hchar]
    rfl

lemma decodeFrom_encode (index : Nat) (text : List Char) :
    decodeFrom index (encode text) = .ok text := by
  induction text generalizing index with
  | nil => rfl
  | cons c r ih =>
    have hcons : encode (c :: r) = String.utf8EncodeChar c ++ encode r := List.flatMap_cons
    rw [hcons, decodeFrom_append, ih]
    rfl

/-- The bytes of a text are read back as the text. -/
theorem decode_encode (text : List Char) : decode (encode text) = .ok text :=
  decodeFrom_encode 0 text

/-! ## Bytes that can be read -/

/-- A number that is no surrogate and lies in the code space is that of a character. -/
lemma toNat_char {v : Nat} (h : v < 0xd800 ∨ 0xdfff < v ∧ v < 0x110000) :
    (Char.ofNat v).toNat = v := by
  have hvalid : v.isValidChar := h
  rw [Char.ofNat, dif_pos hvalid]
  rfl

lemma bounds_of_not_outside {b low high : UInt8} (h : ¬(b < low ∨ high < b)) :
    low.toNat ≤ b.toNat ∧ b.toNat ≤ high.toNat := by
  rw [UInt8.lt_iff_toNat_lt, UInt8.lt_iff_toNat_lt] at h
  omega

lemma bounds_of_isContinuation {b : UInt8} (h : isContinuation b = true) :
    0x80 ≤ b.toNat ∧ b.toNat ≤ 0xbf := by
  rw [isContinuation, Bool.and_eq_true, decide_eq_true_eq, decide_eq_true_eq,
    UInt8.le_iff_toNat_le, UInt8.le_iff_toNat_le] at h
  exact h

/-- The first bytes of characters of several bytes, by how many others follow. -/
lemma of_lead? {b : UInt8} {lead : Lead} (h : lead? b = some lead) :
    (0xc2 ≤ b.toNat ∧ b.toNat ≤ 0xdf ∧ lead = ⟨1, b.toNat - 0xc0, 0x80, 0xbf⟩) ∨
    (0xe0 ≤ b.toNat ∧ b.toNat ≤ 0xef ∧ lead = ⟨2, b.toNat - 0xe0,
      if b.toNat = 0xe0 then 0xa0 else 0x80, if b.toNat = 0xed then 0x9f else 0xbf⟩) ∨
    (0xf0 ≤ b.toNat ∧ b.toNat ≤ 0xf4 ∧ lead = ⟨3, b.toNat - 0xf0,
      if b.toNat = 0xf0 then 0x90 else 0x80, if b.toNat = 0xf4 then 0x8f else 0xbf⟩) := by
  have hnone : ∀ n < 256, n < 0xc2 ∨ 0xf4 < n → (lead? (UInt8.ofNat n)).isNone := by
    decide +kernel
  have hb : UInt8.ofNat b.toNat = b := UInt8.ofNat_toNat
  rw [← hb] at h
  by_cases houtside : b.toNat < 0xc2 ∨ 0xf4 < b.toNat
  · have hnot := hnone b.toNat b.toNat_lt houtside
    rw [h] at hnot
    cases hnot
  by_cases h2 : b.toNat ≤ 0xdf
  · rw [lead?_two (by omega) h2] at h
    exact .inl ⟨by omega, h2, (Option.some.inj h).symm⟩
  by_cases h3 : b.toNat ≤ 0xef
  · rw [lead?_three (by omega) h3] at h
    exact .inr (.inl ⟨by omega, h3, (Option.some.inj h).symm⟩)
  · rw [lead?_four (by omega) (by omega)] at h
    exact .inr (.inr ⟨by omega, by omega, (Option.some.inj h).symm⟩)

lemma ofNat_eq {b : UInt8} {n : Nat} (h : n = b.toNat) : UInt8.ofNat n = b := by
  rw [h, UInt8.ofNat_toNat]

section Read

variable {b b₁ b₂ b₃ : UInt8} {lead : Lead}

lemma encodeChar_of_one (h : b < 0x80) : String.utf8EncodeChar (Char.ofNat b.toNat) = [b] := by
  have hlt : b.toNat < 0x80 := UInt8.lt_iff_toNat_lt.1 h
  have hv := toNat_char (v := b.toNat) (by omega)
  rw [encodeChar_one (by omega), hv, UInt8.ofNat_toNat]

lemma encodeChar_of_two (hlead : lead? b = some lead) (hone : lead.following = 1)
    (h₁ : ¬(b₁ < lead.low ∨ lead.high < b₁)) :
    String.utf8EncodeChar (Char.ofNat (extend lead.bits b₁)) = [b, b₁] := by
  obtain ⟨hlow, hhigh, rfl⟩ | ⟨-, -, rfl⟩ | ⟨-, -, rfl⟩ := of_lead? hlead
  · have hb₁ := bounds_of_not_outside h₁
    simp only [UInt8.reduceToNat] at hb₁
    generalize hbits : extend (b.toNat - 0xc0) b₁ = v
    have hvalue : v = 64 * (b.toNat - 0xc0) + (b₁.toNat - 0x80) := hbits.symm
    have hv := toNat_char (v := v) (by omega)
    rw [encodeChar_two (c := Char.ofNat v) (by omega) (by omega), hv,
      continuation, ofNat_eq (b := b) (by omega), ofNat_eq (b := b₁) (by omega)]
  · cases hone
  · cases hone

lemma encodeChar_of_three (hlead : lead? b = some lead) (htwo : lead.following = 2)
    (h₁ : ¬(b₁ < lead.low ∨ lead.high < b₁)) (h₂ : isContinuation b₂ = true) :
    String.utf8EncodeChar (Char.ofNat (extend (extend lead.bits b₁) b₂)) = [b, b₁, b₂] := by
  obtain ⟨-, -, rfl⟩ | ⟨hlow, hhigh, rfl⟩ | ⟨-, -, rfl⟩ := of_lead? hlead
  · cases htwo
  · have hb₁ := bounds_of_not_outside h₁
    have hb₂ := bounds_of_isContinuation h₂
    have hbounds : 0x80 ≤ b₁.toNat ∧ b₁.toNat ≤ 0xbf ∧ (b.toNat = 0xe0 → 0xa0 ≤ b₁.toNat) ∧
        (b.toNat = 0xed → b₁.toNat ≤ 0x9f) := by
      split at hb₁ <;> split at hb₁ <;> simp only [UInt8.reduceToNat] at hb₁ <;> omega
    generalize hbits : extend (extend (b.toNat - 0xe0) b₁) b₂ = v
    have hvalue : v = 64 * (64 * (b.toNat - 0xe0) + (b₁.toNat - 0x80)) + (b₂.toNat - 0x80) :=
      hbits.symm
    have hv := toNat_char (v := v) (by omega)
    rw [encodeChar_three (c := Char.ofNat v) (by omega) (by omega), hv,
      continuation, continuation, ofNat_eq (b := b) (by omega),
      ofNat_eq (b := b₁) (by omega), ofNat_eq (b := b₂) (by omega)]
  · cases htwo

lemma encodeChar_of_four (hlead : lead? b = some lead) (hone : lead.following ≠ 1)
    (htwo : lead.following ≠ 2) (h₁ : ¬(b₁ < lead.low ∨ lead.high < b₁))
    (h₂ : isContinuation b₂ = true) (h₃ : isContinuation b₃ = true) :
    String.utf8EncodeChar (Char.ofNat (extend (extend (extend lead.bits b₁) b₂) b₃)) =
      [b, b₁, b₂, b₃] := by
  obtain ⟨-, -, rfl⟩ | ⟨-, -, rfl⟩ | ⟨hlow, hhigh, rfl⟩ := of_lead? hlead
  · exact absurd rfl hone
  · exact absurd rfl htwo
  · have hb₁ := bounds_of_not_outside h₁
    have hb₂ := bounds_of_isContinuation h₂
    have hb₃ := bounds_of_isContinuation h₃
    have hbounds : 0x80 ≤ b₁.toNat ∧ b₁.toNat ≤ 0xbf ∧ (b.toNat = 0xf0 → 0x90 ≤ b₁.toNat) ∧
        (b.toNat = 0xf4 → b₁.toNat ≤ 0x8f) := by
      split at hb₁ <;> split at hb₁ <;> simp only [UInt8.reduceToNat] at hb₁ <;> omega
    generalize hbits : extend (extend (extend (b.toNat - 0xf0) b₁) b₂) b₃ = v
    have hvalue : v = 64 * (64 * (64 * (b.toNat - 0xf0) + (b₁.toNat - 0x80)) +
        (b₂.toNat - 0x80)) + (b₃.toNat - 0x80) := hbits.symm
    have hv := toNat_char (v := v) (by omega)
    rw [encodeChar_four (c := Char.ofNat v) (by omega), hv,
      continuation, continuation, continuation, ofNat_eq (b := b) (by omega),
      ofNat_eq (b := b₁) (by omega), ofNat_eq (b := b₂) (by omega),
      ofNat_eq (b := b₃) (by omega)]

end Read

/-- What is read with a character in front is that character and what is read of the rest. -/
lemma exists_of_map_cons {c : Char} {read : Except Fault (List Char)} {text : List Char}
    (h : (c :: ·) <$> read = .ok text) : ∃ rest, read = .ok rest ∧ text = c :: rest := by
  cases read with
  | error fault => cases h
  | ok rest => exact ⟨rest, rfl, (Except.ok.inj h).symm⟩

lemma eq_encode_of_decodeFrom {index : Nat} {bytes : List UInt8} {text : List Char}
    (h : decodeFrom index bytes = .ok text) : bytes = encode text := by
  have hcons (c : Char) (rest : List Char) :
      encode (c :: rest) = String.utf8EncodeChar c ++ encode rest := List.flatMap_cons
  fun_induction decodeFrom index bytes generalizing text with
  | case1 =>
    cases h
    rfl
  | case2 index b r hone ih =>
    obtain ⟨rest, hrest, rfl⟩ := exists_of_map_cons h
    rw [hcons, encodeChar_of_one hone, ← ih hrest]
    rfl
  | case6 index b _ lead hlead b₁ r bits h₁ hone =>
    rename_i ih
    obtain ⟨rest, hrest, rfl⟩ := exists_of_map_cons h
    rw [hcons, encodeChar_of_two hlead hone h₁, ← ih hrest]
    rfl
  | case9 index b _ lead hlead b₁ bits h₁ _ b₂ r bits' h₂ =>
    rename_i htwo ih
    obtain ⟨rest, hrest, rfl⟩ := exists_of_map_cons h
    rw [hcons, encodeChar_of_three hlead htwo h₁ (by simpa using h₂), ← ih hrest]
    rfl
  | case12 index b _ lead hlead b₁ bits h₁ hone b₂ bits' h₂ htwo b₃ r =>
    rename_i h₃ ih
    obtain ⟨rest, hrest, rfl⟩ := exists_of_map_cons h
    rw [hcons, encodeChar_of_four hlead hone htwo h₁ (by simpa using h₂) (by simpa using h₃),
      ← ih hrest]
    rfl
  | case3 | case4 | case5 | case7 | case8 | case10 | case11 => cases h

/-- Bytes are read as a text if they are its bytes, and only then. -/
theorem decode_eq_ok_iff {bytes : List UInt8} {text : List Char} :
    decode bytes = .ok text ↔ bytes = encode text :=
  ⟨eq_encode_of_decodeFrom, fun h => h ▸ decode_encode text⟩

end LinkedNotes.Text.Utf8
