import LinkedNotes.Proofs.Text.Decimal
import LinkedNotes.Proofs.Text.Utf8
import LinkedNotes.Text.Percent

/-!
# Percent coding read back

Each byte is read back from its written form whatever follows it, so a text is read back from its
percent coding. The written form holds no line feed, so it stays on its line.
-/

namespace LinkedNotes.Text.Percent

/-- A plain byte is an ASCII character other than the percent sign and the line feed. -/
lemma of_isPlain {b : UInt8} (h : isPlain b = true) :
    String.utf8EncodeChar (Char.ofNat b.toNat) = [b] ∧ Char.ofNat b.toNat ≠ '%' ∧
      Char.ofNat b.toNat ≠ '\n' := by
  have hall : ∀ n < 256, isPlain (UInt8.ofNat n) = true →
      String.utf8EncodeChar (Char.ofNat n) = [UInt8.ofNat n] ∧ Char.ofNat n ≠ '%' ∧
        Char.ofNat n ≠ '\n' := by
    decide +kernel
  have hb := hall b.toNat b.toNat_lt
  rw [UInt8.ofNat_toNat] at hb
  exact hb h

lemma byte?_hexDigit (b : UInt8) :
    byte? (hexDigit (b.toNat / 16)).toUpper (hexDigit (b.toNat % 16)).toUpper = some b := by
  have hlt := b.toNat_lt
  have hb : 16 * (b.toNat / 16) + b.toNat % 16 = b.toNat := Nat.div_add_mod _ _
  simp only [byte?, hexValue?_toUpper_hexDigit (n := b.toNat / 16) (by omega),
    hexValue?_toUpper_hexDigit (n := b.toNat % 16) (by omega), hb, UInt8.ofNat_toNat]

/-- A character other than the percent sign stands for its own bytes. -/
lemma bytes_cons {c : Char} (h : c ≠ '%') (r : List Char) :
    bytes (c :: r) = String.utf8EncodeChar c ++ bytes r := by
  rw [bytes]
  rintro high low r' rfl
  exact absurd rfl h

/-- A byte is read back from its written form. -/
lemma bytes_encodeByte_append (b : UInt8) (r : List Char) :
    bytes (encodeByte b ++ r) = b :: bytes r := by
  unfold encodeByte
  split
  · next hplain =>
    obtain ⟨hbytes, hpercent, -⟩ := of_isPlain hplain
    rw [List.singleton_append, bytes_cons hpercent, hbytes, List.singleton_append]
  · simp only [List.cons_append, List.nil_append, bytes, byte?_hexDigit]

lemma bytes_encodeBytes (l : List UInt8) : bytes (l.flatMap encodeByte) = l := by
  induction l with
  | nil => rfl
  | cons b r ih => rw [List.flatMap_cons, bytes_encodeByte_append, ih]

/-- A text is read back from its written form. -/
theorem decode_encode (text : List Char) : decode (encode text) = .ok text := by
  rw [decode, encode, bytes_encodeBytes, Utf8.decode_encode]

lemma linefeed_notMem_encodeByte (b : UInt8) : '\n' ∉ encodeByte b := by
  have hlt := b.toNat_lt
  unfold encodeByte
  split
  · next hplain =>
    have hline := (of_isPlain hplain).2.2
    simpa using hline.symm
  · -- a line feed has no value as a digit
    have hne : ∀ n < 16, '\n' ≠ (hexDigit n).toUpper := by
      intro n hn heq
      have hvalue := hexValue?_toUpper_hexDigit hn
      rw [← heq] at hvalue
      cases hvalue
    simp [hne (b.toNat / 16) (by omega), hne (b.toNat % 16) (by omega)]

/-- The written form of a text stays on its line. -/
theorem linefeed_notMem_encode (text : List Char) : '\n' ∉ encode text := by
  rw [encode, List.mem_flatMap]
  rintro ⟨b, -, hb⟩
  exact linefeed_notMem_encodeByte b hb

end LinkedNotes.Text.Percent
