import LinkedNotes.Proofs.Patch.Wire

/-!
# The patch text format loses nothing

A patch text may spell its numbers in ways that are never written, and may hold empty lines and
literal characters that would be written in percent coding. But whatever is read can be written
(`isWritable_of_read`), and what can be written is read back as it is. So hunks pass through their
text unchanged, and a text that is read and written again has become one that stays.
-/

namespace LinkedNotes.Patch

open Edit

/-- If one step after another yields a value, the first one does, and the other from there. -/
lemma bind_eq_ok_iff {ε α β : Type} {x : Except ε α} {f : α → Except ε β} {b : β} :
    x >>= f = .ok b ↔ ∃ a, x = .ok a ∧ f a = .ok b := by
  cases x with
  | error e => simp [bind, Except.bind]
  | ok a => simp [bind, Except.bind]

/-- A range that is read can be written: its offset counted from one is the one that was read, or
one if that was zero. -/
lemma fits_of_value {range : RangeText} {start length : Nat}
    (h : range.value = .ok (start, length)) : RangeFits start length := by
  unfold RangeText.value at h
  have hone : 0 + 1 < Text.offsetLimit := by decide
  cases hread : Text.readNat? Text.offsetLimit range.start with
  | none =>
    rw [hread] at h
    cases h
  | some n =>
    have hn := Text.lt_of_readNat?_eq_some hread
    rw [hread] at h
    dsimp only at h
    split at h
    · cases h
      exact .of_lt (by omega) hone
    · -- the length is written as zero, and then the offset is taken as it is
      cases h
      exact ⟨hn, by omega⟩
    · split at h
      · cases h
      · next hlength =>
        cases h
        exact .of_lt (by omega) (Text.lt_of_readNat?_eq_some hlength)

/-- What makes up a hunk that is read. -/
theorem readHunk_eq_ok_iff {number : Nat} {header : List Char} {body : List (List Char)}
    {h : Hunk} : readHunk number header body = .ok h ↔
      ∃ old new, readHeader? header = some (old, new) ∧
        old.value = .ok (h.oldStart, h.oldLength) ∧ new.value = .ok (h.newStart, h.newLength) ∧
        readBody body = .ok h.script ∧
        h.source.length = h.oldLength ∧ h.target.length = h.newLength := by
  unfold readHunk
  cases hheader : readHeader? header with
  | none => simp
  | some ranges =>
    obtain ⟨old, new⟩ := ranges
    simp only [bind_eq_ok_iff, Option.some.injEq, Prod.mk.injEq]
    constructor
    · rintro ⟨⟨oldStart, oldLength⟩, hold, ⟨newStart, newLength⟩, hnew, script, hbody, hlengths⟩
      dsimp only at hlengths
      split at hlengths
      · next hsame =>
        cases hlengths
        exact ⟨old, new, ⟨rfl, rfl⟩, hold, hnew, hbody, hsame.1, hsame.2⟩
      · cases hlengths
    · rintro ⟨_, _, ⟨rfl, rfl⟩, hold, hnew, hbody, hsource, htarget⟩
      exact ⟨_, hold, _, hnew, _, hbody, if_pos ⟨hsource, htarget⟩⟩

/-- A hunk that is read can be written. -/
lemma isWritable_of_readHunk {number : Nat} {header : List Char} {body : List (List Char)}
    {h : Hunk} (hread : readHunk number header body = .ok h) : h.IsWritable := by
  obtain ⟨old, new, -, hold, hnew, -, hsource, htarget⟩ := readHunk_eq_ok_iff.1 hread
  exact ⟨hsource.symm, htarget.symm, fits_of_value hold, fits_of_value hnew⟩

/-- Hunks that are read from lines can be written. -/
lemma isWritable_of_readHunks (lines : List (List Char)) {number : Nat} {hunks : List Hunk}
    (hread : readHunks number lines = .ok hunks) : ∀ h ∈ hunks, h.IsWritable := by
  induction number, lines using readHunks.induct generalizing hunks with
  | case1 number =>
    rw [readHunks] at hread
    cases hread
    exact fun h hmem => absurd hmem List.not_mem_nil
  | case2 number header rest ih =>
    rw [readHunks] at hread
    obtain ⟨first, hfirst, hread⟩ := bind_eq_ok_iff.1 hread
    obtain ⟨others, hothers, hread⟩ := bind_eq_ok_iff.1 hread
    cases hread
    intro h hmem
    rcases List.mem_cons.1 hmem with rfl | hmem
    · exact isWritable_of_readHunk hfirst
    · exact ih hothers h hmem

/-- Hunks that are read from a text can be written. -/
theorem isWritable_of_read {text : List Char} {hunks : List Hunk}
    (hread : read text = .ok hunks) : ∀ h ∈ hunks, h.IsWritable :=
  isWritable_of_readHunks _ hread

/-- The lengths of a hunk are those of its script, and have 64 bits. -/
structure Hunk.IsMeasured (h : Hunk) : Prop where
  oldLength_eq : h.oldLength = h.source.length
  newLength_eq : h.newLength = h.target.length
  oldLength_lt : h.oldLength < Text.offsetLimit
  newLength_lt : h.newLength < Text.offsetLimit

lemma Hunk.IsMeasured.isWritable {h : Hunk} (hm : h.IsMeasured)
    (hold : h.oldStart + 1 < Text.offsetLimit) (hnew : h.newStart + 1 < Text.offsetLimit) :
    h.IsWritable :=
  ⟨hm.oldLength_eq, hm.newLength_eq, .of_lt hold hm.oldLength_lt, .of_lt hnew hm.newLength_lt⟩

/-- Hunks are read back from their text, and whatever is read from a text, however it is spelled,
can be written and is read back from what is written. -/
theorem lossless_read_write :
    (∀ hunks : List Hunk,
      (∀ h ∈ hunks, h.IsMeasured ∧ h.oldStart + 1 < Text.offsetLimit ∧
        h.newStart + 1 < Text.offsetLimit) → read (write hunks) = .ok hunks) ∧
    ∀ (text : List Char) (hunks : List Hunk), read text = .ok hunks →
      (∀ h ∈ hunks, h.IsWritable) ∧ read (write hunks) = .ok hunks := by
  constructor
  · intro hunks hmeasured
    apply read_write
    intro h hmem
    obtain ⟨hm, hold, hnew⟩ := hmeasured h hmem
    exact hm.isWritable hold hnew
  · intro text hunks hread
    have hwritable := isWritable_of_read hread
    exact ⟨hwritable, read_write hwritable⟩

/-- Hunks with empty segments, one of them without any text at the greatest offset that counts. -/
def unusual : List Hunk :=
  [⟨3, 1, 3, 2, [⟨.delete, ['%']⟩, ⟨.insert, []⟩, ⟨.insert, ['é', '\n']⟩]⟩,
    ⟨18446744073709551614, 0, 7, 0, []⟩, ⟨0, 0, 0, 0, [⟨.equal, []⟩]⟩]

/-- Numbers with zeros in front, an empty line, a character that is not in percent coding, and an
offset that would have no 64 bits if it were counted from one. -/
def loose : List Char :=
  "@@ -18446744073709551615,0 +01,001 @@\n\n+é\n@@ -0,00 +5,0 @@\n ".toList

/-- What the loose text is read as. -/
def tight : List Hunk :=
  [⟨18446744073709551615, 0, 0, 1, [⟨.insert, ['é']⟩]⟩, ⟨0, 0, 5, 0, [⟨.equal, []⟩]⟩]

theorem read_write_unusual_and_loose :
    (∀ h ∈ unusual, h.IsMeasured ∧ h.oldStart + 1 < Text.offsetLimit ∧
        h.newStart + 1 < Text.offsetLimit) ∧
      read (write unusual) = .ok unusual ∧ read loose = .ok tight ∧
      (∀ h ∈ tight, h.IsWritable) ∧ read (write tight) = .ok tight := by
  have hmeasured : ∀ h ∈ unusual, h.IsMeasured ∧ h.oldStart + 1 < Text.offsetLimit ∧
      h.newStart + 1 < Text.offsetLimit := by
    intro h hmem
    simp only [unusual, List.mem_cons, List.not_mem_nil, or_false] at hmem
    rcases hmem with rfl | rfl | rfl <;>
      exact ⟨⟨by decide, by decide, by decide, by decide⟩, by decide, by decide⟩
  have hloose : read loose = .ok tight := by decide +kernel
  obtain ⟨hwritten, hread⟩ := lossless_read_write
  exact ⟨hmeasured, hwritten unusual hmeasured, hloose, hread loose tight hloose⟩

end LinkedNotes.Patch
