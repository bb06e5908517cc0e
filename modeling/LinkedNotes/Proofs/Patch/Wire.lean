import LinkedNotes.Patch.Wire
import LinkedNotes.Proofs.Text.Decimal
import LinkedNotes.Proofs.Text.Line
import LinkedNotes.Proofs.Text.Percent

/-!
# The patch text format read back

Each part of a patch text is read back from its written form: ranges, headers, body lines, hunks.
A hunk can be written if the lengths in it are those of its script and the numbers that are written
have 64 bits (`IsWritable`). Hunks that can be written are read back from their text.
-/

namespace LinkedNotes.Patch

open Edit

/-- The offset of a range as it is written, counted from one unless the range is empty. -/
def writtenStart (start length : Nat) : Nat := if length = 0 then start else start + 1

/-- What is written of a range has 64 bits. -/
structure RangeFits (start length : Nat) : Prop where
  start_lt : writtenStart start length < Text.offsetLimit
  length_lt : length < Text.offsetLimit

/-- The lengths are those of the script, and what is written of the numbers has 64 bits. -/
structure Hunk.IsWritable (h : Hunk) : Prop where
  oldLength_eq : h.oldLength = h.source.length
  newLength_eq : h.newLength = h.target.length
  old_fits : RangeFits h.oldStart h.oldLength
  new_fits : RangeFits h.newStart h.newLength

/-! ## Ranges -/

/-- An offset that has 64 bits when it is counted from one can be written in any case. -/
lemma RangeFits.of_lt {start length : Nat} (hstart : start + 1 < Text.offsetLimit)
    (hlength : length < Text.offsetLimit) : RangeFits start length := by
  refine ⟨?_, hlength⟩
  unfold writtenStart
  split <;> omega

/-- The digits that `writeRange` writes. -/
def RangeText.of (start length : Nat) : RangeText :=
  match length with
  | 0 => ⟨Text.decimal start, ['0']⟩
  | 1 => ⟨Text.decimal (start + 1), []⟩
  | length => ⟨Text.decimal (start + 1), Text.decimal length⟩

/-- Digits are read up to what is no digit. -/
lemma takeWhile_isDigit (digits : List Char) (h : ∀ c ∈ digits, Text.isDigit c = true)
    (c : Char) (hc : Text.isDigit c = false) (rest : List Char) :
    (digits ++ c :: rest).takeWhile Text.isDigit = digits ∧
      (digits ++ c :: rest).dropWhile Text.isDigit = c :: rest := by
  constructor
  · rw [List.takeWhile_append_of_pos h, List.takeWhile_cons_of_neg (by simp [hc]),
      List.append_nil]
  · rw [List.dropWhile_append_of_pos h, List.dropWhile_cons_of_neg (by simp [hc])]

section Range

variable {start : List Char}

/-- A range of two numbers is read up to a blank. -/
lemma readRange?_pair {digits : List Char} (hne : start ≠ [])
    (hstart : ∀ c ∈ start, Text.isDigit c = true) (h : ∀ c ∈ digits, Text.isDigit c = true)
    (rest : List Char) :
    readRange? (start ++ ',' :: digits ++ ' ' :: rest) = some (⟨start, digits⟩, ' ' :: rest) := by
  have hfirst := takeWhile_isDigit start hstart ',' (by decide) (digits ++ ' ' :: rest)
  have hsecond := takeWhile_isDigit digits h ' ' (by decide) rest
  have hempty : start.isEmpty = false := by simpa using hne
  rw [List.append_assoc, List.cons_append]
  simp only [readRange?, hfirst, hsecond, hempty, Bool.false_eq_true, if_false]

/-- A range of one number is read up to a blank. -/
lemma readRange?_single (hne : start ≠ []) (hstart : ∀ c ∈ start, Text.isDigit c = true)
    (rest : List Char) :
    readRange? (start ++ ' ' :: rest) = some (⟨start, []⟩, ' ' :: rest) := by
  have hfirst := takeWhile_isDigit start hstart ' ' (by decide) rest
  have hblank := takeWhile_isDigit [] (by simp) ' ' (by decide) rest
  have hempty : start.isEmpty = false := by simpa using hne
  rw [List.nil_append] at hblank
  simp only [readRange?, hfirst, hempty, Bool.false_eq_true, if_false]
  show some (RangeText.mk start ((' ' :: rest).takeWhile Text.isDigit),
    (' ' :: rest).dropWhile Text.isDigit) = _
  rw [hblank.1, hblank.2]

/-- A range is read up to a blank. -/
lemma readRange?_writeRange (start length : Nat) (rest : List Char) :
    readRange? (writeRange start length ++ ' ' :: rest) =
      some (RangeText.of start length, ' ' :: rest) := by
  have hne (n : Nat) := Text.decimal_ne_nil n
  have hdigits (n : Nat) : ∀ c ∈ Text.decimal n, Text.isDigit c = true :=
    fun c hc => Text.isDigit_of_mem_decimal hc
  match length with
  | 0 =>
    refine readRange?_pair (hne _) (hdigits _) (fun c hc => ?_) rest
    rw [List.mem_singleton.1 hc]
    rfl
  | 1 => exact readRange?_single (hne _) (hdigits _) rest
  | length + 2 => exact readRange?_pair (hne _) (hdigits _) (hdigits _) rest

/-- The digits of a range have the values they were written for. -/
lemma value_rangeText {start length : Nat} (hfits : RangeFits start length) :
    (RangeText.of start length).value = .ok (start, length) := by
  match length with
  | 0 =>
    have hstart : start < Text.offsetLimit := hfits.start_lt
    simp only [RangeText.of, RangeText.value, Text.readNat?_decimal hstart]
  | 1 =>
    have hstart : start + 1 < Text.offsetLimit := hfits.start_lt
    simp only [RangeText.of, RangeText.value, Text.readNat?_decimal hstart, Nat.add_sub_cancel]
  | length + 2 =>
    have hstart : start + 1 < Text.offsetLimit := hfits.start_lt
    -- the digits of a length from two on are neither missing nor a zero
    have hvalue := Text.digitsValue_decimal (length + 2)
    have hread := Text.readNat?_decimal hfits.length_lt
    simp only [RangeText.of, RangeText.value, Text.readNat?_decimal hstart]
    split
    · next h => rw [h] at hvalue; cases hvalue
    · next h => rw [h] at hvalue; cases hvalue
    · rw [hread, Nat.add_sub_cancel]

end Range

/-! ## Headers -/

lemma after?_append (front text : List Char) : after? front (front ++ text) = some text := by
  induction front with
  | nil => rfl
  | cons c front ih => rw [List.cons_append, after?, if_pos rfl, ih]

/-- A header is read as its two ranges, however they are written. -/
theorem readHeader?_append {old new : List Char} {range range' : RangeText}
    (hold : ∀ rest, readRange? (old ++ ' ' :: rest) = some (range, ' ' :: rest))
    (hnew : ∀ rest, readRange? (new ++ ' ' :: rest) = some (range', ' ' :: rest)) :
    readHeader? ("@@ -".toList ++ old ++ " +".toList ++ new ++ " @@".toList) =
      some (range, range') := by
  have hshape : "@@ -".toList ++ old ++ " +".toList ++ new ++ " @@".toList =
      "@@ -".toList ++ (old ++ ' ' :: ("+".toList ++ (new ++ ' ' :: "@@".toList))) := by
    simp
  have hplus : ' ' :: ("+".toList ++ (new ++ ' ' :: "@@".toList)) =
      " +".toList ++ (new ++ ' ' :: "@@".toList) := by
    simp
  rw [readHeader?, hshape, after?_append]
  simp only [Option.bind_eq_bind, Option.bind_some]
  rw [hold, Option.bind_some, hplus, after?_append, Option.bind_some, hnew, Option.bind_some]
  rfl

/-- A header is read back as its two ranges. -/
theorem readHeader?_header (h : Hunk) :
    readHeader? h.header = some (RangeText.of h.oldStart h.oldLength,
      RangeText.of h.newStart h.newLength) :=
  readHeader?_append (readRange?_writeRange _ _) (readRange?_writeRange _ _)

/-! ## Bodies -/

/-- A segment is read back from its line. -/
lemma readSegment_writeSegment (s : Segment) : readSegment (writeSegment s) = .ok s := by
  obtain ⟨kind, text⟩ := s
  have hkind : kindOf? (signOf kind) = some kind := by cases kind <;> rfl
  simp only [writeSegment, readSegment, hkind, Text.Percent.decode_encode]

/-- A script is read back from its lines. -/
lemma readBody_map_writeSegment (script : List Segment) :
    readBody (script.map writeSegment) = .ok script := by
  induction script with
  | nil => rfl
  | cons s r ih => rw [List.map_cons, readBody, readSegment_writeSegment, ih]; rfl

/-- A hunk that can be written is read back from its lines. -/
theorem readHunk_lines {h : Hunk} (hw : h.IsWritable) (number : Nat) :
    readHunk number h.header (h.script.map writeSegment) = .ok h := by
  have hold := value_rangeText hw.old_fits
  have hnew := value_rangeText hw.new_fits
  have hlengths : (source h.script).length = h.oldLength ∧ (target h.script).length = h.newLength :=
    ⟨hw.oldLength_eq.symm, hw.newLength_eq.symm⟩
  simp only [readHunk, readHeader?_header, hold, hnew, readBody_map_writeSegment]
  exact if_pos hlengths

/-! ## Patch texts -/

lemma isMark_header (h : Hunk) : isMark h.header = true := rfl

/-- A body line starts no hunk. -/
lemma isMark_writeSegment (s : Segment) : isMark (writeSegment s) = false := by
  obtain ⟨kind, text⟩ := s
  cases kind <;> rfl

/-- The body of a hunk goes on until the header of the next one. -/
lemma readHunks_append (number : Nat) (header : List Char) {body rest : List (List Char)}
    (hbody : ∀ line ∈ body, isMark line = false) (hrest : ∀ line ∈ rest.head?, isMark line = true) :
    readHunks number (header :: body ++ rest) = (do
      let hunk ← readHunk number header body
      let hunks ← readHunks (number + 1) rest
      return hunk :: hunks) := by
  have hpass : ∀ line ∈ body, (!isMark line) = true := by simpa using hbody
  have hstop : rest.takeWhile (fun line => !isMark line) = [] ∧
      rest.dropWhile (fun line => !isMark line) = rest := by
    cases rest with
    | nil => exact ⟨rfl, rfl⟩
    | cons line others => simp [hrest line rfl]
  rw [List.cons_append, readHunks, List.takeWhile_append_of_pos hpass,
    List.dropWhile_append_of_pos hpass, hstop.1, hstop.2, List.append_nil]

/-- Hunks that can be written are read back from their lines. -/
theorem readHunks_lines {hunks : List Hunk} (hw : ∀ h ∈ hunks, h.IsWritable) (number : Nat) :
    readHunks number (hunks.flatMap Hunk.lines) = .ok hunks := by
  induction hunks generalizing number with
  | nil => rw [List.flatMap_nil, readHunks]
  | cons h r ih =>
    have hbody : ∀ line ∈ h.script.map writeSegment, isMark line = false := by
      intro line hline
      obtain ⟨s, -, rfl⟩ := List.mem_map.1 hline
      exact isMark_writeSegment s
    have hrest : ∀ line ∈ (r.flatMap Hunk.lines).head?, isMark line = true := by
      cases r with
      | nil => simp
      | cons other r => simp [Hunk.lines, isMark_header]
    rw [List.flatMap_cons, Hunk.lines, readHunks_append number h.header hbody hrest,
      readHunk_lines (hw h (by simp)), ih (fun other hother => hw other (by simp [hother]))]
    rfl

lemma linefeed_notMem_decimal (n : Nat) : '\n' ∉ Text.decimal n := by
  intro h
  exact absurd (Text.isDigit_of_mem_decimal h) (by decide)

lemma linefeed_notMem_writeRange (start length : Nat) : '\n' ∉ writeRange start length := by
  unfold writeRange
  split <;> simp [linefeed_notMem_decimal]

/-- A line of a hunk holds something, and no line feed. -/
lemma line_of_mem_lines {h : Hunk} {line : List Char} (hline : line ∈ h.lines) :
    line ≠ [] ∧ '\n' ∉ line := by
  rcases List.mem_cons.1 hline with rfl | hbody
  · simp [Hunk.header, linefeed_notMem_writeRange]
  · obtain ⟨s, -, rfl⟩ := List.mem_map.1 hbody
    obtain ⟨kind, text⟩ := s
    cases kind <;> simp [writeSegment, signOf, Text.Percent.linefeed_notMem_encode]

/-- Hunks that can be written are read back from their text. -/
theorem read_write {hunks : List Hunk} (hw : ∀ h ∈ hunks, h.IsWritable) :
    read (write hunks) = .ok hunks := by
  have hlines : Text.fullLines (write hunks) = hunks.flatMap Hunk.lines := by
    refine Text.fullLines_flatMap fun line hline => ?_
    obtain ⟨h, -, hline⟩ := List.mem_flatMap.1 hline
    exact line_of_mem_lines hline
  rw [read, hlines, readHunks_lines hw]

end LinkedNotes.Patch
