import LinkedNotes.Fault
import LinkedNotes.Proofs.Patch.Lossless
import Mathlib.Data.List.Forall2
import Mathlib.Data.List.TakeWhile

/-!
# The grammar of patch texts

Which rows of lines are a patch, and of which hunks, is told without the reader: a patch is hunks
one after another (`PatchForm`), a hunk a header and body lines (`HunkForm`), a header two ranges
(`RangeForm`), a body line a sign and a text in percent coding (`SegmentForm`). A text is read as
hunks if the lines in it that hold something are a patch of them, and only then
(`read_eq_ok_iff`).
-/

namespace LinkedNotes.Patch

open Edit

/-! ## Forms -/

/-- A number of 64 bits in ASCII digits, with or without zeros in front. -/
structure Numeral (digits : List Char) (n : Nat) : Prop where
  ne_nil : digits ≠ []
  ascii : ∀ c ∈ digits, Text.isAsciiDigit c = true
  value_eq : Text.digitsValue digits = n
  lt : n < Text.offsetLimit

/-- A range as it may be written, and the offset and the length it stands for. -/
inductive RangeForm : List Char → Nat → Nat → Prop where
  /-- A length of one is left out. -/
  | single {a : List Char} {n : Nat} : Numeral a n → RangeForm a (n - 1) 1
  /-- A length of one may be left out behind the comma too. -/
  | comma {a : List Char} {n : Nat} : Numeral a n → RangeForm (a ++ [',']) (n - 1) 1
  /-- The offset of a range without characters counts from zero. -/
  | empty {a : List Char} {n : Nat} : Numeral a n → RangeForm (a ++ [',', '0']) n 0
  /-- Any other offset counts from one. -/
  | counted {a b : List Char} {n k : Nat} :
    Numeral a n → Numeral b k → b ≠ ['0'] → RangeForm (a ++ ',' :: b) (n - 1) k

/-- A body line: the sign of a segment, and what percent coding and UTF-8 make of its text. -/
def SegmentForm (line : List Char) (s : Segment) : Prop :=
  ∃ written, line = signOf s.kind :: written ∧ Text.Percent.bytes written = Text.Utf8.encode s.text

/-- The lines of a hunk: a header with the ranges of what the body keeps or deletes and of what it
keeps or inserts, and the body. -/
inductive HunkForm : List (List Char) → Hunk → Prop where
  | intro {old new : List Char} {body : List (List Char)} {h : Hunk} :
    RangeForm old h.oldStart h.oldLength → RangeForm new h.newStart h.newLength →
    List.Forall₂ SegmentForm body h.script →
    h.source.length = h.oldLength → h.target.length = h.newLength →
    HunkForm (("@@ -".toList ++ old ++ " +".toList ++ new ++ " @@".toList) :: body) h

/-- The lines of a patch: those of its hunks. -/
inductive PatchForm : List (List Char) → List Hunk → Prop where
  | nil : PatchForm [] []
  | cons {lines rest : List (List Char)} {h : Hunk} {hunks : List Hunk} :
    HunkForm lines h → PatchForm rest hunks → PatchForm (lines ++ rest) (h :: hunks)

/-- Two patches one after the other are a patch. -/
lemma PatchForm.append {lines lines' : List (List Char)} {hunks hunks' : List Hunk}
    (hform : PatchForm lines hunks) (hform' : PatchForm lines' hunks') :
    PatchForm (lines ++ lines') (hunks ++ hunks') := by
  induction hform with
  | nil => exact hform'
  | cons hhunk _ ih =>
    rw [List.append_assoc]
    exact .cons hhunk ih

/-! ## Ranges -/

lemma numeral_iff {digits : List Char} {n : Nat} :
    Numeral digits n ↔ Text.readNat? Text.offsetLimit digits = some n := by
  rw [Text.readNat?_eq_some_iff]
  exact ⟨fun h => ⟨h.ne_nil, h.ascii, h.value_eq, h.lt⟩,
    fun ⟨hne, hascii, hvalue, hlt⟩ => ⟨hne, hascii, hvalue, hlt⟩⟩

lemma Numeral.isDigit {digits : List Char} {n : Nat} (h : Numeral digits n) :
    ∀ c ∈ digits, Text.isDigit c = true :=
  fun c hc => Text.isDigit_of_isAsciiDigit (h.ascii c hc)

/-- The digits of a range are those of a text: a comma is written if there are any of a length. -/
def RangeText.IsSpelled (range : RangeText) (chars : List Char) : Prop :=
  chars = range.start ∧ range.length = [] ∨ chars = range.start ++ ',' :: range.length

/-- What is read of a range is the text up to the rest. -/
lemma of_readRange? {text rest : List Char} {range : RangeText}
    (h : readRange? text = some (range, rest)) :
    ∃ chars, text = chars ++ rest ∧ range.IsSpelled chars := by
  have hfirst : text.takeWhile Text.isDigit ++ text.dropWhile Text.isDigit = text :=
    List.takeWhile_append_dropWhile
  simp only [readRange?] at h
  split at h
  · cases h
  · cases h
    split
    · next tail hcomma =>
      rw [hcomma] at hfirst
      refine ⟨_ ++ ',' :: tail.takeWhile Text.isDigit, ?_, .inr rfl⟩
      rw [List.append_assoc, List.cons_append, List.takeWhile_append_dropWhile, hfirst]
    · -- what follows the first digits is no digit, so there are none of a length
      have hnone : (text.dropWhile Text.isDigit).takeWhile Text.isDigit = [] := by
        rw [List.takeWhile_eq_nil_iff]
        exact List.dropWhile_get_zero_not Text.isDigit text
      have hall : (text.dropWhile Text.isDigit).takeWhile Text.isDigit ++
          (text.dropWhile Text.isDigit).dropWhile Text.isDigit = text.dropWhile Text.isDigit :=
        List.takeWhile_append_dropWhile
      rw [hnone, List.nil_append] at hall
      exact ⟨text.takeWhile Text.isDigit, by rw [hall, hfirst], .inl ⟨rfl, hnone⟩⟩

/-- A range that is read and has values is of the form that stands for these. -/
lemma RangeText.IsSpelled.rangeForm {range : RangeText} {chars : List Char} {start length : Nat}
    (hspelled : range.IsSpelled chars) (hvalue : range.value = .ok (start, length)) :
    RangeForm chars start length := by
  obtain ⟨a, b⟩ := range
  unfold RangeText.value at hvalue
  split at hvalue
  · cases hvalue
  next n hstart =>
  have hn : Numeral a n := numeral_iff.2 hstart
  split at hvalue
  · next hb =>
    cases hvalue
    obtain ⟨rfl, -⟩ | rfl := hspelled
    · exact .single hn
    · rw [hb]
      exact .comma hn
  · next hb =>
    cases hvalue
    obtain ⟨-, hnil⟩ | rfl := hspelled
    · rw [hnil] at hb
      cases hb
    · rw [hb]
      exact .empty hn
  · next hnil hzero =>
    split at hvalue
    · cases hvalue
    · next k hlength =>
      cases hvalue
      obtain ⟨-, hb⟩ | rfl := hspelled
      · exact absurd hb hnil
      · exact .counted hn (numeral_iff.2 hlength) hzero

/-- A range of the form is read up to a blank, and has the values it stands for. -/
lemma RangeForm.exists_readRange? {chars : List Char} {start length : Nat}
    (h : RangeForm chars start length) :
    ∃ range : RangeText, (∀ rest, readRange? (chars ++ ' ' :: rest) = some (range, ' ' :: rest)) ∧
      range.value = .ok (start, length) := by
  cases h with
  | single hn =>
    refine ⟨_, readRange?_single hn.ne_nil hn.isDigit, ?_⟩
    simp only [RangeText.value, numeral_iff.1 hn]
  | comma hn =>
    refine ⟨_, readRange?_pair hn.ne_nil hn.isDigit (by simp), ?_⟩
    simp only [RangeText.value, numeral_iff.1 hn]
  | empty hn =>
    refine ⟨_, readRange?_pair hn.ne_nil hn.isDigit fun c hc => ?_, ?_⟩
    · rw [List.mem_singleton.1 hc]
      rfl
    · simp only [RangeText.value, numeral_iff.1 hn]
  | counted hn hk hzero =>
    refine ⟨_, readRange?_pair hn.ne_nil hn.isDigit hk.isDigit, ?_⟩
    simp only [RangeText.value, numeral_iff.1 hn]
    split
    · exact absurd rfl hk.ne_nil
    · exact absurd rfl hzero
    · rw [numeral_iff.1 hk]

/-! ## Headers -/

lemma append_of_after? {front text rest : List Char} (h : after? front text = some rest) :
    text = front ++ rest := by
  induction front generalizing text with
  | nil => exact Option.some.inj h
  | cons c front ih =>
    cases text with
    | nil => cases h
    | cons d text =>
      rw [after?] at h
      split at h
      · next hc => rw [hc, List.cons_append, ih h]
      · cases h

/-- A header that is read is made of the two ranges that are read. -/
lemma of_readHeader? {line : List Char} {range range' : RangeText}
    (h : readHeader? line = some (range, range')) :
    ∃ old new, line = "@@ -".toList ++ old ++ " +".toList ++ new ++ " @@".toList ∧
      range.IsSpelled old ∧ range'.IsSpelled new := by
  simp only [readHeader?, Option.bind_eq_bind, Option.bind_eq_some_iff] at h
  obtain ⟨text, hfront, ⟨first, text₁⟩, hold, text₂, hplus, ⟨second, text₃⟩, hnew, hend⟩ := h
  split at hend
  · next hclose =>
    cases hend
    obtain ⟨old, hold, hspelled⟩ := of_readRange? hold
    obtain ⟨new, hnew, hspelled'⟩ := of_readRange? hnew
    refine ⟨old, new, ?_, hspelled, hspelled'⟩
    dsimp only at hplus hclose
    rw [append_of_after? hfront, hold, append_of_after? hplus, hnew, hclose]
    simp only [List.append_assoc]
  · cases hend

/-! ## Bodies -/

lemma kindOf?_eq_some_iff {sign : Char} {kind : Kind} :
    kindOf? sign = some kind ↔ sign = signOf kind := by
  constructor
  · intro h
    unfold kindOf? at h
    split at h <;> cases h <;> rfl
  · rintro rfl
    cases kind <;> rfl

/-- A line that holds something is read as a segment if it is a body line of that segment. -/
lemma readSegment_eq_ok_iff {line : List Char} {s : Segment} (hne : line ≠ []) :
    readSegment line = .ok s ↔ SegmentForm line s := by
  obtain ⟨sign, written, rfl⟩ := List.exists_cons_of_ne_nil hne
  obtain ⟨kind, text⟩ := s
  have hdecode : Text.Percent.decode written = .ok text ↔
      Text.Percent.bytes written = Text.Utf8.encode text := Text.Utf8.decode_eq_ok_iff
  simp only [SegmentForm, List.cons.injEq, readSegment]
  constructor
  · intro h
    split at h
    · cases h
    next hkind =>
    split at h
    · cases h
    · next htext =>
      cases h
      exact ⟨written, ⟨kindOf?_eq_some_iff.1 hkind, rfl⟩, hdecode.1 htext⟩
  · rintro ⟨_, ⟨hsign, rfl⟩, hbytes⟩
    simp only [kindOf?_eq_some_iff.2 hsign, hdecode.2 hbytes]

/-- Lines that hold something are read as a script if they are the body lines of its segments. -/
lemma readBody_eq_ok_iff {body : List (List Char)} (hne : ∀ line ∈ body, line ≠ [])
    {script : List Segment} :
    readBody body = .ok script ↔ List.Forall₂ SegmentForm body script := by
  induction body generalizing script with
  | nil =>
    rw [readBody, List.forall₂_nil_left_iff]
    exact ⟨fun h => (Except.ok.inj h).symm, fun h => h ▸ rfl⟩
  | cons line r ih =>
    have hline (s : Segment) := readSegment_eq_ok_iff (s := s) (hne line List.mem_cons_self)
    have hrest {rest : List Segment} : readBody r = .ok rest ↔ List.Forall₂ SegmentForm r rest :=
      ih fun other hother => hne other (List.mem_cons_of_mem line hother)
    simp only [readBody, bind_eq_ok_iff, List.forall₂_cons_left_iff]
    constructor
    · rintro ⟨s, hs, rest, hr, h⟩
      cases h
      exact ⟨s, rest, (hline s).1 hs, hrest.1 hr, rfl⟩
    · rintro ⟨s, rest, hs, hr, rfl⟩
      exact ⟨s, (hline s).2 hs, rest, hrest.2 hr, rfl⟩

/-! ## Hunks -/

/-- A header and lines that hold something are read as a hunk if they are the lines of one. -/
theorem readHunk_eq_ok_iff_hunkForm {number : Nat} {header : List Char} {body : List (List Char)}
    (hne : ∀ line ∈ body, line ≠ []) {h : Hunk} :
    readHunk number header body = .ok h ↔ HunkForm (header :: body) h := by
  rw [readHunk_eq_ok_iff, readBody_eq_ok_iff hne]
  constructor
  · rintro ⟨old, new, hheader, hold, hnew, hbody, hsource, htarget⟩
    obtain ⟨oldChars, newChars, rfl, hspelled, hspelled'⟩ := of_readHeader? hheader
    exact .intro (hspelled.rangeForm hold) (hspelled'.rangeForm hnew) hbody hsource htarget
  · rintro ⟨hold, hnew, hbody, hsource, htarget⟩
    obtain ⟨old, hread, hvalue⟩ := hold.exists_readRange?
    obtain ⟨new, hread', hvalue'⟩ := hnew.exists_readRange?
    exact ⟨old, new, readHeader?_append hread hread', hvalue, hvalue', hbody, hsource, htarget⟩

lemma SegmentForm.isMark_eq {line : List Char} {s : Segment} (h : SegmentForm line s) :
    isMark line = false := by
  obtain ⟨written, rfl, -⟩ := h
  obtain ⟨kind, text⟩ := s
  cases kind <;> rfl

lemma isMark_of_forall₂ {body : List (List Char)} {script : List Segment}
    (h : List.Forall₂ SegmentForm body script) : ∀ line ∈ body, isMark line = false := by
  induction h with
  | nil => simp
  | cons hline _ ih => exact List.forall_mem_cons.2 ⟨hline.isMark_eq, ih⟩

/-- The first line of a patch starts a hunk. -/
lemma PatchForm.isMark_head {lines : List (List Char)} {hunks : List Hunk}
    (h : PatchForm lines hunks) : ∀ line ∈ lines.head?, isMark line = true := by
  cases h with
  | nil => simp
  | cons hhunk _ =>
    cases hhunk
    intro line hline
    cases hline
    rfl

/-- Lines that hold something are read as hunks if they are a patch of them. A line that starts with
`@` ends a body, and no body line does, so the body that is read is the one in the patch. -/
theorem readHunks_eq_ok_iff {number : Nat} {lines : List (List Char)}
    (hne : ∀ line ∈ lines, line ≠ []) {hunks : List Hunk} :
    readHunks number lines = .ok hunks ↔ PatchForm lines hunks := by
  constructor
  · intro hread
    induction number, lines using readHunks.induct generalizing hunks with
    | case1 number =>
      rw [readHunks] at hread
      cases hread
      exact .nil
    | case2 number header rest ih =>
      rw [readHunks] at hread
      obtain ⟨first, hfirst, hread⟩ := bind_eq_ok_iff.1 hread
      obtain ⟨others, hothers, hread⟩ := bind_eq_ok_iff.1 hread
      cases hread
      have hbody : ∀ line ∈ rest.takeWhile (fun line => !isMark line), line ≠ [] := fun line h =>
        hne line (List.mem_cons_of_mem _ (List.takeWhile_subset _ h))
      have hafter : ∀ line ∈ rest.dropWhile (fun line => !isMark line), line ≠ [] := fun line h =>
        hne line (List.mem_cons_of_mem _ (List.dropWhile_subset _ h))
      have hform := PatchForm.cons ((readHunk_eq_ok_iff_hunkForm hbody).1 hfirst)
        (ih hafter hothers)
      rwa [List.cons_append, List.takeWhile_append_dropWhile] at hform
  · intro hform
    induction hform generalizing number with
    | nil => rw [readHunks]
    | cons hhunk hpatch ih =>
      have hhunk' := hhunk
      obtain ⟨-, -, hbody, -, -⟩ := hhunk'
      rw [List.forall_mem_append] at hne
      obtain ⟨hfirst, hrest⟩ := hne
      rw [readHunks_append number _ (isMark_of_forall₂ hbody) hpatch.isMark_head,
        (readHunk_eq_ok_iff_hunkForm (List.forall_mem_cons.1 hfirst).2).2 hhunk, ih hrest]
      rfl

/-! ## Patch texts -/

/-- A text is read as hunks if the lines that hold something are a patch of them, and only then. -/
theorem read_eq_ok_iff {text : List Char} {hunks : List Hunk} :
    read text = .ok hunks ↔ PatchForm (Text.fullLines text) hunks :=
  readHunks_eq_ok_iff fun _ => Text.ne_nil_of_mem_fullLines

/-- The lines of a text that hold something decide what it is read as: the hunks of the patch they
are, and a refusal of the patch if they are none. So texts that are read can be put one after the
other. -/
theorem read_of_fullLines (text : List Char) :
    (∀ hunks, read text = .ok hunks ↔ PatchForm (Text.fullLines text) hunks) ∧
    ((¬∃ hunks, PatchForm (Text.fullLines text) hunks) →
      ∃ reason, (read text).mapError LinkedNotes.Fault.ofPatch = .error (.patchApply reason)) ∧
    (∀ text', Text.fullLines text' = Text.fullLines text → read text' = read text) ∧
    ∀ text' hunks hunks', read text = .ok hunks → read text' = .ok hunks' →
      read (text ++ '\n' :: text') = .ok (hunks ++ hunks') := by
  refine ⟨fun hunks => read_eq_ok_iff, fun hnone => ?_, fun text' hlines => ?_,
    fun text' hunks hunks' hread hread' => ?_⟩
  · cases hread : read text with
    | ok hunks => exact absurd ⟨hunks, read_eq_ok_iff.1 hread⟩ hnone
    | error fault => exact ⟨fault.message, rfl⟩
  · rw [read, read, hlines]
  · rw [read_eq_ok_iff, Text.fullLines_append]
    exact (read_eq_ok_iff.1 hread).append (read_eq_ok_iff.1 hread')

/-- A header that ends in a comma, and an empty line within the body. -/
def spaced : List Char := "@@ -1 +01, @@\n-a\n\n+b".toList

/-- The second header starts on a body line of the first hunk. -/
def glued : List Char := "@@ -1 +1 @@\n-a\n+b@@ -1 +1 @@\n-a\n+b".toList

theorem read_spaced_loose_and_glued :
    PatchForm (Text.fullLines loose) tight ∧
      read (spaced ++ '\n' :: loose) =
        .ok (⟨0, 1, 0, 1, [⟨.delete, ['a']⟩, ⟨.insert, ['b']⟩]⟩ :: tight) ∧
      (¬∃ hunks, PatchForm (Text.fullLines glued) hunks) ∧
      ∃ reason, (read glued).mapError LinkedNotes.Fault.ofPatch = .error (.patchApply reason) := by
  have hloose : read loose = .ok tight := by decide +kernel
  have hspaced : read spaced =
      .ok [⟨0, 1, 0, 1, [⟨.delete, ['a']⟩, ⟨.insert, ['b']⟩]⟩] := by decide +kernel
  have hglued : read glued = .error (.lengths 1 1 1 2 13) := by decide +kernel
  obtain ⟨-, -, -, happend⟩ := read_of_fullLines spaced
  obtain ⟨hform, hrefused, -⟩ := read_of_fullLines glued
  have hnone : ¬∃ hunks, PatchForm (Text.fullLines glued) hunks := by
    rintro ⟨hunks, hhunks⟩
    have hread := (hform hunks).2 hhunks
    rw [hglued] at hread
    cases hread
  exact ⟨(read_of_fullLines loose).1 tight |>.1 hloose, happend loose _ _ hspaced hloose, hnone,
    hrefused hnone⟩

end LinkedNotes.Patch
