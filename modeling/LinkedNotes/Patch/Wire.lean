import LinkedNotes.Patch.Apply
import LinkedNotes.Text.Character
import LinkedNotes.Text.Collection
import LinkedNotes.Text.Percent

/-!
# The patch text format

A hunk is written as a header `@@ -a,b +c,d @@` and one line per segment: a sign (a blank for
kept, `-` for deleted, `+` for inserted text) and the segment's text in percent coding. `a,b`
are offset and length in the old text and `c,d` in the new one. An offset counts from one, except
that of an empty range, which counts from zero; a length of one is left out.

Reading skips empty lines and refuses everything else that is not of this form, a hunk whose
lengths are not those of its body included.
-/

namespace LinkedNotes.Patch

open Edit

/-! ## Writing -/

/-- Offset and length of a range. -/
def writeRange (start length : Nat) : List Char :=
  match length with
  | 0 => Text.decimal start ++ [',', '0']
  | 1 => Text.decimal (start + 1)
  | length => Text.decimal (start + 1) ++ ',' :: Text.decimal length

/-- The sign a segment's line starts with. -/
def signOf : Kind → Char
  | .equal => ' '
  | .delete => '-'
  | .insert => '+'

/-- The header line of a hunk. -/
def Hunk.header (h : Hunk) : List Char :=
  "@@ -".toList ++ writeRange h.oldStart h.oldLength ++ " +".toList ++
    writeRange h.newStart h.newLength ++ " @@".toList

/-- The line of a segment. -/
def writeSegment (s : Segment) : List Char := signOf s.kind :: Text.Percent.encode s.text

/-- The lines of a hunk. -/
def Hunk.lines (h : Hunk) : List (List Char) := h.header :: h.script.map writeSegment

/-- The text of a patch: each line is followed by a line feed. -/
def write (hunks : List Hunk) : List Char :=
  (hunks.flatMap Hunk.lines).flatMap fun line => line ++ ['\n']

/-! ## Reading -/

/-- The numbers of a range as written: the digits of the offset, and those of the length, of which
there may be none. -/
structure RangeText where
  start : List Char
  length : List Char

/-- What follows `front`, if the text starts with it. -/
def after? : List Char → List Char → Option (List Char)
  | [], text => some text
  | a :: front, c :: text => if a = c then after? front text else none
  | _ :: _, [] => none

/-- Read the digits of a range: at least one, then a comma that may be missing, then any number of
digits. The digits may be of any script here. -/
def readRange? (text : List Char) : Option (RangeText × List Char) :=
  let start := text.takeWhile Text.isDigit
  let rest := text.dropWhile Text.isDigit
  let rest := match rest with
    | ',' :: rest => rest
    | rest => rest
  if start.isEmpty then none
  else some (⟨start, rest.takeWhile Text.isDigit⟩, rest.dropWhile Text.isDigit)

/-- Read the ranges of a header line. -/
def readHeader? (line : List Char) : Option (RangeText × RangeText) := do
  let text ← after? "@@ -".toList line
  let (old, text) ← readRange? text
  let text ← after? " +".toList text
  let (new, text) ← readRange? text
  if text = " @@".toList then some (old, new) else none

/-- Offset and length of a range. Only a length written exactly `0` leaves the offset as it is. -/
def RangeText.value (range : RangeText) : Except Fault (Nat × Nat) :=
  match Text.readNat? Text.offsetLimit range.start with
  | none => .error (.offset range.start)
  | some start =>
    match range.length with
    | [] => .ok (start - 1, 1)
    | ['0'] => .ok (start, 0)
    | digits =>
      match Text.readNat? Text.offsetLimit digits with
      | none => .error (.length digits)
      | some length => .ok (start - 1, length)

/-- The kind of segment a sign announces. -/
def kindOf? : Char → Option Kind
  | ' ' => some .equal
  | '-' => some .delete
  | '+' => some .insert
  | _ => none

/-- Read a body line. -/
def readSegment : List Char → Except Fault Segment
  | [] => .ok ⟨.equal, []⟩
  | sign :: written =>
    match kindOf? sign with
    | none => .error (.sign sign (sign :: written))
    | some kind =>
      match Text.Percent.decode written with
      | .error fault => .error (.encoding fault)
      | .ok text => .ok ⟨kind, text⟩

/-- Read the lines of a body. -/
def readBody : List (List Char) → Except Fault (List Segment)
  | [] => .ok []
  | line :: r => do
    let s ← readSegment line
    let rest ← readBody r
    return s :: rest

/-- The hunk of a header and a body, if the lengths agree. -/
def readHunk (number : Nat) (header : List Char) (body : List (List Char)) :
    Except Fault Hunk := do
  let some (old, new) := readHeader? header | .error (.header header)
  let (oldStart, oldLength) ← old.value
  let (newStart, newLength) ← new.value
  let script ← readBody body
  let sourceLength := (source script).length
  let targetLength := (target script).length
  if sourceLength = oldLength ∧ targetLength = newLength then
    return ⟨oldStart, oldLength, newStart, newLength, script⟩
  else .error (.lengths number oldLength newLength sourceLength targetLength)

/-- A line that starts a hunk, and so ends the body of the one before. -/
def isMark (line : List Char) : Bool := line.head? == some '@'

/-- Read the hunks from the given number on, from lines that are not empty. -/
def readHunks (number : Nat) (lines : List (List Char)) : Except Fault (List Hunk) :=
  match lines with
  | [] => .ok []
  | header :: r => do
    let hunk ← readHunk number header (r.takeWhile fun line => !isMark line)
    let rest ← readHunks (number + 1) (r.dropWhile fun line => !isMark line)
    return hunk :: rest
  termination_by lines.length
  decreasing_by
    have h := (List.dropWhile_sublist (fun line => !isMark line) (l := r)).length_le
    simp only [List.length_cons]
    omega

/-- The hunks of a patch text. -/
def read (text : List Char) : Except Fault (List Hunk) := readHunks 1 (Text.fullLines text)

/-- Apply a patch text to a text. -/
def apply (text patch : List Char) : Except Fault (List Char) := do
  applyHunks text (← read patch)

end LinkedNotes.Patch
