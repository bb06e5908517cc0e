import LinkedNotes.Edit.Diff
import LinkedNotes.Text.Place

/-!
# Hunks

A hunk is a stretch of an edit script with the offsets where it belongs. `hunksOf` cuts a script
into hunks, with enough kept text around each that it can be found again in a text that has
changed meanwhile.

The offsets of a hunk count in the text with all earlier hunks applied, so applying the hunks in
turn finds each at its own offset.
-/

namespace LinkedNotes.Patch

open Edit

/-- A located stretch of an edit script. -/
structure Hunk where
  oldStart : Nat := 0
  oldLength : Nat := 0
  newStart : Nat := 0
  newLength : Nat := 0
  script : List Segment := []
  deriving DecidableEq, Repr

namespace Hunk

/-- The text a hunk expects to find. -/
def source (h : Hunk) : List Char := Edit.source h.script

/-- The text a hunk leaves behind. -/
def target (h : Hunk) : List Char := Edit.target h.script

end Hunk

/-- How many characters of kept text a hunk gains at a time, on either side. -/
def margin : Nat := 4

/-- A hunk's expected text is long enough to be searched for when it has this many characters, even
if it is not the only one of its kind. -/
def enough : Nat := 32 - 2 * margin

/-- The characters of `text` from `start` up to `stop`, as far as there are any. -/
def window (text : List Char) (start stop : Nat) : List Char :=
  (text.take stop).drop start

/-! ## Context -/

/-- Widen the window from `start` up to `stop` by `padding` on either side, and by a margin at a
time more until it occurs once only or has enough characters. Once the window is the whole text it
occurs once only, so `steps` need not exceed the length of the text. -/
def widen (text : List Char) (start stop : Nat) : Nat → Nat → Nat
  | 0, padding => padding
  | steps + 1, padding =>
    let pattern := window text (start - padding) (stop + padding)
    if Text.isAmbiguous text pattern && pattern.length < enough then
      widen text start stop steps (padding + margin)
    else padding

/-- Add kept text around a hunk until what it expects can be recognised in `text`, and one margin
more. -/
def Hunk.addContext (h : Hunk) (text : List Char) : Hunk :=
  if text.isEmpty then h
  else
    let start := h.newStart
    let stop := h.newStart + h.oldLength
    let padding := widen text start stop text.length 0 + margin
    let front := window text (start - padding) start
    let back := window text stop (stop + padding)
    { oldStart := h.oldStart - front.length
      newStart := h.newStart - front.length
      oldLength := h.oldLength + front.length + back.length
      newLength := h.newLength + front.length + back.length
      script := piece .equal front ++ h.script ++ piece .equal back }

/-! ## Cutting a script into hunks -/

/-- A walk along a script. -/
structure Walk where
  /-- The hunk being collected; its script is empty between hunks. -/
  hunk : Hunk
  /-- Offset in the text before the hunk being collected. -/
  oldOffset : Nat
  /-- Offset in the text after it. -/
  newOffset : Nat
  /-- The text with all earlier hunks applied. -/
  before : List Char
  /-- The text with the hunk being collected applied too. -/
  after : List Char

namespace Walk

/-- At the front of a text. -/
def start (text : List Char) : Walk := ⟨{}, 0, 0, text, text⟩

/-- A hunk starts where its first change does. -/
def openHunk (w : Walk) : Walk :=
  if w.hunk.script.isEmpty then
    { w with hunk := { w.hunk with oldStart := w.oldOffset, newStart := w.newOffset } }
  else w

/-- Take an insertion into the hunk. -/
def insert (w : Walk) (s : Segment) : Walk :=
  let w := w.openHunk
  { w with
    hunk := { w.hunk with
      script := w.hunk.script ++ [s], newLength := w.hunk.newLength + s.length }
    after := w.after.take w.newOffset ++ s.text ++ w.after.drop w.newOffset
    newOffset := w.newOffset + s.length }

/-- Take a deletion into the hunk. -/
def delete (w : Walk) (s : Segment) : Walk :=
  let w := w.openHunk
  { w with
    hunk := { w.hunk with
      script := w.hunk.script ++ [s], oldLength := w.hunk.oldLength + s.length }
    after := w.after.take w.newOffset ++ w.after.drop (w.newOffset + s.length)
    oldOffset := w.oldOffset + s.length }

/-- Take kept text into the hunk. -/
def keep (w : Walk) (s : Segment) : Walk :=
  { w with
    hunk := { w.hunk with
      script := w.hunk.script ++ [s]
      oldLength := w.hunk.oldLength + s.length
      newLength := w.hunk.newLength + s.length }
    oldOffset := w.oldOffset + s.length
    newOffset := w.newOffset + s.length }

/-- Pass kept text between hunks. -/
def skip (w : Walk) (s : Segment) : Walk :=
  { w with oldOffset := w.oldOffset + s.length, newOffset := w.newOffset + s.length }

/-- Put the hunk away: the text after it becomes the text before the next. -/
def close (w : Walk) : Walk :=
  { w with hunk := {}, oldOffset := w.newOffset, before := w.after }

/-- The hunk being collected, with its context. -/
def finished (w : Walk) : Hunk := w.hunk.addContext w.before

end Walk

/-- The hunks of the rest of a script. Kept text of up to two margins joins the changes on either
side of it into one hunk; kept text of two margins or more otherwise ends a hunk. -/
def hunksFrom (w : Walk) : List Segment → List Hunk
  | [] => if w.hunk.script.isEmpty then [] else [w.finished]
  | s :: r =>
    match s.kind with
    | .insert => hunksFrom (w.insert s) r
    | .delete => hunksFrom (w.delete s) r
    | .equal =>
      if s.length ≤ 2 * margin ∧ w.hunk.script ≠ [] ∧ r ≠ [] then hunksFrom (w.keep s) r
      else if 2 * margin ≤ s.length ∧ w.hunk.script ≠ [] then
        w.finished :: hunksFrom (w.close.skip s) r
      else hunksFrom (w.skip s) r

/-- The hunks of a script that starts from `text`. -/
def hunksOf (text : List Char) (script : List Segment) : List Hunk :=
  hunksFrom (Walk.start text) script

/-- The hunks that turn `old` into `new`. -/
def hunksBetween (old new : List Char) : List Hunk := hunksOf old (diff old new)

end LinkedNotes.Patch
