import LinkedNotes.Edit.Script
import LinkedNotes.Text.Place

/-!
# Protected ranges

Ranges of the old revision that an edit may or may not have invalidated. `touches` errs on the
side of having touched: text inserted at either end of a range counts.
-/

namespace LinkedNotes.Edit

open Text (Interval)

/-- Some change of a script that continues at `offset` of the old revision touches a range. -/
def touchesFrom (ranges : List Interval) : Nat → List Segment → Bool
  | _, [] => false
  | offset, s :: r =>
    match s.kind with
    | .equal => touchesFrom ranges (offset + s.length) r
    | .delete =>
      ranges.any (·.overlaps offset (offset + s.length)) ||
        touchesFrom ranges (offset + s.length) r
    | .insert => ranges.any (·.meets offset) || touchesFrom ranges offset r

/-- An edit of a text of length `oldLength` may have invalidated one of the ranges. Ranges are cut
to the text first, and the empty ones do not count. -/
def touches (oldLength : Nat) (script : List Segment) (ranges : List Interval) : Bool :=
  touchesFrom ((ranges.map (Interval.clamp oldLength)).filter fun i => !i.isEmpty) 0 script

/-- The script inserts a square bracket. -/
def insertsBrackets (script : List Segment) : Bool :=
  script.any fun s => s.kind == .insert && s.text.any fun c => c == '[' || c == ']'

end LinkedNotes.Edit
