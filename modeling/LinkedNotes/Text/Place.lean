/-!
# Places in a text

Ranges of character offsets, where a pattern occurs in a text, overlapping occurrences included, and
which occurrence is nearest to an expected offset.
-/

namespace LinkedNotes.Text

/-! ## Intervals -/

/-- The character offsets from `start` up to and without `stop`. -/
structure Interval where
  start : Nat
  stop : Nat
  deriving DecidableEq, Repr

namespace Interval

/-- How many offsets an interval holds; none when it is the wrong way round. -/
def length (i : Interval) : Nat := i.stop - i.start

/-- The interval holds no offset. -/
def isEmpty (i : Interval) : Bool := i.stop ≤ i.start

/-- The part of an interval within a text of the given length. -/
def clamp (limit : Nat) (i : Interval) : Interval := ⟨min i.start limit, min i.stop limit⟩

/-- Deleting the characters from `start` up to `stop` takes some from the interval. -/
def overlaps (start stop : Nat) (i : Interval) : Bool := start < i.stop && i.start < stop

/-- The offset lies within the interval or at either end of it. -/
def meets (offset : Nat) (i : Interval) : Bool := i.start ≤ offset && offset ≤ i.stop

end Interval

/-! ## Occurrences -/

/-- The offsets at which `pattern` occurs, counted from `i`, in increasing order. The empty pattern
occurs everywhere, the end of the text included. -/
def occurrencesFrom (pattern : List Char) : Nat → List Char → List Nat
  | i, [] => if pattern.isEmpty then [i] else []
  | i, c :: r =>
    if pattern.isPrefixOf (c :: r) then i :: occurrencesFrom pattern (i + 1) r
    else occurrencesFrom pattern (i + 1) r

/-- All offsets at which `pattern` occurs in `text`. -/
def occurrences (text pattern : List Char) : List Nat := occurrencesFrom pattern 0 text

/-- The distance of two offsets. -/
def distance (i j : Nat) : Nat := (i - j) + (j - i)

/-- A search for the occurrence nearest to some offset, with some of them looked at. -/
structure Search where
  /-- The nearest one so far, and its distance. -/
  best : Option (Nat × Nat) := none
  /-- Another one was found at that distance. -/
  tied : Bool := false
  deriving DecidableEq, Repr

namespace Search

/-- Look at the next occurrence. A nearer one takes the place of the best one, whether or not that
was tied. -/
def visit (x : Nat) (s : Search) (i : Nat) : Search :=
  match s.best with
  | none => { s with best := some (i, distance i x) }
  | some (_, least) =>
    if distance i x < least then ⟨some (i, distance i x), false⟩
    else if distance i x = least then { s with tied := true }
    else s

/-- What was found, unless it is tied. -/
def answer (s : Search) : Option Nat := if s.tied then none else s.best.map Prod.fst

end Search

/-- Where to put a pattern that is expected at some offset: there if it occurs there, otherwise at
its one nearest occurrence. -/
def locate (text pattern : List Char) (expected : Nat) : Option Nat :=
  let x := min expected text.length
  if pattern.isPrefixOf (text.drop x) then some x
  else if pattern.isEmpty || text.length < pattern.length then none
  else ((occurrences text pattern).foldl (Search.visit x) {}).answer

/-- The pattern occurs at two places or more, found by comparing its first and its last
occurrence. -/
def isAmbiguous (text pattern : List Char) : Bool :=
  let all := occurrences text pattern
  all.head? != all.getLast?

end LinkedNotes.Text
