/-!
# The middle snake

Splitting two texts at a point that lies on a shortest edit path, found by searching from both
ends at once. A diagonal `k` holds the points whose offset in the old text exceeds that in the
new one by `k`. `Frontier` maps each diagonal to the furthest old offset reached on it. Round `d`
extends the paths with `d` changes, first from the front and then from the back, until a path
from one end passes one from the other.

The search from the back is the search from the front on the two texts reversed. The diagonals
of a round are tried from `d` down to `-d` in steps of two, and of two ways to a diagonal the one
from above wins only when it is strictly ahead. This order decides which of several shortest
scripts is found.
-/

namespace LinkedNotes.Edit.Snake

/-- How many characters agree from offset `i` of `a` and offset `j` of `b` on. -/
def agreement (a b : Array Char) (i j : Nat) : Nat :=
  if h : i < a.size ∧ j < b.size then
    if a[i] = b[j] then agreement a b (i + 1) (j + 1) + 1 else 0
  else 0
  termination_by a.size - i

/-- The furthest offset reached on each diagonal from `-middle` to `middle`. -/
structure Frontier where
  middle : Nat
  cells : Array Nat

namespace Frontier

/-- Nothing reached yet on the diagonals from `-reach` to `reach`. -/
def start (reach : Nat) : Frontier := ⟨reach, Array.replicate (2 * reach + 1) 0⟩

/-- The offset reached on diagonal `k`. -/
def reached (f : Frontier) (k : Int) : Nat := f.cells.getD (k + f.middle).toNat 0

/-- Record the offset reached on diagonal `k`. -/
def record (f : Frontier) (k : Int) (x : Nat) : Frontier :=
  { f with cells := f.cells.setIfInBounds (k + f.middle).toNat x }

/-- Where the path with `d` changes enters diagonal `k`: down from the diagonal above, or right
from the one below. -/
def entry (f : Frontier) (d k : Int) : Nat :=
  let above := f.reached (k + 1)
  let below := f.reached (k - 1)
  if k = -d ∨ (k ≠ d ∧ below < above) then above else below + 1

end Frontier

/-- What one round from one end leads to. -/
inductive Sweep where
  /-- The paths from both ends pass each other; the snake runs from `(x, y)` for `length`
  characters. -/
  | met (x y length : Nat)
  /-- They do not yet. -/
  | reached (frontier : Frontier)

/-- One round over the given diagonals. Paths pass on diagonal `k` when both offsets together
cover the `n` characters of the old text, `other` being the frontier from the other end, whose
diagonal `k` is `delta - k`. Only diagonals with `|k - delta| ≤ bound` can have been reached from
the other end. -/
def sweep (a b : Array Char) (d delta bound : Int) (other : Frontier) :
    List Int → Frontier → Sweep
  | [], front => .reached front
  | k :: rest, front =>
    let x := front.entry d k
    let y := (x : Int) - k
    let run := if 0 ≤ y then agreement a b x y.toNat else 0
    let front := front.record k (x + run)
    if (k - delta).natAbs ≤ bound ∧ a.size ≤ x + run + other.reached (delta - k) then
      .met x y.toNat run
    else
      sweep a b d delta bound other rest front

/-- The diagonals of round `d`: from `d` down to `-d` in steps of two. -/
def diagonals (d : Nat) : List Int :=
  (List.range (d + 1)).map fun (i : Nat) => (d : Int) - 2 * (i : Int)

/-- Rounds from `d` on, at most `rounds` of them. The paths can first pass on a forward round
when the texts' lengths differ by an odd number and on a backward round otherwise. -/
def search (a b ra rb : Array Char) (front back : Frontier) (d : Nat) :
    Nat → Option (Nat × Nat)
  | 0 => none
  | rounds + 1 =>
    let delta : Int := (a.size : Int) - (b.size : Int)
    let odd := delta % 2 ≠ 0
    match sweep a b d delta (if odd then (d : Int) - 1 else -1) back (diagonals d) front with
    | .met x y _ => some (x, y)
    | .reached front =>
      match sweep ra rb d delta (if odd then -1 else (d : Int)) front (diagonals d) back with
      | .met x y run => some (a.size - (x + run), b.size - (y + run))
      | .reached back => search a b ra rb front back (d + 1) rounds

/-- A point at which to split the two texts so that a shortest script of the halves is a shortest
script of the whole. -/
def point? (old new : List Char) : Option (Nat × Nat) :=
  let rounds := (old.length + new.length + 1) / 2 + 1
  search old.toArray new.toArray old.reverse.toArray new.reverse.toArray
    (Frontier.start (rounds + 1)) (Frontier.start (rounds + 1)) 0 rounds

end LinkedNotes.Edit.Snake
