import LinkedNotes.Text.Character
import LinkedNotes.Text.Collection
import LinkedNotes.Text.Place

/-!
# Wikilinks

A link is `[[target]]` or `[[target|label]]`. Nothing between the brackets is a bracket, and the
target is what stands before the first bar, without the blanks around it. Brackets around a blank
target are no link.

Two links cannot overlap, since each holds no brackets but its own. So looking at every offset in
turn finds each link once.
-/

namespace LinkedNotes.Wikilink

open Text (Interval)

/-- A link in a text. -/
structure Link where
  /-- Where the link stands, its brackets included. -/
  interval : Interval
  target : List Char
  deriving DecidableEq, Repr

/-- A square bracket. -/
def isBracket (c : Char) : Bool := c == '[' || c == ']'

/-- What a link between double brackets points to. -/
def targetOf (inner : List Char) : List Char := Text.trim (inner.takeWhile (· ≠ '|'))

/-- What stands between the double brackets at the front of a text, if a text with no brackets
in it does. -/
def inner? (text : List Char) : Option (List Char) :=
  match text with
  | '[' :: '[' :: r =>
    match r.dropWhile fun c => !isBracket c with
    | ']' :: ']' :: _ => some (r.takeWhile fun c => !isBracket c)
    | _ => none
  | _ => none

/-- The link at the front of a text that stands at `offset`. -/
def linkAt? (offset : Nat) (text : List Char) : Option Link :=
  match inner? text with
  | none => none
  | some inner =>
    if targetOf inner = [] then none
    else some ⟨⟨offset, offset + inner.length + 4⟩, targetOf inner⟩

/-- The links of a text that stands at `offset`, in order. -/
def linksFrom (offset : Nat) : List Char → List Link
  | [] => []
  | c :: r =>
    match linkAt? offset (c :: r) with
    | none => linksFrom (offset + 1) r
    | some link => link :: linksFrom (offset + 1) r

/-- The links of a text, in order. -/
def links (text : List Char) : List Link := linksFrom 0 text

/-- Where the links of a text stand, in order. -/
def intervals (text : String) : List Interval := (links text.toList).map (·.interval)

/-- What the links of a text point to, each target once, in order of first appearance. -/
def targets (text : String) : List String :=
  Text.distinct ((links text.toList).map fun link => String.ofList link.target)

end LinkedNotes.Wikilink
