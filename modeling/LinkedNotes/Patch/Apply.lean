import LinkedNotes.Patch.Fault
import LinkedNotes.Patch.Hunk
import LinkedNotes.Text.Character

/-!
# Applying hunks

Each hunk's expected text has to occur in the text exactly. It is looked for at the hunk's own
offset, shifted by how far the previous hunk was from its own, and then at the nearest occurrence.
Offsets and shifts are kept as signed numbers of 64 bits.
-/

namespace LinkedNotes.Patch

/-- A number kept in 64 bits with a sign: one that does not fit wraps around. -/
def signed (n : Int) : Int := Int.bmod n Text.offsetLimit

/-- Where a hunk is expected when the previous one was found `drift` characters further on than it
said. -/
def Hunk.expected (h : Hunk) (drift : Int) : Nat := (signed (signed h.newStart + drift)).toNat

/-- How far a hunk found at `start` is from where it said. -/
def Hunk.drift (h : Hunk) (start : Nat) : Int := signed (signed start - signed h.newStart)

/-- Where a hunk goes in a text. -/
def Hunk.place (h : Hunk) (drift : Int) (text : List Char) : Option Nat :=
  Text.locate text h.source (h.expected drift)

/-- Write what a hunk leaves behind over what it expects at `start`. -/
def Hunk.splice (h : Hunk) (start : Nat) (text : List Char) : List Char :=
  text.take start ++ h.target ++ text.drop (start + h.source.length)

/-- Apply the hunks from the given number on. -/
def applyFrom (number : Nat) (drift : Int) (text : List Char) :
    List Hunk → Except Fault (List Char)
  | [] => .ok text
  | h :: r =>
    match h.place drift text with
    | none => .error (.misplaced number)
    | some start => applyFrom (number + 1) (h.drift start) (h.splice start text) r

/-- Apply hunks to a text, all or none. -/
def applyHunks (text : List Char) (hunks : List Hunk) : Except Fault (List Char) :=
  applyFrom 1 0 text hunks

end LinkedNotes.Patch
