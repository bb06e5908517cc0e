import LinkedNotes.Text.Utf8

/-!
# Patch faults

Why a patch text cannot be read, or a patch not be applied.
-/

namespace LinkedNotes.Patch

/-- What is wrong with a patch. Hunks are counted from one. -/
inductive Fault where
  /-- A line where a hunk has to start is no hunk header. -/
  | header (line : List Char)
  /-- An offset in a header is no 64-bit number. -/
  | offset (digits : List Char)
  /-- A length in a header is no 64-bit number. -/
  | length (digits : List Char)
  /-- A body line starts with no known sign. -/
  | sign (first : Char) (line : List Char)
  /-- A body line does not decode to text. -/
  | encoding (fault : Text.Utf8.Fault)
  /-- The lengths in a hunk's header are not those of its body. -/
  | lengths (hunk oldLength newLength sourceLength targetLength : Nat)
  /-- What a hunk expects is not in the text, or in two equally good places. -/
  | misplaced (hunk : Nat)
  deriving DecidableEq, Repr

/-- The wording of a patch fault. -/
def Fault.message : Fault → String
  | .header line => s!"invalid patch header: {String.ofList line}"
  | .offset digits => s!"invalid hunk offset: {String.ofList digits}"
  | .length digits => s!"invalid hunk length: {String.ofList digits}"
  | .sign first line => s!"invalid patch mode '{first}' in: {String.ofList line}"
  | .encoding fault => s!"invalid encoding: {fault.message}"
  | .lengths hunk oldLength newLength sourceLength targetLength =>
    s!"hunk {hunk} lengths ({oldLength}, {newLength}) do not match its body " ++
      s!"({sourceLength}, {targetLength})"
  | .misplaced hunk => s!"hunk {hunk} does not match the current text"

end LinkedNotes.Patch
