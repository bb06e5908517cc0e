import LinkedNotes.Transaction.Context

/-!
# Sample handles

Handles of three kinds that belong to no backend: an empty one, a number of 32 bits and a text.
-/

namespace LinkedNotes.Transaction

/-- A handle of one of the three kinds. -/
inductive Sample where
  | mark
  | number (n : UInt32)
  | text (t : String)
  deriving DecidableEq

namespace Sample

/-- The empty handles. -/
def markKind : HandleKind Sample Unit where
  wrap _ := .mark
  unwrap? | .mark => some () | _ => none
  unwrap?_wrap _ := rfl

/-- The numbers. -/
def numberKind : HandleKind Sample UInt32 where
  wrap := .number
  unwrap? | .number n => some n | _ => none
  unwrap?_wrap _ := rfl

/-- The texts. -/
def textKind : HandleKind Sample String where
  wrap := .text
  unwrap? | .text t => some t | _ => none
  unwrap?_wrap _ := rfl

end Sample

end LinkedNotes.Transaction
