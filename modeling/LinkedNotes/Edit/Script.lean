/-!
# Edit scripts

An edit script is a list of segments, each kept from the old revision, deleted from it or
inserted into the new one. `source` and `target` read the two revisions back off a script.
This module also holds the last two steps of making a script readable: `group` writes every run
of changes as one deletion followed by one insertion, and `fuse` joins neighbours of one kind.
-/

namespace LinkedNotes.Edit

/-- What happens to the text of a segment. -/
inductive Kind where
  | equal
  | insert
  | delete
  deriving DecidableEq, Repr

/-- A run of characters with what happens to it. -/
structure Segment where
  kind : Kind
  text : List Char
  deriving DecidableEq, Repr

namespace Segment

/-- The characters a segment takes up in the old revision. -/
def old (s : Segment) : List Char :=
  match s.kind with
  | .insert => []
  | .equal | .delete => s.text

/-- The characters a segment takes up in the new revision. -/
def new (s : Segment) : List Char :=
  match s.kind with
  | .delete => []
  | .equal | .insert => s.text

/-- Length in characters, the unit of every offset in this library. -/
def length (s : Segment) : Nat := s.text.length

end Segment

/-- The old revision: everything kept or deleted. -/
def source (script : List Segment) : List Char := script.flatMap Segment.old

/-- The new revision: everything kept or inserted. -/
def target (script : List Segment) : List Char := script.flatMap Segment.new

@[simp] theorem source_nil : source [] = [] := rfl

@[simp] theorem target_nil : target [] = [] := rfl

@[simp] theorem source_cons (s : Segment) (r : List Segment) :
    source (s :: r) = s.old ++ source r := rfl

@[simp] theorem target_cons (s : Segment) (r : List Segment) :
    target (s :: r) = s.new ++ target r := rfl

@[simp] theorem source_append (r s : List Segment) : source (r ++ s) = source r ++ source s := by
  simp [source]

@[simp] theorem target_append (r s : List Segment) : target (r ++ s) = target r ++ target s := by
  simp [target]

/-- One segment, or none when there is nothing in it. -/
def piece (kind : Kind) (text : List Char) : List Segment :=
  if text.isEmpty then [] else [⟨kind, text⟩]

@[simp] theorem piece_nil (kind : Kind) : piece kind [] = [] := rfl

@[simp] theorem piece_cons (kind : Kind) (c : Char) (r : List Char) :
    piece kind (c :: r) = [⟨kind, c :: r⟩] := rfl

/-- Replace one text by another, without segments that hold nothing. -/
def replacement (old new : List Char) : List Segment :=
  piece .delete old ++ piece .insert new

/-- Write each run of changes as all it deletes, then all it inserts. `deleted` and `inserted`
are what the run being read has collected. -/
def groupFrom (deleted inserted : List Char) : List Segment → List Segment
  | [] => replacement deleted inserted
  | ⟨.equal, text⟩ :: r => replacement deleted inserted ++ ⟨.equal, text⟩ :: groupFrom [] [] r
  | ⟨.delete, text⟩ :: r => groupFrom (deleted ++ text) inserted r
  | ⟨.insert, text⟩ :: r => groupFrom deleted (inserted ++ text) r

/-- Write each run of changes between kept segments as one deletion and one insertion. -/
def group (script : List Segment) : List Segment := groupFrom [] [] script

/-- Join neighbours of the same kind. -/
def fuse : List Segment → List Segment
  | [] => []
  | s :: r =>
    match fuse r with
    | [] => [s]
    | t :: r' =>
      if s.kind = t.kind then ⟨s.kind, s.text ++ t.text⟩ :: r' else s :: t :: r'

end LinkedNotes.Edit
