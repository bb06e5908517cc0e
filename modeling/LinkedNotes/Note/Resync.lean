import LinkedNotes.Edit.Diff
import LinkedNotes.Edit.Touch
import LinkedNotes.Note.Basic

/-!
# When links have to be read again

Reading all links of a note again and rewriting its edges is called a resync. A patch that keeps
every recorded link as it is and inserts no bracket can neither remove a link nor make one, so it
needs none.
-/

namespace LinkedNotes.Resync

/-- Why a resync is needed. -/
inductive Reason where
  /-- The text was not changed by a patch. -/
  | fullReplace
  /-- The note has a new title. -/
  | titleChanged
  /-- No links are recorded for the text. -/
  | noRecordedLinks
  /-- The edit reaches into a recorded link, or up to one. -/
  | linkTouched
  /-- The edit inserts a bracket, which may form a new link. -/
  | bracketInserted
  deriving DecidableEq, Repr

/-- The word for a reason. -/
def Reason.toText : Reason → String
  | .fullReplace => "full_replace"
  | .titleChanged => "title_changed"
  | .noRecordedLinks => "no_recorded_intervals"
  | .linkTouched => "link_range_touched"
  | .bracketInserted => "bracket_inserted"

/-- Whether to resync. -/
inductive Decision where
  | resync (reason : Reason)
  | skip
  deriving DecidableEq, Repr

namespace Decision

/-- A resync is needed. -/
def isResync : Decision → Bool
  | .resync _ => true
  | .skip => false

/-- The decision in words. -/
def toText : Decision → String
  | .resync reason => "resync(" ++ reason.toText ++ ")"
  | .skip => "skip"

end Decision

/-- Decide for a note whose text becomes `newText`. The links recorded in the note are those of
the text it has. -/
def decision (previous : Note) (newText : String) (isPatch titleChanged : Bool) : Decision :=
  if !isPatch then .resync .fullReplace
  else if titleChanged then .resync .titleChanged
  else if previous.links.isEmpty then .resync .noRecordedLinks
  else
    let old := previous.body.toList
    let script := Edit.diff old newText.toList
    if Edit.touches old.length script previous.links then .resync .linkTouched
    else if Edit.insertsBrackets script then .resync .bracketInserted
    else .skip

end LinkedNotes.Resync
