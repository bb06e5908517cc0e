import LinkedNotes.Edit.Ends
import LinkedNotes.Edit.Script

/-!
# Sliding changes together

A script says the same when an insertion trades the text it shares with a kept neighbour, or
changes places with a deletion beside it. `slide` moves every deletion and then every insertion
up as far as it goes and down as far as it goes, and joins the changes of one kind that meet on
the way. What a segment stands between is held as two lists, the nearest segment first in both.

An insertion slides over kept text as long as the two share characters. A deletion never does: it
only changes places with insertions and joins deletions.
-/

namespace LinkedNotes.Edit

/-- A segment in its place, the nearest neighbours first on either side. -/
structure Place where
  before : List Segment
  this : Segment
  after : List Segment

/-- The whole script around a place. -/
def Place.script (p : Place) : List Segment := p.before.reverse ++ p.this :: p.after

/-- Total length of a list of segments, each counted once more for itself. -/
def weight : List Segment → Nat
  | [] => 0
  | s :: r => s.text.length + 1 + weight r

theorem weight_piece_append_lt (kind : Kind) (kept text : List Char) (r : List Segment)
    (h : kept.length < text.length) :
    weight (piece kind kept ++ r) < text.length + 1 + weight r := by
  cases kept with
  | nil => simp [piece]
  | cons c t =>
    simp only [piece_cons, List.singleton_append, weight]
    omega

/-- Put kept text in front of what follows, as part of a kept neighbour if there is one. -/
def keepBefore (text : List Char) : List Segment → List Segment
  | ⟨.equal, t⟩ :: r => ⟨.equal, text ++ t⟩ :: r
  | r => ⟨.equal, text⟩ :: r

/-- Put kept text behind what precedes, given nearest first. -/
def keepAfter (text : List Char) : List Segment → List Segment
  | ⟨.equal, t⟩ :: r => ⟨.equal, t ++ text⟩ :: r
  | r => ⟨.equal, text⟩ :: r

/-- Move a change up: over the back of kept text that ends as the insertion does, past changes of
the other kind, into a change of its own kind. -/
def slideUp (before : List Segment) (this : Segment) (after : List Segment) : Place :=
  match before with
  | [] => ⟨[], this, after⟩
  | ⟨.equal, text⟩ :: r =>
    match this with
    | ⟨.insert, inserted⟩ =>
      let (kept, moved, shared) := shareBack text inserted
      if kept.length < text.length then
        slideUp (piece .equal kept ++ r) ⟨.insert, shared ++ moved⟩ (keepBefore shared after)
      else ⟨before, this, after⟩
    | _ => ⟨before, this, after⟩
  | ⟨.insert, text⟩ :: r =>
    match this with
    | ⟨.insert, inserted⟩ => slideUp r ⟨.insert, text ++ inserted⟩ after
    | ⟨.delete, deleted⟩ => slideUp r ⟨.delete, deleted⟩ (⟨.insert, text⟩ :: after)
    | _ => ⟨before, this, after⟩
  | ⟨.delete, text⟩ :: r =>
    match this with
    | ⟨.delete, deleted⟩ => slideUp r ⟨.delete, text ++ deleted⟩ after
    | ⟨.insert, inserted⟩ => slideUp r ⟨.insert, inserted⟩ (⟨.delete, text⟩ :: after)
    | _ => ⟨before, this, after⟩
  termination_by weight before
  decreasing_by
    · exact weight_piece_append_lt _ _ _ _ (by assumption)
    all_goals simp only [weight]; omega

/-- Move a change down: over the front of kept text that starts as the insertion does, past changes
of the other kind, taking in changes of its own kind. -/
def slideDown (before : List Segment) (this : Segment) (after : List Segment) : Place :=
  match after with
  | [] => ⟨before, this, []⟩
  | ⟨.equal, text⟩ :: r =>
    match this with
    | ⟨.insert, inserted⟩ =>
      let (shared, kept, moved) := shareFront text inserted
      if kept.length < text.length then
        slideDown (keepAfter shared before) ⟨.insert, moved ++ shared⟩ (piece .equal kept ++ r)
      else ⟨before, this, after⟩
    | _ => ⟨before, this, after⟩
  | ⟨.insert, text⟩ :: r =>
    match this with
    | ⟨.insert, inserted⟩ => slideDown before ⟨.insert, inserted ++ text⟩ r
    | ⟨.delete, deleted⟩ => slideDown (⟨.insert, text⟩ :: before) ⟨.delete, deleted⟩ r
    | _ => ⟨before, this, after⟩
  | ⟨.delete, text⟩ :: r =>
    match this with
    | ⟨.delete, deleted⟩ => slideDown before ⟨.delete, deleted ++ text⟩ r
    | ⟨.insert, inserted⟩ => slideDown (⟨.delete, text⟩ :: before) ⟨.insert, inserted⟩ r
    | _ => ⟨before, this, after⟩
  termination_by weight after
  decreasing_by
    · exact weight_piece_append_lt _ _ _ _ (by assumption)
    all_goals simp only [weight]; omega

/-- Slide each segment of the given kind up and then down, from the front of the script on. A
segment that was joined with one further up may be left there, and the pass goes on behind it;
this happens once per segment of the kind at most, and each time the pass moves on through a
script that grows no heavier, so `steps` need not exceed the square of the weight. -/
def slidePass (kind : Kind) : Nat → List Segment → List Segment → List Segment
  | _, before, [] => before.reverse
  | 0, before, after => before.reverse ++ after
  | steps + 1, before, s :: after =>
    if s.kind = kind then
      let up := slideUp before s after
      let down := slideDown up.before up.this up.after
      slidePass kind steps (down.this :: down.before) down.after
    else
      slidePass kind steps (s :: before) after

/-- Slide all segments of one kind. -/
def slideKind (kind : Kind) (script : List Segment) : List Segment :=
  slidePass kind ((weight script + 1) * (weight script + 1)) [] script

/-- Slide the deletions together, then the insertions. -/
def slide (script : List Segment) : List Segment :=
  slideKind .insert (slideKind .delete script)

end LinkedNotes.Edit
