import LinkedNotes.Identifier
import LinkedNotes.Text.Character
import LinkedNotes.Text.Collection

/-!
# The content of notes

Titles, texts put together from several notes, and the keywords that a note refers to.
-/

namespace LinkedNotes

/-! ## Titles

Titles have no blanks at their ends and are not empty. A note that is given none gets a numbered
one. -/

namespace Title

/-- The title without the blanks at its ends, or none when nothing is left. -/
def normalize? (title : Option String) : Option String :=
  match title with
  | none => none
  | some title =>
    let trimmed := Text.trim title.toList
    if trimmed = [] then none else some (String.ofList trimmed)

/-- The generated title of a number. -/
def untitled (n : Nat) : String := "Untitled " ++ String.ofList (Text.decimal n)

end Title

/-! ## Joined texts

Texts of several notes put together, each on a new line. -/

namespace Joined

/-- Join the texts that are there and not empty, with line feeds between; none when there is
nothing to join. -/
def chain (texts : List (Option String)) : Option String :=
  match texts.filterMap fun text => text.filter (· ≠ "") with
  | [] => none
  | parts => some ("\n".intercalate parts)

/-- Append a text on a new line. -/
def append (base suffix : Option String) : Option String := chain [base, suffix]

end Joined

/-! ## Referenced keywords

Which keyword names a state of a note refers to, and which of them a change gives up. A keyword
that is given up may be left without any referrer. -/

namespace Reference

/-- The names a note refers to: the given names it links to, and its title while it represents a
keyword. -/
def names (linked : List String) (represents : Option Identifier) (title : String) :
    List String :=
  let linked := Text.distinct linked
  if represents.isSome ∧ title ∉ linked then linked ++ [title] else linked

/-- The names of the previous state that the current one does not refer to. -/
def removed (previous current : List String) : List String :=
  previous.filter fun name => name ∉ current

end Reference

end LinkedNotes
