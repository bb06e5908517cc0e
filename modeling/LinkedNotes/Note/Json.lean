import LinkedNotes.Json.Printer
import LinkedNotes.Json.Reader
import LinkedNotes.Note.Basic
import LinkedNotes.Text.Character
import LinkedNotes.Time.Spelling

/-!
# Notes in JSON

How notes, keywords, edges and intervals are written as JSON values, and which values are taken
for them. Written records are objects with their fields in a fixed order. Reading takes the fields
in any order, ignores others, and takes an array of the fields too. An optional field of an object
may be missing, and the links of a note may be missing anywhere.
-/

namespace LinkedNotes

open Json (Value)
open Text (Interval)
open Time (Timestamp)

/-- A field that has to be there. -/
def requiredField? {α : Type} (f : Value → Option α) (value : Option Value) : Option α :=
  value.bind f

/-- A field that may be missing or null. -/
def optionalField? {α : Type} (f : Value → Option α) : Option Value → Option (Option α)
  | none => some none
  | some value => value.optional? f

/-- A field that may be missing, but not null. -/
def defaultField? {α : Type} (f : Value → Option α) (missing : α) : Option Value → Option α
  | none => some missing
  | some value => f value

/-- The text of a JSON string. -/
def stringOfJson? (value : Value) : Option String := value.text?.map String.ofList

namespace Identifier

/-- An identifier as JSON. -/
def toJson (id : Identifier) : Value := .string (some id.spell)

/-- The identifier that JSON spells. -/
def ofJson? (value : Value) : Option Identifier := value.text?.bind ofSpelling?

end Identifier

namespace Time.Timestamp

/-- A timestamp as JSON. -/
def toJson (t : Timestamp) : Value := .string (some t.spell)

/-- The timestamp that JSON spells. -/
def ofJson? (value : Value) : Option Timestamp := value.text?.bind ofSpelling?

end Time.Timestamp

namespace Text.Interval

/-- An interval as JSON. -/
def toJson (i : Interval) : Value :=
  .record [("start", .ofNat i.start), ("end", .ofNat i.stop)]

/-- The interval that JSON describes. -/
def ofJson? (value : Value) : Option Interval := do
  match ← Json.fields? ["start", "end"] 0 value with
  | [start, stop] =>
    return ⟨← requiredField? (Value.nat? Text.offsetLimit) start,
      ← requiredField? (Value.nat? Text.offsetLimit) stop⟩
  | _ => none

/-- Intervals as JSON. -/
def listToJson (l : List Interval) : Value := .array (l.map toJson)

/-- The intervals that JSON describes. -/
def listOfJson? : Value → Option (List Interval)
  | .array items => items.mapM ofJson?
  | _ => none

end Text.Interval

namespace EdgeKind

/-- A kind of edge as JSON. -/
def toJson (kind : EdgeKind) : Value := .ofText kind.toText

/-- The kind of edge that JSON names: as a string, or as the name of an object's one member, whose
value is null. -/
def ofJson? : Value → Option EdgeKind
  | .string (some name) => ofText? (String.ofList name)
  | .object [(some name, .null)] => ofText? (String.ofList name)
  | _ => none

end EdgeKind

namespace Keyword

/-- A keyword as JSON. -/
def toJson (k : Keyword) : Value :=
  .record [("id", k.id.toJson), ("user_id", k.user.toJson), ("name", .ofText k.name)]

/-- The keyword that JSON describes. -/
def ofJson? (value : Value) : Option Keyword := do
  match ← Json.fields? ["id", "user_id", "name"] 0 value with
  | [id, user, name] =>
    return ⟨← requiredField? Identifier.ofJson? id, ← requiredField? Identifier.ofJson? user,
      ← requiredField? stringOfJson? name⟩
  | _ => none

end Keyword

namespace Edge

/-- An edge as JSON. -/
def toJson (e : Edge) : Value :=
  .record [("note_id", e.note.toJson), ("keyword_id", e.keyword.toJson),
    ("keyword_name", .ofText e.keywordName), ("kind", e.kind.toJson)]

/-- The edge that JSON describes. -/
def ofJson? (value : Value) : Option Edge := do
  match ← Json.fields? ["note_id", "keyword_id", "keyword_name", "kind"] 0 value with
  | [note, keyword, name, kind] =>
    return ⟨← requiredField? Identifier.ofJson? note, ← requiredField? Identifier.ofJson? keyword,
      ← requiredField? stringOfJson? name, ← requiredField? EdgeKind.ofJson? kind⟩
  | _ => none

end Edge

namespace Note

/-- The names of the fields of a note. -/
def fieldNames : List String :=
  ["id", "user_id", "title", "text", "represents_keyword_id", "is_pinned", "is_archived",
    "created_at", "updated_at", "link_intervals"]

/-- A note as JSON. -/
def toJson (note : Note) : Value :=
  .record [("id", note.id.toJson), ("user_id", note.user.toJson),
    ("title", .ofText note.title), ("text", .ofOption .ofText note.text),
    ("represents_keyword_id", .ofOption Identifier.toJson note.represents),
    ("is_pinned", .bool note.pinned), ("is_archived", .bool note.archived),
    ("created_at", note.created.toJson), ("updated_at", note.updated.toJson),
    ("link_intervals", Interval.listToJson note.links)]

/-- The note that JSON describes. -/
def ofJson? (value : Value) : Option Note := do
  match ← Json.fields? fieldNames 1 value with
  | [id, user, title, text, represents, pinned, archived, created, updated, links] =>
    return {
      id := ← requiredField? Identifier.ofJson? id
      user := ← requiredField? Identifier.ofJson? user
      title := ← requiredField? stringOfJson? title
      text := ← optionalField? stringOfJson? text
      represents := ← optionalField? Identifier.ofJson? represents
      pinned := ← requiredField? Value.bool? pinned
      archived := ← requiredField? Value.bool? archived
      created := ← requiredField? Timestamp.ofJson? created
      updated := ← requiredField? Timestamp.ofJson? updated
      links := ← defaultField? Interval.listOfJson? [] links }
  | _ => none

end Note

end LinkedNotes
