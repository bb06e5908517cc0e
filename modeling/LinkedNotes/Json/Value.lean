import LinkedNotes.Text.Character

/-!
# JSON values

JSON texts as values. Numbers keep their spelling, and members of objects their order. The escapes
of a JSON string can write halves of surrogate pairs, which are no characters; a string that holds
one has no text here.
-/

namespace LinkedNotes.Json

/-- A JSON value. -/
inductive Value where
  | null
  | bool (value : Bool)
  | number (spelling : List Char)
  | string (text : Option (List Char))
  | array (items : List Value)
  | object (members : List (Option (List Char) × Value))

namespace Value

/-- A string value. -/
def ofText (text : String) : Value := .string (some text.toList)

/-- A whole number. -/
def ofNat (n : Nat) : Value := .number (Text.decimal n)

/-- What is there, or null. -/
def ofOption {α : Type} (f : α → Value) : Option α → Value
  | none => .null
  | some a => f a

/-- An object with the given members. -/
def record (members : List (String × Value)) : Value :=
  .object (members.map fun m => (some m.1.toList, m.2))

/-- The text of a string. -/
def text? : Value → Option (List Char)
  | .string text => text
  | _ => none

/-- A truth value. -/
def bool? : Value → Option Bool
  | .bool b => some b
  | _ => none

/-- A whole number below `limit`, written with digits alone. -/
def nat? (limit : Nat) : Value → Option Nat
  | .number spelling => Text.readNat? limit spelling
  | _ => none

/-- What `f` makes of a value other than null. -/
def optional? {α : Type} (f : Value → Option α) : Value → Option (Option α)
  | .null => some none
  | value => (f value).map some

end Value

/-! ## Fields

A record is an object with a member for each field or an array of the fields in order. -/

/-- The members of an object that have a name. -/
def named (name : String) (members : List (Option (List Char) × Value)) : List Value :=
  (members.filter fun m => m.1 == some name.toList).map (·.2)

/-- The field of a name, which no two members may bear. -/
def field? (members : List (Option (List Char) × Value)) (name : String) :
    Option (Option Value) :=
  match named name members with
  | [] => some none
  | [value] => some (some value)
  | _ => none

/-- The values of the named fields of a record, as far as they are there. Members with other names
do not matter, but each member needs a name that is a text. In an array only the last `spare`
fields may be missing, and nothing may follow the fields. -/
def fields? (names : List String) (spare : Nat) : Value → Option (List (Option Value))
  | .object members =>
    if members.all fun m => m.1.isSome then names.mapM (field? members) else none
  | .array items =>
    if items.length ≤ names.length ∧ names.length ≤ items.length + spare then
      some (items.map some ++ List.replicate (names.length - items.length) none)
    else none
  | _ => none

end LinkedNotes.Json
