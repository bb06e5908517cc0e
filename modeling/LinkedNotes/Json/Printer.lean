import LinkedNotes.Json.Value

/-!
# Writing JSON

Values are written without blanks. In strings, quotes, backslashes and control characters are
escaped and all else is written as it is.
-/

namespace LinkedNotes.Json

/-- A character within a string. -/
def escape (c : Char) : List Char :=
  match c with
  | '"' => ['\\', '"']
  | '\\' => ['\\', '\\']
  | '\x08' => ['\\', 'b']
  | '\x0c' => ['\\', 'f']
  | '\n' => ['\\', 'n']
  | '\r' => ['\\', 'r']
  | '\t' => ['\\', 't']
  | c =>
    if c.toNat < 0x20 then
      ['\\', 'u', '0', '0', Text.hexDigit (c.toNat / 16), Text.hexDigit (c.toNat % 16)]
    else [c]

/-- A string. One that has no text is written as half of a surrogate pair. -/
def writeString : Option (List Char) → List Char
  | none => "\"\\ud800\"".toList
  | some text => '"' :: text.flatMap escape ++ ['"']

mutual

/-- The text of a value. -/
def write : Value → List Char
  | .null => "null".toList
  | .bool true => "true".toList
  | .bool false => "false".toList
  | .number spelling => spelling
  | .string text => writeString text
  | .array [] => "[]".toList
  | .array (item :: rest) => '[' :: write item ++ writeItems rest
  | .object [] => ['\x7b', '\x7d']
  | .object ((name, value) :: rest) =>
    '\x7b' :: writeString name ++ ':' :: write value ++ writeMembers rest

/-- The rest of an array, up to its closing bracket. -/
def writeItems : List Value → List Char
  | [] => [']']
  | item :: rest => ',' :: write item ++ writeItems rest

/-- The rest of an object, up to its closing brace. -/
def writeMembers : List (Option (List Char) × Value) → List Char
  | [] => ['\x7d']
  | (name, value) :: rest =>
    ',' :: writeString name ++ ':' :: write value ++ writeMembers rest

end

end LinkedNotes.Json
