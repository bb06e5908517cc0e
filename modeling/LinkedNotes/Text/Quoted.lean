import LinkedNotes.Text.Visible

/-!
# Quoted texts

Texts between double quotes, for messages: a quote or backslash has a backslash in front, the
common control characters have a letter, and any other character that does not show by itself is
written as its code point.
-/

namespace LinkedNotes.Text

/-- The hexadecimal digits of a number in lower case, without leading zeros. -/
def hexadecimal (n : Nat) : List Char := Nat.toDigits 16 n

/-- A character within quotes. -/
def quoteChar (c : Char) : List Char :=
  match c with
  | '\x00' => ['\\', '0']
  | '\t' => ['\\', 't']
  | '\r' => ['\\', 'r']
  | '\n' => ['\\', 'n']
  | '\\' => ['\\', '\\']
  | '"' => ['\\', '"']
  | c => if isVisible c then [c] else ['\\', 'u', '\x7b'] ++ hexadecimal c.toNat ++ ['\x7d']

/-- A text in quotes. -/
def quote (text : String) : String :=
  String.ofList ('"' :: text.toList.flatMap quoteChar ++ ['"'])

/-- Texts in quotes, with commas between. -/
def quoteAll (texts : List String) : String := ", ".intercalate (texts.map quote)

/-- A list of quoted texts in square brackets. -/
def quoteList (texts : List String) : String := "[" ++ quoteAll texts ++ "]"

/-- A set of quoted texts in braces. -/
def quoteSet (texts : List String) : String := "\x7b" ++ quoteAll texts ++ "\x7d"

end LinkedNotes.Text
