import LinkedNotes.Fault

/-!
# What databases are told

The addresses under which databases are to be found, and the patterns that titles are searched with.
-/

namespace LinkedNotes.Database

/-! ## Addresses

An address starts with a scheme: a letter, then letters, digits and the marks `+`, `-` and `.`, up
to a colon. Without one there is nothing to connect to. -/

namespace Address

/-- A character of a scheme after its first one. -/
def isSchemeChar (c : Char) : Bool := c.isAlphanum || c == '+' || c == '-' || c == '.'

/-- The address starts with a scheme. -/
def hasScheme (address : List Char) : Bool :=
  match address with
  | [] => false
  | c :: r => c.isAlpha && (r.dropWhile isSchemeChar).head? == some ':'

/-- Fail if there is nothing to connect to. -/
def check (address : String) : Except Fault Unit :=
  if hasScheme address.toList then .ok ()
  else .error (.database "error with configuration: relative URL without a base")

end Address

/-! ## Search patterns

In the patterns of a title search, a percent sign stands for any run of characters, an underscore
for any one character, and a backslash takes away the meaning of the character behind it. -/

namespace Pattern

/-- A backslash in front of every `c`. -/
def mark (c : Char) (text : List Char) : List Char :=
  text.flatMap fun d => if d = c then ['\\', c] else [d]

/-- The pattern of a text that is to be found as it is. Backslashes come first, so that those in
front of the other characters are not marked again. -/
def escape (text : List Char) : List Char := mark '_' (mark '%' (mark '\\' text))

/-- The pattern of the texts that hold a text somewhere. -/
def holding (text : List Char) : List Char := '%' :: escape text ++ ['%']

end Pattern

end LinkedNotes.Database
