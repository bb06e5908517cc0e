import LinkedNotes.Text.Character
import LinkedNotes.Text.Utf8

/-!
# Percent coding

A text on one line: letters, digits, blanks and the marks `-_.~` stand for themselves, and every
other byte of the text's UTF-8 form is written as a percent sign and two hexadecimal digits.
Reading takes such triples in either case and everything else literally, a percent sign without
two digits behind it included.
-/

namespace LinkedNotes.Text.Percent

/-- The bytes written as they are. -/
def isPlain (b : UInt8) : Bool :=
  let c := Char.ofNat b.toNat
  c.isAlphanum || c == '-' || c == '_' || c == '.' || c == '~' || c == ' '

/-- The written form of a byte. -/
def encodeByte (b : UInt8) : List Char :=
  if isPlain b then [Char.ofNat b.toNat]
  else ['%', (hexDigit (b.toNat / 16)).toUpper, (hexDigit (b.toNat % 16)).toUpper]

/-- The written form of a text. -/
def encode (text : List Char) : List Char := (Utf8.encode text).flatMap encodeByte

/-- The byte two hexadecimal digits stand for. -/
def byte? (high low : Char) : Option UInt8 :=
  match hexValue? high, hexValue? low with
  | some h, some l => some (UInt8.ofNat (16 * h + l))
  | _, _ => none

/-- The bytes a written form stands for. -/
def bytes : List Char → List UInt8
  | '%' :: high :: low :: r =>
    match byte? high low with
    | some b => b :: bytes r
    | none => String.utf8EncodeChar '%' ++ bytes (high :: low :: r)
  | c :: r => String.utf8EncodeChar c ++ bytes r
  | [] => []

/-- The text a written form stands for, if its bytes are UTF-8. -/
def decode (written : List Char) : Except Utf8.Fault (List Char) := Utf8.decode (bytes written)

end LinkedNotes.Text.Percent
