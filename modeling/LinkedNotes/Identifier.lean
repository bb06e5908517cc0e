import LinkedNotes.Text.Character
import LinkedNotes.Text.Quoted

/-!
# Identifiers

Notes, keywords and users are named by numbers of 128 bits. The usual spelling is 32 hexadecimal
digits in groups of 8, 4, 4, 4 and 12 with hyphens between; reading also takes the digits without
hyphens, and the usual spelling in braces or behind `urn:uuid:`. Letters count in either case,
those of `urn:uuid:` too.

The first digit of the third group is the version. Identifiers of version 7 start with a time, so
later ones are greater.
-/

namespace LinkedNotes

/-- A number of 128 bits that names something. -/
structure Identifier where
  bits : BitVec 128
  deriving DecidableEq

namespace Identifier

/-- The identifier of a number, of which the low 128 bits count. -/
def ofNat (n : Nat) : Identifier := ⟨BitVec.ofNat 128 n⟩

/-- The number of an identifier. -/
def toNat (id : Identifier) : Nat := id.bits.toNat

instance : Inhabited Identifier := ⟨ofNat 0⟩

/-- The identifier all of whose bits are zero. -/
def nil : Identifier := ofNat 0

/-- The version an identifier declares. -/
def version (id : Identifier) : Nat := (id.bits.extractLsb' 76 4).toNat

/-- An identifier of version 7: a time in milliseconds in the first 48 bits, the version, and a
sequence number in what is left but for the two bits that mark the layout. -/
def timeOrdered (milliseconds sequence : Nat) : Identifier :=
  ⟨BitVec.ofNat 48 milliseconds ++ 7#4 ++ BitVec.ofNat 12 (sequence >>> 62) ++ 2#2 ++
    BitVec.ofNat 62 sequence⟩

/-! ## Spelling -/

/-- The hexadecimal digits of a number, the last `count` of them. -/
def digits (n : Nat) : Nat → List Char
  | 0 => []
  | count + 1 => digits (n / 16) count ++ [Text.hexDigit (n % 16)]

/-- Cut the 32 digits into their groups. -/
def hyphenate (all : List Char) : List Char :=
  let group := fun start stop => (all.take stop).drop start
  group 0 8 ++ '-' :: group 8 12 ++ '-' :: group 12 16 ++ '-' :: group 16 20 ++
    '-' :: group 20 32

/-- The usual spelling. -/
def spell (id : Identifier) : List Char := hyphenate (digits id.toNat 32)

/-- The usual spelling. -/
def toText (id : Identifier) : String := String.ofList id.spell

/-- The number written by hexadecimal digits, read on from `n`. -/
def value? (n : Nat) : List Char → Option Nat
  | [] => some n
  | c :: r =>
    match Text.hexValue? c with
    | none => none
    | some d => value? (16 * n + d) r

/-- The identifier written by 32 digits. -/
def ofDigits? (all : List Char) : Option Identifier :=
  if all.length = 32 then (value? 0 all).map ofNat else none

/-- The identifier written in groups. -/
def ofGroups? (written : List Char) : Option Identifier :=
  let at? := fun i => written[i]?
  if written.length = 36 ∧ at? 8 = some '-' ∧ at? 13 = some '-' ∧ at? 18 = some '-' ∧
      at? 23 = some '-' then
    let group := fun start stop => (written.take stop).drop start
    ofDigits? (group 0 8 ++ group 9 13 ++ group 14 18 ++ group 19 23 ++ group 24 36)
  else none

/-- The name space that may stand in front of the usual spelling, in small letters. -/
def nameSpace : List Char := ['u', 'r', 'n', ':', 'u', 'u', 'i', 'd', ':']

/-- The identifier written in one of the accepted spellings. -/
def ofSpelling? (written : List Char) : Option Identifier :=
  match written with
  | '\x7b' :: inner =>
    if inner.getLast? = some '\x7d' then ofGroups? inner.dropLast else none
  | written =>
    if (written.take nameSpace.length).map Char.toLower = nameSpace then
      ofGroups? (written.drop nameSpace.length)
    else if written.length = 32 then ofDigits? written
    else ofGroups? written

/-- The identifier a text spells. -/
def ofText? (text : String) : Option Identifier := ofSpelling? text.toList

end Identifier

end LinkedNotes
