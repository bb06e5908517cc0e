import LinkedNotes.Text.Character
import LinkedNotes.Time.Timestamp

/-!
# The spelling of timestamps

Timestamps are written as in `2026-01-31T09:30:00.125Z`, with no fraction or one of 3, 6 or 9
digits, whichever is the shortest exact one. Years of more or fewer than four digits have a sign. A
leap second has the number after that of the second it follows, so 60 as the last of a minute.

Reading is more liberal. It takes fewer digits than usual, blanks between the parts, a blank or a
small letter in place of `T`, any number of digits in a fraction, of which the first nine count,
and any offset from UTC of less than a day. No other leap seconds are read than those of number 60.
-/

namespace LinkedNotes.Time

/-! ## Writing -/

/-- Four digits, behind a sign when four digits alone would not do. -/
def writeYear (year : Int) : List Char :=
  if 0 ≤ year ∧ year ≤ 9999 then Text.decimalWide 4 year.toNat
  else (if year < 0 then '-' else '+') :: Text.decimalWide 4 year.natAbs

/-- The fraction of a second. -/
def writeFraction (nanosecond : Nat) : List Char :=
  if nanosecond = 0 then []
  else if nanosecond % 1000000 = 0 then '.' :: Text.decimalWide 3 (nanosecond / 1000000)
  else if nanosecond % 1000 = 0 then '.' :: Text.decimalWide 6 (nanosecond / 1000)
  else '.' :: Text.decimalWide 9 nanosecond

/-- A second with its fraction. -/
def writeSecond (second nanosecond : Nat) : List Char :=
  if nanosecond < 1000000000 then Text.decimalWide 2 second ++ writeFraction nanosecond
  else Text.decimalWide 2 (second + 1) ++ writeFraction (nanosecond - 1000000000)

/-- The spelling of a timestamp. -/
def Timestamp.spell (t : Timestamp) : List Char :=
  let two := Text.decimalWide 2
  writeYear t.date.year ++ '-' :: two t.date.month ++ '-' :: two t.date.day ++
    'T' :: two t.hour ++ ':' :: two t.minute ++ ':' :: writeSecond t.second t.nanosecond ++ ['Z']

/-! ## Reading -/

/-- Reads something from the front of a text, or fails. -/
abbrev Reader (α : Type) := StateT (List Char) Option α

namespace Reader

/-- Skip blanks. -/
def blanks : Reader Unit := fun text => some ((), Text.trimFront text)

/-- Read one of some characters. -/
def oneOf (allowed : List Char) : Reader Char
  | [] => none
  | c :: r => if c ∈ allowed then some (c, r) else none

/-- Read all ASCII digits that come next, at least one. -/
def digits : Reader (List Char) := fun text =>
  let found := text.takeWhile Text.isAsciiDigit
  if found = [] then none else some (found, text.drop found.length)

/-- Read at most `most` of the ASCII digits that come next, at least one. -/
def digitsUpTo (most : Nat) : Reader (List Char) := fun text =>
  let found := (text.takeWhile Text.isAsciiDigit).take most
  if found = [] then none else some (found, text.drop found.length)

/-- Skip blanks, then read a number of at most `most` digits. -/
def number (most : Nat) : Reader Nat := do
  blanks
  return Text.digitsValue (← digitsUpTo most)

/-- Skip blanks and read a separator. -/
def separator (c : Char) : Reader Unit := do
  blanks
  discard (oneOf [c])

/-- Read a year: any number of digits behind a sign, otherwise at most four. -/
def year : Reader Int := do
  blanks
  match (← get) with
  | '-' :: r =>
    set r
    return -(Text.digitsValue (← digits) : Int)
  | '+' :: r =>
    set r
    return (Text.digitsValue (← digits) : Int)
  | _ => return (Text.digitsValue (← digitsUpTo 4) : Int)

/-- Read a date. -/
def date : Reader Date := do
  let y ← year
  separator '-'
  let m ← number 2
  separator '-'
  let d ← number 2
  fun text => (Date.of? y m d).map fun date => (date, text)

/-- Read a fraction of a second, if there is one, in nanoseconds. -/
def fraction : Reader Nat := do
  match (← get) with
  | '.' :: r =>
    set r
    let found ← digits
    let counted := found.take 9
    return Text.digitsValue (counted ++ List.replicate (9 - counted.length) '0')
  | _ => return 0

/-- Read a second with its fraction, as the numbers of the second and of the nanosecond. -/
def second : Reader (Nat × Nat) := do
  let second ← number 2
  let nanosecond ← fraction
  return if second = 60 then (59, 1000000000 + nanosecond) else (second, nanosecond)

/-- Read exactly two digits. -/
def twoDigits : Reader Nat
  | a :: b :: r =>
    if Text.isAsciiDigit a ∧ Text.isAsciiDigit b then some (Text.digitsValue [a, b], r) else none
  | _ => none

/-- Read an offset from UTC in hours and minutes, with colons or blanks between or nothing. -/
def hoursAndMinutes : Reader Int := do
  let hours ← twoDigits
  modify (List.dropWhile fun c => c == ':' || Text.isBlank c)
  let minutes ← twoDigits
  if hours < 24 ∧ minutes < 60 then return (60 * hours + minutes : Int) else failure

/-- Read an offset from UTC in minutes. -/
def offset : Reader Int := do
  match (← get) with
  | 'Z' :: r | 'z' :: r =>
    set r
    return 0
  | '+' :: r =>
    set r
    hoursAndMinutes
  | '-' :: r | '−' :: r =>
    set r
    return -(← hoursAndMinutes)
  | u :: t :: c :: r =>
    if (u = 'U' ∨ u = 'u') ∧ (t = 'T' ∨ t = 't') ∧ (c = 'C' ∨ c = 'c') then
      set r
      return 0
    else failure
  | _ => failure

/-- Read a timestamp. -/
def timestamp : Reader Timestamp := do
  let date ← date
  discard (oneOf ['T', 't', ' '])
  let hour ← number 2
  separator ':'
  let minute ← number 2
  separator ':'
  let (second, nanosecond) ← second
  blanks
  let offset ← offset
  blanks
  fun text =>
    if IsTimeOfDay hour minute second nanosecond then
      (Timestamp.ofLocal? date hour minute second nanosecond offset).map fun t => (t, text)
    else none

end Reader

/-- The timestamp a text spells. -/
def Timestamp.ofSpelling? (text : List Char) : Option Timestamp :=
  match Reader.timestamp text with
  | some (t, []) => some t
  | _ => none

end LinkedNotes.Time
