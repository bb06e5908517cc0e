import LinkedNotes.Json.Value

/-!
# Reading JSON

The grammar of JSON, with nothing before or after a value but blanks. Every reader returns what
it has read and the rest of the text. The readers of values spend one step on each value, item
and member; a text has no more of these than characters.
-/

namespace LinkedNotes.Json

/-- Skip the blanks that JSON knows. -/
def skipBlanks (text : List Char) : List Char :=
  text.dropWhile fun c => c == ' ' || c == '\n' || c == '\t' || c == '\r'

/-! ## Strings -/

/-- What one character or escape of a string stands for. -/
inductive Piece where
  | char (c : Char)
  /-- A unit of UTF-16, given by its number. -/
  | unit (n : Nat)

/-- The number that four hexadecimal digits write. -/
def unit? (a b c d : Char) : Option Nat := do
  let a ← Text.hexValue? a
  let b ← Text.hexValue? b
  let c ← Text.hexValue? c
  let d ← Text.hexValue? d
  return 16 * (16 * (16 * a + b) + c) + d

/-- The character that a letter behind a backslash stands for. -/
def unescape? : Char → Option Char
  | '"' => some '"'
  | '\\' => some '\\'
  | '/' => some '/'
  | 'b' => some '\x08'
  | 'f' => some '\x0c'
  | 'n' => some '\n'
  | 'r' => some '\r'
  | 't' => some '\t'
  | _ => none

/-- The pieces of a string up to its closing quote. -/
def pieces? : List Char → Option (List Piece × List Char)
  | [] => none
  | '"' :: r => some ([], r)
  | '\\' :: 'u' :: a :: b :: c :: d :: r => do
    let n ← unit? a b c d
    let (rest, r) ← pieces? r
    return (.unit n :: rest, r)
  | '\\' :: e :: r => do
    let c ← unescape? e
    let (rest, r) ← pieces? r
    return (.char c :: rest, r)
  | c :: r =>
    if c.toNat < 0x20 ∨ c = '\\' then none
    else do
      let (rest, r) ← pieces? r
      return (.char c :: rest, r)

/-- The text that pieces stand for, unless there is half a surrogate pair among them. -/
def join? : List Piece → Option (List Char)
  | [] => some []
  | .char c :: r => (join? r).map (c :: ·)
  | .unit n :: r =>
    if n < 0xd800 ∨ 0xdfff < n then (join? r).map (Char.ofNat n :: ·)
    else if 0xdc00 ≤ n then none
    else
      match r with
      | .unit m :: r =>
        if 0xdc00 ≤ m ∧ m ≤ 0xdfff then
          (join? r).map (Char.ofNat (0x10000 + 0x400 * (n - 0xd800) + (m - 0xdc00)) :: ·)
        else none
      | _ => none

/-- A string behind its opening quote. -/
def string? (text : List Char) : Option (Option (List Char) × List Char) := do
  let (found, rest) ← pieces? text
  return (join? found, rest)

/-! ## Numbers -/

/-- The digits at the front of a text, at least one. -/
def digits? (text : List Char) : Option (List Char × List Char) :=
  let found := text.takeWhile Text.isAsciiDigit
  if found = [] then none else some (found, text.dropWhile Text.isAsciiDigit)

/-- The whole part of a number: a zero alone, or digits of which the first is none. -/
def whole? : List Char → Option (List Char × List Char)
  | '0' :: r =>
    match r with
    | c :: _ => if Text.isAsciiDigit c then none else some (['0'], r)
    | [] => some (['0'], [])
  | text => digits? text

/-- The fraction of a number, which may be missing. -/
def fraction? : List Char → Option (List Char × List Char)
  | '.' :: r => (digits? r).map fun (found, rest) => ('.' :: found, rest)
  | text => some ([], text)

/-- The exponent of a number, which may be missing. -/
def exponent? (text : List Char) : Option (List Char × List Char) :=
  match text with
  | e :: r =>
    if e = 'e' ∨ e = 'E' then
      match r with
      | s :: r' =>
        if s = '+' ∨ s = '-' then (digits? r').map fun (found, rest) => (e :: s :: found, rest)
        else (digits? r).map fun (found, rest) => (e :: found, rest)
      | [] => none
    else some ([], text)
  | [] => some ([], [])

/-- A number without its sign. -/
def unsigned? (text : List Char) : Option (List Char × List Char) := do
  let (whole, text) ← whole? text
  let (fraction, text) ← fraction? text
  let (exponent, text) ← exponent? text
  return (whole ++ fraction ++ exponent, text)

/-- A number. -/
def number? : List Char → Option (List Char × List Char)
  | '-' :: r => (unsigned? r).map fun (found, rest) => ('-' :: found, rest)
  | text => unsigned? text

/-! ## Values -/

mutual

/-- A value, blanks before it skipped. -/
def value? : Nat → List Char → Option (Value × List Char)
  | 0, _ => none
  | steps + 1, text =>
    match skipBlanks text with
    | 'n' :: 'u' :: 'l' :: 'l' :: r => some (.null, r)
    | 't' :: 'r' :: 'u' :: 'e' :: r => some (.bool true, r)
    | 'f' :: 'a' :: 'l' :: 's' :: 'e' :: r => some (.bool false, r)
    | '"' :: r => (string? r).map fun (text, rest) => (.string text, rest)
    | '[' :: r =>
      match skipBlanks r with
      | ']' :: r => some (.array [], r)
      | r => do
        let (item, r) ← value? steps r
        let (rest, r) ← items? steps r
        return (.array (item :: rest), r)
    | '\x7b' :: r =>
      match skipBlanks r with
      | '\x7d' :: r => some (.object [], r)
      | r => do
        let (first, r) ← member? steps r
        let (rest, r) ← members? steps r
        return (.object (first :: rest), r)
    | text => (number? text).map fun (spelling, rest) => (.number spelling, rest)

/-- The rest of an array behind one of its items. -/
def items? : Nat → List Char → Option (List Value × List Char)
  | 0, _ => none
  | steps + 1, text =>
    match skipBlanks text with
    | ']' :: r => some ([], r)
    | ',' :: r => do
      let (item, r) ← value? steps r
      let (rest, r) ← items? steps r
      return (item :: rest, r)
    | _ => none

/-- A member of an object. -/
def member? : Nat → List Char → Option ((Option (List Char) × Value) × List Char)
  | 0, _ => none
  | steps + 1, text =>
    match skipBlanks text with
    | '"' :: r => do
      let (name, r) ← string? r
      match skipBlanks r with
      | ':' :: r => do
        let (value, r) ← value? steps r
        return ((name, value), r)
      | _ => none
    | _ => none

/-- The rest of an object behind one of its members. -/
def members? : Nat → List Char → Option (List (Option (List Char) × Value) × List Char)
  | 0, _ => none
  | steps + 1, text =>
    match skipBlanks text with
    | '\x7d' :: r => some ([], r)
    | ',' :: r => do
      let (first, r) ← member? steps r
      let (rest, r) ← members? steps r
      return (first :: rest, r)
    | _ => none

end

/-- The value that a text writes. -/
def read? (text : List Char) : Option Value :=
  match value? (2 * text.length + 2) text with
  | some (value, rest) => if skipBlanks rest = [] then some value else none
  | none => none

end LinkedNotes.Json
