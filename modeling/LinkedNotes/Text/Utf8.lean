/-!
# UTF-8

Bytes read as characters. Reading stops at the first byte sequence that is not well formed, and
the fault says where it starts and how many bytes of it could still have begun a character.
-/

namespace LinkedNotes.Text.Utf8

/-- Why bytes are no UTF-8 text. -/
inductive Fault where
  /-- The `length` bytes at `index` begin no character. -/
  | malformed (length index : Nat)
  /-- The bytes end inside the character that starts at `index`. -/
  | incomplete (index : Nat)
  deriving DecidableEq, Repr

/-- The wording of a fault. -/
def Fault.message : Fault → String
  | .malformed length index => s!"invalid utf-8 sequence of {length} bytes from index {index}"
  | .incomplete index => s!"incomplete utf-8 byte sequence from index {index}"

/-- What the first byte of a character of several bytes says about the others. -/
structure Lead where
  /-- How many bytes follow. -/
  following : Nat
  /-- The bits the first byte contributes. -/
  bits : Nat
  /-- The least second byte: smaller ones would write the character longer than needed. -/
  low : UInt8
  /-- The greatest second byte: greater ones would write a surrogate or leave the code space. -/
  high : UInt8

/-- The first bytes of characters of several bytes. -/
def lead? (b : UInt8) : Option Lead :=
  if 0xc2 ≤ b ∧ b ≤ 0xdf then some ⟨1, b.toNat - 0xc0, 0x80, 0xbf⟩
  else if b = 0xe0 then some ⟨2, 0, 0xa0, 0xbf⟩
  else if b = 0xed then some ⟨2, 0xd, 0x80, 0x9f⟩
  else if 0xe1 ≤ b ∧ b ≤ 0xef then some ⟨2, b.toNat - 0xe0, 0x80, 0xbf⟩
  else if b = 0xf0 then some ⟨3, 0, 0x90, 0xbf⟩
  else if 0xf1 ≤ b ∧ b ≤ 0xf3 then some ⟨3, b.toNat - 0xf0, 0x80, 0xbf⟩
  else if b = 0xf4 then some ⟨3, 4, 0x80, 0x8f⟩
  else none

/-- A byte that continues a character. -/
def isContinuation (b : UInt8) : Bool := 0x80 ≤ b && b ≤ 0xbf

/-- Append the six bits of a continuation byte. -/
def extend (bits : Nat) (b : UInt8) : Nat := 64 * bits + (b.toNat - 0x80)

/-- The characters of the bytes, the first of which has the given index. -/
def decodeFrom (index : Nat) : List UInt8 → Except Fault (List Char)
  | [] => .ok []
  | b :: r =>
    if b < 0x80 then (Char.ofNat b.toNat :: ·) <$> decodeFrom (index + 1) r
    else
      match lead? b with
      | none => .error (.malformed 1 index)
      | some lead =>
        match r with
        | [] => .error (.incomplete index)
        | b₁ :: r =>
          let bits := extend lead.bits b₁
          if b₁ < lead.low ∨ lead.high < b₁ then .error (.malformed 1 index)
          else if lead.following = 1 then
            (Char.ofNat bits :: ·) <$> decodeFrom (index + 2) r
          else
            match r with
            | [] => .error (.incomplete index)
            | b₂ :: r =>
              let bits := extend bits b₂
              if !isContinuation b₂ then .error (.malformed 2 index)
              else if lead.following = 2 then
                (Char.ofNat bits :: ·) <$> decodeFrom (index + 3) r
              else
                match r with
                | [] => .error (.incomplete index)
                | b₃ :: r =>
                  if !isContinuation b₃ then .error (.malformed 3 index)
                  else (Char.ofNat (extend bits b₃) :: ·) <$> decodeFrom (index + 4) r

/-- The characters of the bytes. -/
def decode (bytes : List UInt8) : Except Fault (List Char) := decodeFrom 0 bytes

/-- The bytes of the characters. -/
def encode (text : List Char) : List UInt8 := text.flatMap String.utf8EncodeChar

end LinkedNotes.Text.Utf8
