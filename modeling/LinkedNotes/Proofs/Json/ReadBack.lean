import LinkedNotes.Json.Printer
import LinkedNotes.Json.Reader
import LinkedNotes.Proofs.Text.Decimal

/-!
# Written JSON read back

Each part of a written value is read back whatever follows it: a character of a string, a string, a
number (`Closed` says what may follow a number), an item, a member. So the whole value is, if it
holds whole numbers only and every string in it has a text (`read?_write`). A step of the reader
takes a character at least, so the length of what was written bounds the steps.
-/

namespace LinkedNotes.Json

/-! ## Strings -/

/-- The escape of a control character is read as its number. -/
lemma unit?_control {n : Nat} (h : n < 0x20) :
    unit? '0' '0' (Text.hexDigit (n / 16)) (Text.hexDigit (n % 16)) = some n := by
  have hzero : Text.hexValue? '0' = some 0 := rfl
  have hvalue : 16 * (16 * (16 * 0 + 0) + n / 16) + n % 16 = n := by omega
  rw [unit?, hzero, Text.hexValue?_hexDigit (by omega), Text.hexValue?_hexDigit (by omega)]
  exact congrArg some hvalue

/-- Put a piece in front of what was found. -/
def consPiece (piece : Piece) (found : List Piece × List Char) : List Piece × List Char :=
  (piece :: found.1, found.2)

lemma pieces?_short {e c : Char} (he : e ≠ 'u') (h : unescape? e = some c) (text : List Char) :
    pieces? ('\\' :: e :: text) = (pieces? text).map (consPiece (.char c)) := by
  rw [pieces?, h]
  · cases pieces? text <;> rfl
  · intro a b c d r heq
    exact absurd heq he

lemma pieces?_unit {a b c d : Char} {n : Nat} (h : unit? a b c d = some n) (text : List Char) :
    pieces? ('\\' :: 'u' :: a :: b :: c :: d :: text) =
      (pieces? text).map (consPiece (.unit n)) := by
  rw [pieces?, h]
  cases pieces? text <;> rfl

lemma pieces?_plain {c : Char} (hquote : c ≠ '"') (hbackslash : c ≠ '\\') (h : ¬c.toNat < 0x20)
    (text : List Char) : pieces? (c :: text) = (pieces? text).map (consPiece (.char c)) := by
  rw [pieces?.eq_def]
  split
  · next heq => exact absurd heq (List.cons_ne_nil _ _)
  · next heq => exact absurd (List.cons.inj heq).1 hquote
  · next heq => exact absurd (List.cons.inj heq).1 hbackslash
  · next heq => exact absurd (List.cons.inj heq).1 hbackslash
  · next heq =>
    obtain ⟨rfl, rfl⟩ := List.cons.inj heq
    rw [if_neg (fun hc => hc.elim h hbackslash)]
    cases pieces? text <;> rfl

/-- A written character is read as one piece, which stands for it. -/
lemma exists_pieces?_escape_append (c : Char) : ∃ piece,
    (∀ text, pieces? (escape c ++ text) = (pieces? text).map (consPiece piece)) ∧
    ∀ rest, join? (piece :: rest) = (join? rest).map (c :: ·) := by
  unfold escape
  split
  · exact ⟨.char '"', pieces?_short (by decide) rfl, fun _ => rfl⟩
  · exact ⟨.char '\\', pieces?_short (by decide) rfl, fun _ => rfl⟩
  · exact ⟨.char '\x08', pieces?_short (by decide) rfl, fun _ => rfl⟩
  · exact ⟨.char '\x0c', pieces?_short (by decide) rfl, fun _ => rfl⟩
  · exact ⟨.char '\n', pieces?_short (by decide) rfl, fun _ => rfl⟩
  · exact ⟨.char '\r', pieces?_short (by decide) rfl, fun _ => rfl⟩
  · exact ⟨.char '\t', pieces?_short (by decide) rfl, fun _ => rfl⟩
  · next hquote hbackslash _ _ _ _ _ =>
    split
    · next hcontrol =>
      refine ⟨.unit c.toNat, pieces?_unit (unit?_control hcontrol), fun rest => ?_⟩
      rw [join?.eq_def]
      dsimp only
      rw [if_pos (Or.inl (by omega)), Char.ofNat_toNat]
    · next hplain => exact ⟨.char c, pieces?_plain hquote hbackslash hplain, fun _ => rfl⟩

/-- A written string is read up to its closing quote, as pieces that stand for it. -/
lemma exists_pieces?_flatMap_escape (text rest : List Char) :
    ∃ found, pieces? (text.flatMap escape ++ '"' :: rest) = some (found, rest) ∧
      join? found = some text := by
  induction text with
  | nil => exact ⟨[], by rw [List.flatMap_nil, List.nil_append, pieces?], rfl⟩
  | cons c text ih =>
    obtain ⟨found, hfound, hjoin⟩ := ih
    obtain ⟨piece, hpiece, hstands⟩ := exists_pieces?_escape_append c
    refine ⟨piece :: found, ?_, ?_⟩
    · rw [List.flatMap_cons, List.append_assoc, hpiece, hfound]
      rfl
    · rw [hstands, hjoin]
      rfl

/-- A string is read back behind its opening quote. -/
theorem string?_flatMap_escape (text rest : List Char) :
    string? (text.flatMap escape ++ '"' :: rest) = some (some text, rest) := by
  obtain ⟨found, hfound, hjoin⟩ := exists_pieces?_flatMap_escape text rest
  rw [string?, hfound, ← hjoin]
  rfl

/-! ## Numbers -/

/-- The rest of a text ends the value in front of it: there is none, or it goes on with a comma or
a closing bracket. -/
def Closed (rest : List Char) : Prop := ∀ c ∈ rest.head?, c = ',' ∨ c = ']' ∨ c = '\x7d'

lemma closed_nil : Closed [] := fun _ h => nomatch h

lemma closed_cons {c : Char} (h : c = ',' ∨ c = ']' ∨ c = '\x7d') (rest : List Char) :
    Closed (c :: rest) := by
  intro d hd
  exact Option.some.inj hd ▸ h

/-- Digits in front of a text that goes on otherwise are all the digits there. -/
lemma digits?_append {digits rest : List Char} (hne : digits ≠ [])
    (hdigits : ∀ c ∈ digits, Text.isAsciiDigit c = true)
    (hrest : ∀ c ∈ rest.head?, Text.isAsciiDigit c = false) :
    digits? (digits ++ rest) = some (digits, rest) := by
  have htake : rest.takeWhile Text.isAsciiDigit = [] ∧ rest.dropWhile Text.isAsciiDigit = rest := by
    cases rest with
    | nil => exact ⟨rfl, rfl⟩
    | cons c r =>
      have hc := hrest c rfl
      simp [hc]
  rw [digits?, List.takeWhile_append_of_pos hdigits, List.dropWhile_append_of_pos hdigits, htake.1,
    htake.2, List.append_nil]
  exact if_neg hne

section Closed

variable {rest : List Char}

lemma Closed.isAsciiDigit_eq (h : Closed rest) :
    ∀ c ∈ rest.head?, Text.isAsciiDigit c = false := by
  intro c hc
  rcases h c hc with rfl | rfl | rfl <;> rfl

lemma fraction?_of_closed (h : Closed rest) : fraction? rest = some ([], rest) := by
  rw [fraction?.eq_def]
  split
  · exact absurd (h '.' rfl) (by decide)
  · rfl

lemma exponent?_of_closed (h : Closed rest) : exponent? rest = some ([], rest) := by
  cases rest with
  | nil => rfl
  | cons c r =>
    refine if_neg ?_
    rcases h c rfl with rfl | rfl | rfl <;> decide

lemma whole?_decimal_append (n : Nat) (h : Closed rest) :
    whole? (Text.decimal n ++ rest) = some (Text.decimal n, rest) := by
  by_cases hzero : n = 0
  · subst hzero
    have hdigits : Text.decimal 0 = ['0'] := rfl
    rw [hdigits, List.singleton_append]
    cases rest with
    | nil => rfl
    | cons c r =>
      have hc := h.isAsciiDigit_eq c rfl
      rw [whole?]
      simp [hc]
  · obtain ⟨c, r, heq, hc⟩ := Text.exists_decimal_eq_cons_of_pos (Nat.pos_of_ne_zero hzero)
    have hdigits := digits?_append (Text.decimal_ne_nil n)
      (fun c => Text.isAsciiDigit_of_mem_decimal) h.isAsciiDigit_eq
    rw [heq] at hdigits ⊢
    rw [List.cons_append, whole?.eq_def]
    split
    · next heq => exact absurd (List.cons.inj heq).1 hc
    · exact hdigits

/-- A whole number is read back in front of what ends it. -/
theorem number?_decimal_append (n : Nat) (h : Closed rest) :
    number? (Text.decimal n ++ rest) = some (Text.decimal n, rest) := by
  have hunsigned : unsigned? (Text.decimal n ++ rest) = some (Text.decimal n, rest) := by
    rw [unsigned?, whole?_decimal_append n h]
    dsimp only [Option.bind_eq_bind, Option.bind_some]
    rw [fraction?_of_closed h]
    dsimp only [Option.bind_some]
    rw [exponent?_of_closed h]
    simp
  rw [number?.eq_def]
  split
  · next heq =>
    -- no digit is a sign
    obtain ⟨c, r, hcons, hdigit⟩ := Text.exists_decimal_eq_cons n
    rw [hcons, List.cons_append] at heq
    rw [(List.cons.inj heq).1] at hdigit
    exact absurd hdigit (by decide)
  · exact hunsigned

end Closed

/-! ## Values -/

/-- The text of a member of an object. -/
def writeMember (m : Option (List Char) × Value) : List Char :=
  writeString m.1 ++ ':' :: write m.2

lemma writeString_some (text : List Char) :
    writeString (some text) = '"' :: (text.flatMap escape ++ ['"']) := rfl

lemma write_number (spelling : List Char) : write (.number spelling) = spelling := rfl

lemma write_string (text : Option (List Char)) : write (.string text) = writeString text := rfl

lemma write_array_cons (item : Value) (rest : List Value) :
    write (.array (item :: rest)) = '[' :: (write item ++ writeItems rest) := rfl

lemma writeItems_cons (item : Value) (rest : List Value) :
    writeItems (item :: rest) = ',' :: (write item ++ writeItems rest) := rfl

lemma write_object_cons (m : Option (List Char) × Value)
    (rest : List (Option (List Char) × Value)) :
    write (.object (m :: rest)) = '\x7b' :: (writeMember m ++ writeMembers rest) := by
  simp [write, writeMember]

lemma writeMembers_cons (m : Option (List Char) × Value)
    (rest : List (Option (List Char) × Value)) :
    writeMembers (m :: rest) = ',' :: (writeMember m ++ writeMembers rest) := by
  simp [writeMembers, writeMember]

/-- A value that is read back from what is written: its numbers are whole, and its strings and the
names of its members have texts. -/
inductive Plain : Value → Prop
  | null : Plain .null
  | bool (b : Bool) : Plain (.bool b)
  | number (n : Nat) : Plain (.number (Text.decimal n))
  | string (text : List Char) : Plain (.string (some text))
  | array {items : List Value} (items_plain : ∀ item ∈ items, Plain item) : Plain (.array items)
  | object {members : List (Option (List Char) × Value)}
    (names_some : ∀ m ∈ members, m.1.isSome = true) (values_plain : ∀ m ∈ members, Plain m.2) :
    Plain (.object members)

/-- The character is none that is skipped in front of a value, and does not close an array. -/
def IsStart (c : Char) : Prop := c ∉ [' ', '\n', '\t', '\r', ']']

instance (c : Char) : Decidable (IsStart c) := by
  unfold IsStart
  infer_instance

lemma notMem_of_isAsciiDigit {c : Char} {others : List Char} (h : Text.isAsciiDigit c = true)
    (hothers : others.any Text.isAsciiDigit = false) : c ∉ others :=
  fun hmem => List.any_eq_false.1 hothers c hmem h

lemma isStart_of_isAsciiDigit {c : Char} (h : Text.isAsciiDigit c = true) : IsStart c :=
  notMem_of_isAsciiDigit h rfl

/-- No blank is in front of a written value, and none is taken for the end of an array. -/
lemma exists_write_eq_cons {v : Value} (h : Plain v) : ∃ c r, write v = c :: r ∧ IsStart c := by
  cases h with
  | null => exact ⟨'n', _, rfl, by decide⟩
  | bool b =>
    cases b with
    | false => exact ⟨'f', _, rfl, by decide⟩
    | true => exact ⟨'t', _, rfl, by decide⟩
  | number n =>
    obtain ⟨c, r, hcons, hdigit⟩ := Text.exists_decimal_eq_cons n
    exact ⟨c, r, hcons, isStart_of_isAsciiDigit hdigit⟩
  | string text => exact ⟨'"', _, rfl, by decide⟩
  | @array items _ =>
    cases items with
    | nil => exact ⟨'[', _, rfl, by decide⟩
    | cons item rest => exact ⟨'[', _, rfl, by decide⟩
  | @object members _ _ =>
    cases members with
    | nil => exact ⟨'\x7b', _, rfl, by decide⟩
    | cons m rest => exact ⟨'\x7b', _, write_object_cons m rest, by decide⟩

/-- Something is written for a value, so there is a step to read it. -/
lemma exists_steps {v : Value} (h : Plain v) {steps : Nat} (hsteps : (write v).length ≤ steps) :
    ∃ left, steps = left + 1 := by
  obtain ⟨c, r, hcons, -⟩ := exists_write_eq_cons h
  rw [hcons, List.length_cons] at hsteps
  exact ⟨steps - 1, by omega⟩

lemma skipBlanks_cons {c : Char} (h : IsStart c) (r : List Char) :
    skipBlanks (c :: r) = c :: r := by
  unfold IsStart at h
  simp only [List.mem_cons, List.not_mem_nil, or_false, not_or] at h
  obtain ⟨hspace, hline, htab, hreturn, -⟩ := h
  simp [skipBlanks, hspace, hline, htab, hreturn]

/-! A step of each reader, given what the steps after it find. -/

section Steps

variable {steps : Nat} {text rest rest' : List Char} {item : Value} {items : List Value}
  {m : Option (List Char) × Value} {members : List (Option (List Char) × Value)}

lemma items?_close : items? (steps + 1) (']' :: text) = some ([], text) := rfl

lemma items?_comma (hitem : value? steps text = some (item, rest))
    (hitems : items? steps rest = some (items, rest')) :
    items? (steps + 1) (',' :: text) = some (item :: items, rest') := by
  simp [items?, skipBlanks, hitem, hitems]

lemma member?_colon {name : Option (List Char)} (hname : string? text = some (name, ':' :: rest))
    (hitem : value? steps rest = some (item, rest')) :
    member? (steps + 1) ('"' :: text) = some ((name, item), rest') := by
  simp [member?, skipBlanks, hname, hitem]

lemma members?_close : members? (steps + 1) ('\x7d' :: text) = some ([], text) := rfl

lemma members?_comma (hmember : member? steps text = some (m, rest))
    (hmembers : members? steps rest = some (members, rest')) :
    members? (steps + 1) (',' :: text) = some (m :: members, rest') := by
  simp [members?, skipBlanks, hmember, hmembers]

lemma value?_string {found : Option (List Char)} (h : string? text = some (found, rest)) :
    value? (steps + 1) ('"' :: text) = some (.string found, rest) := by
  simp [value?, skipBlanks, h]

lemma value?_array {c : Char} (hc : IsStart c)
    (hitem : value? steps (c :: text) = some (item, rest))
    (hitems : items? steps rest = some (items, rest')) :
    value? (steps + 1) ('[' :: c :: text) = some (.array (item :: items), rest') := by
  have hclose : c ≠ ']' := fun h => absurd (h ▸ hc) (by decide)
  simp [value?, skipBlanks_cons hc, skipBlanks_cons (c := '[') (by decide), hclose, hitem, hitems]

lemma value?_object (hmember : member? steps ('"' :: text) = some (m, rest))
    (hmembers : members? steps rest = some (members, rest')) :
    value? (steps + 1) ('\x7b' :: '"' :: text) = some (.object (m :: members), rest') := by
  simp [value?, skipBlanks, hmember, hmembers]

lemma value?_digit {c : Char} {spelling : List Char} (hc : Text.isAsciiDigit c = true)
    (h : number? (c :: text) = some (spelling, rest)) :
    value? (steps + 1) (c :: text) = some (.number spelling, rest) := by
  have hother : c ∉ ['n', 't', 'f', '"', '[', '\x7b'] := notMem_of_isAsciiDigit hc rfl
  simp only [List.mem_cons, List.not_mem_nil, or_false, not_or] at hother
  obtain ⟨hn, ht, hf, hquote, hbracket, hbrace⟩ := hother
  simp [value?, skipBlanks_cons (isStart_of_isAsciiDigit hc), hn, ht, hf, hquote, hbracket, hbrace,
    h]

end Steps

/-- The value is read back in front of what ends it, in as many steps as it has characters. -/
def ReadsBack (v : Value) : Prop :=
  ∀ steps rest, (write v).length ≤ steps → Closed rest →
    value? steps (write v ++ rest) = some (v, rest)

section Items

variable {items : List Value}

lemma closed_writeItems (items : List Value) (rest : List Char) :
    Closed (writeItems items ++ rest) := by
  cases items with
  | nil => exact closed_cons (by decide) _
  | cons item r => exact closed_cons (by decide) _

lemma items?_writeItems (h : ∀ item ∈ items, ReadsBack item) (steps : Nat) (rest : List Char)
    (hsteps : (writeItems items).length ≤ steps) :
    items? steps (writeItems items ++ rest) = some (items, rest) := by
  induction items generalizing steps with
  | nil =>
    obtain ⟨steps, rfl⟩ := Nat.exists_eq_succ_of_ne_zero (Nat.ne_of_gt hsteps)
    exact items?_close
  | cons item r ih =>
    rw [writeItems_cons, List.length_cons, List.length_append] at hsteps
    obtain ⟨steps, rfl⟩ := Nat.exists_eq_succ_of_ne_zero (n := steps) (by omega)
    have hitem := h item List.mem_cons_self steps (writeItems r ++ rest) (by omega)
      (closed_writeItems r rest)
    have hitems := ih (fun other hother => h other (List.mem_cons_of_mem _ hother)) steps (by omega)
    rw [writeItems_cons, List.cons_append, List.append_assoc]
    exact items?_comma hitem hitems

lemma readsBack_array (hplain : ∀ item ∈ items, Plain item) (h : ∀ item ∈ items, ReadsBack item) :
    ReadsBack (.array items) := by
  intro steps rest hsteps _
  obtain ⟨steps, rfl⟩ := exists_steps (.array hplain) hsteps
  cases items with
  | nil => rfl
  | cons item r =>
    rw [write_array_cons, List.length_cons, List.length_append] at hsteps
    have hitem := h item List.mem_cons_self steps (writeItems r ++ rest) (by omega)
      (closed_writeItems r rest)
    have hitems := items?_writeItems (fun other hother => h other (List.mem_cons_of_mem _ hother))
      steps rest (by omega)
    obtain ⟨c, front, hfront, hc⟩ := exists_write_eq_cons (hplain item List.mem_cons_self)
    rw [hfront, List.cons_append] at hitem
    rw [write_array_cons, List.cons_append, List.append_assoc, hfront, List.cons_append]
    exact value?_array hc hitem hitems

end Items

section Members

variable {members : List (Option (List Char) × Value)}

lemma closed_writeMembers (members : List (Option (List Char) × Value)) (rest : List Char) :
    Closed (writeMembers members ++ rest) := by
  cases members with
  | nil => exact closed_cons (by decide) _
  | cons m r =>
    rw [writeMembers_cons]
    exact closed_cons (by decide) _

/-- The name of a member is written as a string. -/
lemma writeMember_some (name : List Char) (v : Value) :
    writeMember (some name, v) = '"' :: (name.flatMap escape ++ '"' :: ':' :: write v) := by
  simp [writeMember, writeString_some]

lemma member?_writeMember {m : Option (List Char) × Value} (hname : m.1.isSome = true)
    (h : ReadsBack m.2) (steps : Nat) {rest : List Char}
    (hsteps : (writeMember m).length ≤ steps) (hrest : Closed rest) :
    member? steps (writeMember m ++ rest) = some (m, rest) := by
  obtain ⟨name, v⟩ := m
  cases name with
  | none => exact absurd hname Bool.false_ne_true
  | some name =>
    rw [writeMember_some] at hsteps ⊢
    simp only [List.length_append, List.length_cons] at hsteps
    obtain ⟨steps, rfl⟩ := Nat.exists_eq_succ_of_ne_zero (n := steps) (by omega)
    have hvalue : value? steps (write v ++ rest) = some (v, rest) :=
      h steps rest (show (write v).length ≤ steps by omega) hrest
    rw [List.cons_append, List.append_assoc]
    exact member?_colon (string?_flatMap_escape name _) hvalue

lemma members?_writeMembers (hnames : ∀ m ∈ members, m.1.isSome = true)
    (h : ∀ m ∈ members, ReadsBack m.2) (steps : Nat) (rest : List Char)
    (hsteps : (writeMembers members).length ≤ steps) :
    members? steps (writeMembers members ++ rest) = some (members, rest) := by
  induction members generalizing steps with
  | nil =>
    obtain ⟨steps, rfl⟩ := Nat.exists_eq_succ_of_ne_zero (Nat.ne_of_gt hsteps)
    exact members?_close
  | cons m r ih =>
    rw [writeMembers_cons, List.length_cons, List.length_append] at hsteps
    obtain ⟨steps, rfl⟩ := Nat.exists_eq_succ_of_ne_zero (n := steps) (by omega)
    have hmember := member?_writeMember (hnames m List.mem_cons_self) (h m List.mem_cons_self)
      steps (by omega) (closed_writeMembers r rest)
    have hmembers := ih (fun other hother => hnames other (List.mem_cons_of_mem _ hother))
      (fun other hother => h other (List.mem_cons_of_mem _ hother)) steps (by omega)
    rw [writeMembers_cons, List.cons_append, List.append_assoc]
    exact members?_comma hmember hmembers

lemma readsBack_object (hnames : ∀ m ∈ members, m.1.isSome = true)
    (hplain : ∀ m ∈ members, Plain m.2) (h : ∀ m ∈ members, ReadsBack m.2) :
    ReadsBack (.object members) := by
  intro steps rest hsteps _
  obtain ⟨steps, rfl⟩ := exists_steps (.object hnames hplain) hsteps
  cases members with
  | nil => rfl
  | cons m r =>
    rw [write_object_cons, List.length_cons, List.length_append] at hsteps
    have hmember := member?_writeMember (hnames m List.mem_cons_self) (h m List.mem_cons_self)
      steps (by omega) (closed_writeMembers r rest)
    have hmembers := members?_writeMembers
      (fun other hother => hnames other (List.mem_cons_of_mem _ hother))
      (fun other hother => h other (List.mem_cons_of_mem _ hother)) steps rest (by omega)
    rw [write_object_cons, List.cons_append, List.append_assoc]
    obtain ⟨name, v⟩ := m
    cases name with
    | none => exact absurd (hnames _ List.mem_cons_self) Bool.false_ne_true
    | some name =>
      rw [writeMember_some, List.cons_append] at hmember ⊢
      exact value?_object hmember hmembers

end Members

/-- A plain value is read back in front of what ends it. -/
theorem readsBack_of_plain {v : Value} (h : Plain v) : ReadsBack v := by
  induction h with
  | null =>
    intro steps rest hsteps _
    obtain ⟨steps, rfl⟩ := exists_steps .null hsteps
    rfl
  | bool b =>
    intro steps rest hsteps _
    obtain ⟨steps, rfl⟩ := exists_steps (.bool b) hsteps
    cases b <;> rfl
  | number n =>
    intro steps rest hsteps hrest
    obtain ⟨steps, rfl⟩ := exists_steps (.number n) hsteps
    have hnumber := number?_decimal_append n hrest
    obtain ⟨c, r, hcons, hdigit⟩ := Text.exists_decimal_eq_cons n
    rw [write_number]
    rw [hcons, List.cons_append] at hnumber ⊢
    exact value?_digit hdigit hnumber
  | string text =>
    intro steps rest hsteps _
    obtain ⟨steps, rfl⟩ := exists_steps (.string text) hsteps
    rw [write_string, writeString_some, List.cons_append, List.append_assoc]
    exact value?_string (string?_flatMap_escape text rest)
  | array hplain ih => exact readsBack_array hplain ih
  | object hnames hplain ih => exact readsBack_object hnames hplain ih

/-- A plain value is read back from its text. -/
theorem read?_write {v : Value} (h : Plain v) : read? (write v) = some v := by
  have hread := readsBack_of_plain h (2 * (write v).length + 2) [] (by omega) closed_nil
  rw [List.append_nil] at hread
  rw [read?, hread]
  rfl

end LinkedNotes.Json
