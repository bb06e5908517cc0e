import LinkedNotes.Proofs.Text.Decimal
import LinkedNotes.Time.Spelling

/-!
# Timestamps read back

Every number in the spelling of a timestamp but the year has as many digits as the reader takes at
most, so the reader stops where the writer did, and the fraction is filled up with the zeros that
were left out. So the timestamp is read back, if no leap second of it stands within a minute: that
is written as the second behind it, and read as that. No text is read as such a leap second.
-/

namespace LinkedNotes.Time

open Text (isAsciiDigit isBlank digitsValue decimalWide)

namespace Reader

variable {α β : Type} {text rest : List Char}

/-- What is read next is read from what was left. -/
lemma bind_eq {first : Reader α} {a : α} (h : first text = some (a, rest)) (next : α → Reader β) :
    (first >>= next) text = next a rest := by
  change (first text).bind (fun found => next found.1 found.2) = next a rest
  rw [h, Option.bind_some]

lemma get_bind (next : List Char → Reader β) (text : List Char) :
    (get >>= next) text = next text text := rfl

/-! ## Numbers -/

lemma blanks_cons {c : Char} (h : isBlank c = false) (rest : List Char) :
    blanks (c :: rest) = some ((), c :: rest) := by
  rw [blanks, Text.trimFront, List.dropWhile_cons_of_neg (by rw [h]; decide)]

lemma blanks_decimalWide (width n : Nat) (rest : List Char) :
    blanks (decimalWide width n ++ rest) = some ((), decimalWide width n ++ rest) := by
  obtain ⟨c, r, hcons, hdigit⟩ := Text.exists_decimalWide_eq_cons width n
  rw [hcons, List.cons_append]
  exact blanks_cons (Text.isBlank_of_isAsciiDigit hdigit) _

/-- As many digits as are taken at most are taken, whatever follows. -/
lemma digitsUpTo_decimalWide {most n : Nat} (hmost : 0 < most) (h : n < 10 ^ most)
    (rest : List Char) :
    digitsUpTo most (decimalWide most n ++ rest) = some (decimalWide most n, rest) := by
  have hlength := Text.length_decimalWide hmost h
  have htaken : ((decimalWide most n ++ rest).takeWhile isAsciiDigit).take most =
      decimalWide most n := by
    rw [List.takeWhile_append_of_pos fun c hc => Text.isAsciiDigit_of_mem_decimalWide hc,
      List.take_append_of_le_length (Nat.le_of_eq hlength.symm),
      List.take_of_length_le (Nat.le_of_eq hlength)]
  rw [digitsUpTo, htaken, if_neg (Text.decimalWide_ne_nil most n), List.drop_left]

/-- All digits are taken up to a character that is none. -/
lemma digits_decimalWide (width n : Nat) {c : Char} (h : isAsciiDigit c = false)
    (rest : List Char) :
    digits (decimalWide width n ++ c :: rest) = some (decimalWide width n, c :: rest) := by
  have htaken : (decimalWide width n ++ c :: rest).takeWhile isAsciiDigit =
      decimalWide width n := by
    rw [List.takeWhile_append_of_pos fun c hc => Text.isAsciiDigit_of_mem_decimalWide hc,
      List.takeWhile_cons_of_neg (by rw [h]; decide), List.append_nil]
  rw [digits, htaken, if_neg (Text.decimalWide_ne_nil width n), List.drop_left]

/-- A number of two digits, as months, days, hours, minutes and seconds are. -/
lemma number_two {n : Nat} (h : n < 100) (rest : List Char) :
    number 2 (decimalWide 2 n ++ rest) = some (n, rest) := by
  rw [number, bind_eq (blanks_decimalWide 2 n rest),
    bind_eq (digitsUpTo_decimalWide (by decide) h rest), Text.digitsValue_decimalWide]
  rfl

lemma oneOf_cons {allowed : List Char} {c : Char} (h : c ∈ allowed) (rest : List Char) :
    discard (oneOf allowed) (c :: rest) = some ((), rest) := by
  have htaken : oneOf allowed (c :: rest) = some (c, rest) := by
    rw [oneOf, if_pos h]
  exact bind_eq htaken fun _ => pure PUnit.unit

lemma separator_cons {c : Char} (h : isBlank c = false) (rest : List Char) :
    separator c (c :: rest) = some ((), rest) := by
  rw [separator, bind_eq (blanks_cons h rest)]
  exact oneOf_cons List.mem_cons_self rest

/-! ## Dates -/

section Year

variable {r found : List Char}

lemma year_unsigned {c : Char} (hdigit : isAsciiDigit c = true)
    (h : digitsUpTo 4 (c :: r) = some (found, rest)) :
    year (c :: r) = some ((digitsValue found : Int), rest) := by
  have hvalue : (digitsUpTo 4 >>= fun found => pure (digitsValue found : Int)) (c :: r) =
      some ((digitsValue found : Int), rest) := bind_eq h _
  rw [year, bind_eq (blanks_cons (Text.isBlank_of_isAsciiDigit hdigit) r), get_bind, ← hvalue]
  refine congrFun ?_ (c :: r)
  split
  · next heq =>
    rw [(List.cons.inj heq).1] at hdigit
    exact absurd hdigit (by decide)
  · next heq =>
    rw [(List.cons.inj heq).1] at hdigit
    exact absurd hdigit (by decide)
  · rfl

lemma year_minus (h : digits r = some (found, rest)) :
    year ('-' :: r) = some (-(digitsValue found : Int), rest) := by
  rw [year, bind_eq (blanks_cons (by decide) r), get_bind]
  change (digits >>= fun found => pure (-(digitsValue found : Int))) r = _
  rw [bind_eq h]
  rfl

lemma year_plus (h : digits r = some (found, rest)) :
    year ('+' :: r) = some ((digitsValue found : Int), rest) := by
  rw [year, bind_eq (blanks_cons (by decide) r), get_bind]
  change (digits >>= fun found => pure (digitsValue found : Int)) r = _
  rw [bind_eq h]
  rfl

/-- A year is read up to the hyphen behind it. -/
lemma year_writeYear (y : Int) (rest : List Char) :
    year (writeYear y ++ '-' :: rest) = some (y, '-' :: rest) := by
  unfold writeYear
  split
  · next hfour =>
    have hwide : y.toNat < 10 ^ 4 := by omega
    have hfound := digitsUpTo_decimalWide (by decide) hwide ('-' :: rest)
    obtain ⟨c, r, hcons, hdigit⟩ := Text.exists_decimalWide_eq_cons 4 y.toNat
    have hvalue : (digitsValue (decimalWide 4 y.toNat) : Int) = y := by
      rw [Text.digitsValue_decimalWide]
      omega
    rw [hcons, List.cons_append] at hfound ⊢
    rw [year_unsigned hdigit hfound, ← hcons, hvalue]
  · next hsign =>
    have hfound := digits_decimalWide 4 y.natAbs (c := '-') (by decide) rest
    have hvalue : digitsValue (decimalWide 4 y.natAbs) = y.natAbs :=
      Text.digitsValue_decimalWide 4 y.natAbs
    by_cases hneg : y < 0
    · rw [if_pos hneg, List.cons_append, year_minus hfound, hvalue]
      congr 2
      omega
    · rw [if_neg hneg, List.cons_append, year_plus hfound, hvalue]
      congr 2
      omega

end Year

lemma daysIn_le (year : Int) (month : Nat) : daysIn year month ≤ 31 := by
  unfold daysIn
  split
  · split <;> decide
  all_goals decide

lemma date_spell (d : Date) (rest : List Char) :
    date (writeYear d.year ++ '-' :: decimalWide 2 d.month ++ '-' :: decimalWide 2 d.day ++ rest) =
      some (d, rest) := by
  obtain ⟨-, -, -, hmonth, -, hday⟩ := d.isDate
  have hdays := daysIn_le d.year d.month
  simp only [List.append_assoc, List.cons_append]
  rw [date, bind_eq (year_writeYear d.year _), bind_eq (separator_cons (by decide) _),
    bind_eq (number_two (by omega) _), bind_eq (separator_cons (by decide) _),
    bind_eq (number_two (by omega) rest), Date.of?, dif_pos d.isDate]
  rfl

/-! ## Times of day -/

/-- A fraction of at most nine digits is filled up with zeros. -/
lemma fraction_decimalWide {width n : Nat} (hwidth : 0 < width) (hnine : width ≤ 9)
    (h : n < 10 ^ width) (rest : List Char) :
    fraction ('.' :: decimalWide width n ++ 'Z' :: rest) =
      some (10 ^ (9 - width) * n, 'Z' :: rest) := by
  have hlength := Text.length_decimalWide hwidth h
  have hfound := digits_decimalWide width n (c := 'Z') (by decide) rest
  have hvalue : digitsValue (decimalWide width n ++ List.replicate (9 - width) '0') =
      10 ^ (9 - width) * n := by
    rw [Text.digitsValue_append, List.length_replicate, Text.digitsValue_decimalWide,
      Text.digitsValue_replicate_zero, Nat.add_zero]
  have hcounted : (decimalWide width n).take 9 = decimalWide width n :=
    List.take_of_length_le (by omega)
  rw [List.cons_append, fraction, get_bind]
  change (digits >>= fun found =>
    pure (digitsValue (found.take 9 ++ List.replicate (9 - (found.take 9).length) '0')))
      (decimalWide width n ++ 'Z' :: rest) = _
  rw [bind_eq hfound, hcounted, hlength, hvalue]
  rfl

/-- The digits that a fraction is written without are zeros. -/
lemma fraction_writeFraction {n : Nat} (h : n < 1000000000) (rest : List Char) :
    fraction (writeFraction n ++ 'Z' :: rest) = some (n, 'Z' :: rest) := by
  unfold writeFraction
  split_ifs with hzero hmilli hmicro
  · rw [hzero]
    rfl
  · rw [fraction_decimalWide (by decide) (by decide) (by omega)]
    congr 2
    omega
  · rw [fraction_decimalWide (by decide) (by decide) (by omega)]
    congr 2
    omega
  · rw [fraction_decimalWide (by decide) (by decide) h, Nat.sub_self, Nat.pow_zero, Nat.one_mul]

/-- A second is read up to the letter behind it, and a leap second as the one behind second 59. -/
lemma second_writeSecond {second nanosecond : Nat} (hsecond : second < 60)
    (hnanosecond : nanosecond < 2000000000) (hregular : nanosecond < 1000000000 ∨ second = 59)
    (rest : List Char) : Reader.second (writeSecond second nanosecond ++ 'Z' :: rest) =
      some ((second, nanosecond), 'Z' :: rest) := by
  unfold writeSecond
  split
  · next hwithin =>
    rw [List.append_assoc, Reader.second, bind_eq (number_two (by omega) _),
      bind_eq (fraction_writeFraction hwithin rest), if_neg (by omega)]
    rfl
  · next hleap =>
    have hlast : second = 59 := hregular.resolve_left hleap
    have hcount : 1000000000 + (nanosecond - 1000000000) = nanosecond := by omega
    rw [hlast, List.append_assoc, Reader.second, bind_eq (number_two (by omega) _),
      bind_eq (fraction_writeFraction (by omega) rest), if_pos rfl, hcount]
    rfl

lemma offset_utc (rest : List Char) : offset ('Z' :: rest) = some (0, rest) := rfl

/-! ## What is read -/

/-- Whatever is read has the property. -/
def Yields (reader : Reader α) (P : α → Prop) : Prop :=
  ∀ text a rest, reader text = some (a, rest) → P a

lemma of_bind_eq_some {first : Reader α} {next : α → Reader β} {b : β}
    (h : (first >>= next) text = some (b, rest)) :
    ∃ a left, first text = some (a, left) ∧ next a left = some (b, rest) := by
  obtain ⟨⟨a, left⟩, hfirst, hnext⟩ := Option.bind_eq_some_iff.1 h
  exact ⟨a, left, hfirst, hnext⟩

namespace Yields

variable {first : Reader α} {next : α → Reader β} {P : α → Prop} {Q : β → Prop}

lemma bind (hfirst : first.Yields P) (hnext : ∀ a, P a → (next a).Yields Q) :
    Yields (first >>= next) Q := by
  intro text b rest h
  obtain ⟨a, left, ha, hb⟩ := of_bind_eq_some h
  exact hnext a (hfirst text a left ha) left b rest hb

/-- What is read first does not matter. -/
lemma after (hnext : ∀ a, (next a).Yields Q) : Yields (first >>= next) Q :=
  bind (P := fun _ => True) (fun _ _ _ _ => trivial) fun a _ => hnext a

end Yields

lemma digits_yields : digits.Yields fun found => ∀ c ∈ found, isAsciiDigit c = true := by
  intro text found rest h
  rw [digits] at h
  split at h
  · cases h
  · obtain ⟨rfl, -⟩ := Prod.mk.inj (Option.some.inj h)
    exact List.all_eq_true.1 List.all_takeWhile

/-- Nine digits are counted, so a fraction is less than a second. -/
lemma fraction_yields : fraction.Yields (· < 1000000000) := by
  have hcounted : Yields (digits >>= fun found =>
      pure (digitsValue (found.take 9 ++ List.replicate (9 - (found.take 9).length) '0')))
      (· < 1000000000) := by
    refine digits_yields.bind fun found hfound => ?_
    intro text n rest h
    obtain ⟨rfl, -⟩ := Prod.mk.inj (Option.some.inj h)
    have hlength : (found.take 9 ++ List.replicate (9 - (found.take 9).length) '0').length = 9 := by
      rw [List.length_append, List.length_replicate, List.length_take]
      omega
    have hdigits : ∀ c ∈ found.take 9 ++ List.replicate (9 - (found.take 9).length) '0',
        isAsciiDigit c = true := by
      intro c hc
      rcases List.mem_append.1 hc with htaken | hzero
      · exact hfound c (List.mem_of_mem_take htaken)
      · rw [List.eq_of_mem_replicate hzero]
        decide
    have hlt := Text.digitsValue_lt hdigits
    rw [hlength] at hlt
    exact hlt
  intro text n rest h
  rw [fraction, get_bind] at h
  split at h
  · exact hcounted _ n rest h
  · obtain ⟨rfl, -⟩ := Prod.mk.inj (Option.some.inj h)
    decide

lemma second_yields :
    second.Yields fun shown => shown.2 < 1000000000 ∨ shown.1 = 59 := by
  refine .after fun number => fraction_yields.bind fun nanosecond hfraction => ?_
  intro text shown rest h
  obtain ⟨rfl, -⟩ := Prod.mk.inj (Option.some.inj h)
  split
  · exact Or.inr rfl
  · exact Or.inl hfraction

end Reader

namespace Timestamp

open Reader

/-- A clock in UTC shows the time in UTC. -/
lemma ofLocal?_utc (t : Timestamp) :
    ofLocal? t.date t.hour t.minute t.second t.nanosecond 0 = some t := by
  obtain ⟨hhour, hminute, -, -⟩ := t.isTimeOfDay
  have hhours : ((60 * t.hour + t.minute - 0 : Int) % 1440).toNat / 60 = t.hour := by omega
  have hminutes : ((60 * t.hour + t.minute - 0 : Int) % 1440).toNat % 60 = t.minute := by omega
  unfold ofLocal?
  dsimp only
  rw [if_neg (by omega), if_neg (by omega), Option.bind_eq_bind, Option.bind_some, hhours, hminutes,
    of?, dif_pos t.isTimeOfDay]

/-- The timestamp is in no leap second, or in one that ends a minute. -/
def IsRegular (t : Timestamp) : Prop := t.nanosecond < 1000000000 ∨ t.second = 59

instance (t : Timestamp) : Decidable t.IsRegular := by
  unfold IsRegular
  infer_instance

/-- A regular timestamp is read back from its spelling. -/
lemma ofSpelling?_spell_of_isRegular {t : Timestamp} (h : t.IsRegular) :
    ofSpelling? t.spell = some t := by
  obtain ⟨hhour, hminute, hsecond, hnanosecond⟩ := t.isTimeOfDay
  have hread : Reader.timestamp t.spell = some (t, []) := by
    have hspell : t.spell = writeYear t.date.year ++ '-' :: decimalWide 2 t.date.month ++
        '-' :: decimalWide 2 t.date.day ++ ('T' :: (decimalWide 2 t.hour ++
          ':' :: (decimalWide 2 t.minute ++
            ':' :: (writeSecond t.second t.nanosecond ++ ['Z'])))) := by
      simp [spell]
    rw [hspell, Reader.timestamp, bind_eq (date_spell t.date _),
      bind_eq (oneOf_cons List.mem_cons_self _), bind_eq (number_two (by omega) _),
      bind_eq (separator_cons (by decide) _), bind_eq (number_two (by omega) _),
      bind_eq (separator_cons (by decide) _),
      bind_eq (second_writeSecond hsecond hnanosecond h [])]
    dsimp only
    have hblanks : blanks [] = some ((), []) := rfl
    rw [bind_eq (blanks_cons (by decide) _), bind_eq (offset_utc []), bind_eq hblanks,
      if_pos t.isTimeOfDay, ofLocal?_utc]
    rfl
  rw [ofSpelling?, hread]

/-- The regular timestamp that has the same spelling: a leap second within a minute is written as
the second behind it. -/
def regular (t : Timestamp) : Timestamp :=
  if h : t.IsRegular then t
  else
    { t with
      second := t.second + 1
      nanosecond := t.nanosecond - 1000000000
      isTimeOfDay := by
        obtain ⟨hhour, hminute, hsecond, hnanosecond⟩ := t.isTimeOfDay
        unfold IsRegular at h
        exact ⟨hhour, hminute, by omega, by omega⟩ }

lemma isRegular_regular (t : Timestamp) : t.regular.IsRegular := by
  unfold regular
  split
  · next h => exact h
  · left
    have hlt := t.isTimeOfDay.2.2.2
    dsimp only
    omega

lemma regular_eq_self_iff {t : Timestamp} : t.regular = t ↔ t.IsRegular := by
  constructor
  · exact fun h => h ▸ t.isRegular_regular
  · exact fun h => dif_pos h

lemma spell_regular (t : Timestamp) : t.regular.spell = t.spell := by
  by_cases h : t.IsRegular
  · rw [regular_eq_self_iff.2 h]
  · have hwrite : writeSecond (t.second + 1) (t.nanosecond - 1000000000) =
        writeSecond t.second t.nanosecond := by
      have hlt := t.isTimeOfDay.2.2.2
      unfold IsRegular at h
      rw [writeSecond, writeSecond, if_pos (by omega), if_neg (by omega)]
    rw [regular, dif_neg h, spell, spell]
    dsimp only
    rw [hwrite]

/-- A timestamp is read back from its spelling as the regular one that has it. -/
theorem ofSpelling?_spell (t : Timestamp) : ofSpelling? t.spell = some t.regular := by
  rw [← spell_regular, ofSpelling?_spell_of_isRegular t.isRegular_regular]

lemma of_of?_eq_some {date : Date} {hour minute second nanosecond : Nat} {t : Timestamp}
    (h : of? date hour minute second nanosecond = some t) :
    t.second = second ∧ t.nanosecond = nanosecond := by
  unfold of? at h
  split at h
  · obtain rfl := Option.some.inj h
    exact ⟨rfl, rfl⟩
  · cases h

/-- An offset from UTC changes neither the second nor its fraction. -/
lemma of_ofLocal?_eq_some {date : Date} {hour minute second nanosecond : Nat} {offset : Int}
    {t : Timestamp} (h : ofLocal? date hour minute second nanosecond offset = some t) :
    t.second = second ∧ t.nanosecond = nanosecond := by
  unfold ofLocal? at h
  dsimp only at h
  split_ifs at h with hbefore hafter
  · obtain ⟨yesterday, -, h⟩ := Option.bind_eq_some_iff.1 h
    exact of_of?_eq_some h
  · obtain ⟨tomorrow, -, h⟩ := Option.bind_eq_some_iff.1 h
    exact of_of?_eq_some h
  · exact of_of?_eq_some h

lemma timestamp_yields : timestamp.Yields IsRegular := by
  refine .after fun date => .after fun _ => .after fun hour => .after fun _ => .after fun minute =>
    .after fun _ => second_yields.bind fun shown hshown => .after fun _ => .after fun offset =>
      .after fun _ => ?_
  intro text t rest h
  dsimp only at h
  split at h
  · obtain ⟨t', ht, heq⟩ := Option.map_eq_some_iff.1 h
    obtain ⟨rfl, -⟩ := Prod.mk.inj heq
    obtain ⟨hsecond, hnanosecond⟩ := of_ofLocal?_eq_some ht
    rw [IsRegular, hsecond, hnanosecond]
    exact hshown
  · cases h

/-- Only regular timestamps are read. -/
theorem isRegular_of_ofSpelling?_eq_some {text : List Char} {t : Timestamp}
    (h : ofSpelling? text = some t) : t.IsRegular := by
  unfold ofSpelling? at h
  split at h
  · next found hread =>
    obtain rfl := Option.some.inj h
    exact timestamp_yields text _ [] hread
  · cases h

end Timestamp

end LinkedNotes.Time
