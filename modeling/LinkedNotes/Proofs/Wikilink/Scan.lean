import LinkedNotes.Proofs.Text.Distinct
import LinkedNotes.Proofs.Wikilink.Grammar
import Mathlib.Algebra.GroupWithZero.Nat

/-!
# Scanning for links

Links as a scanner finds them that searches from left to right, takes the shortest match at each
place and goes on behind it, and that counts in bytes. A match holds no other one, so nothing is
lost by going on behind it, and the scanner finds what is found by looking at every offset
(`scanIntervals_eq`, `scanTargets_eq`).
-/

namespace LinkedNotes.Wikilink

open Text (Interval)

/-! ## Bytes -/

/-- How many bytes a text takes up. -/
def byteCount (text : List Char) : Nat := (text.map Char.utf8Size).sum

@[simp] lemma byteCount_cons (c : Char) (r : List Char) :
    byteCount (c :: r) = c.utf8Size + byteCount r := rfl

@[simp] lemma byteCount_append (l r : List Char) :
    byteCount (l ++ r) = byteCount l + byteCount r := by
  simp [byteCount]

/-- The text behind so many bytes. -/
def dropBytes : Nat → List Char → List Char
  | _, [] => []
  | 0, c :: r => c :: r
  | n + 1, c :: r => dropBytes (n + 1 - c.utf8Size) r

/-- The text up to so many bytes. -/
def takeBytes : Nat → List Char → List Char
  | _, [] => []
  | 0, _ :: _ => []
  | n + 1, c :: r => c :: takeBytes (n + 1 - c.utf8Size) r

/-- The text from one byte up to another one. -/
def betweenBytes (start stop : Nat) (text : List Char) : List Char :=
  takeBytes (stop - start) (dropBytes start text)

/-- A character takes up a byte at least, and behind it are the bytes of the rest. -/
lemma exists_byteCount_cons (c : Char) (l : List Char) :
    ∃ n, byteCount (c :: l) = n + 1 ∧ n + 1 - c.utf8Size = byteCount l := by
  have hpos : 0 < c.utf8Size := c.utf8Size_pos
  refine ⟨byteCount (c :: l) - 1, ?_, ?_⟩ <;> rw [byteCount_cons] <;> omega

lemma dropBytes_append (l r : List Char) : dropBytes (byteCount l) (l ++ r) = r := by
  induction l with
  | nil => cases r <;> rfl
  | cons c l ih =>
    obtain ⟨n, hn, hrest⟩ := exists_byteCount_cons c l
    rw [hn, List.cons_append, dropBytes, hrest, ih]

lemma takeBytes_append (l r : List Char) : takeBytes (byteCount l) (l ++ r) = l := by
  induction l with
  | nil => cases r <;> rfl
  | cons c l ih =>
    obtain ⟨n, hn, hrest⟩ := exists_byteCount_cons c l
    rw [hn, List.cons_append, takeBytes, hrest, ih]

/-- Bytes counted up to either end of a part of the text give that part. -/
lemma betweenBytes_append (l middle r : List Char) :
    betweenBytes (byteCount l) (byteCount l + byteCount middle) (l ++ (middle ++ r)) = middle := by
  rw [betweenBytes, dropBytes_append, Nat.add_sub_cancel_left, takeBytes_append]

/-! ## Matches -/

/-- The shortest text, of one character at least and without brackets, that stands before two
closing brackets at the front of a text. -/
def shortestInner? : List Char → Option (List Char)
  | [] => none
  | c :: r =>
    if isBracket c then none
    else if [']', ']'].isPrefixOf r then some [c]
    else (shortestInner? r).map (c :: ·)

/-- What stands between the brackets of the match at the front of a text. -/
def match? : List Char → Option (List Char)
  | '[' :: '[' :: r => shortestInner? r
  | _ => none

/-- A match: the bytes at which it starts and stops, and what stands between its brackets. -/
structure Capture where
  start : Nat
  stop : Nat
  inner : List Char

/-- The matches in a text that stands at a byte, from left to right. Its first `covered` characters
belong to the match before. -/
def capturesFrom (byte : Nat) : Nat → List Char → List Capture
  | _, [] => []
  | covered + 1, c :: r => capturesFrom (byte + c.utf8Size) covered r
  | 0, c :: r =>
    match match? (c :: r) with
    | none => capturesFrom (byte + c.utf8Size) 0 r
    | some inner =>
      ⟨byte, byte + byteCount (bracketed inner), inner⟩ ::
        capturesFrom (byte + c.utf8Size) (inner.length + 3) r

/-- The matches in a text. -/
def captures (text : List Char) : List Capture := capturesFrom 0 0 text

/-- The intervals of the matches that are links. The byte and the character up to which offsets were
converted move along with them. -/
def convertFrom (text : List Char) (byte offset : Nat) : List Capture → List Interval
  | [] => []
  | m :: r =>
    if targetOf m.inner = [] then convertFrom text byte offset r
    else
      let start := offset + (betweenBytes byte m.start text).length
      let stop := start + (betweenBytes m.start m.stop text).length
      ⟨start, stop⟩ :: convertFrom text m.stop stop r

/-- Where the links of a text stand, as the scanner finds them. -/
def scanIntervals (text : String) : List Interval :=
  convertFrom text.toList 0 0 (captures text.toList)

/-- Add the target of a match to those of the matches before it, unless it is blank or there. -/
def addTarget (found : List String) (m : Capture) : List String :=
  if targetOf m.inner = [] then found
  else if String.ofList (targetOf m.inner) ∈ found then found
  else found ++ [String.ofList (targetOf m.inner)]

/-- What the links of a text point to, as the scanner finds them. -/
def scanTargets (text : String) : List String := (captures text.toList).foldl addTarget []

/-! ## Matches and links -/

/-- The shortest inner text is the only one. -/
theorem shortestInner?_eq_some_iff {text inner : List Char} :
    shortestInner? text = some inner ↔
      inner ≠ [] ∧ (∀ c ∈ inner, isBracket c = false) ∧ inner ++ [']', ']'] <+: text := by
  induction text generalizing inner with
  | nil => simp [shortestInner?]
  | cons c r ih =>
    rw [shortestInner?]
    by_cases hc : isBracket c = true
    · -- a bracket belongs to no inner text, so that would have to be empty
      rw [if_pos hc]
      refine ⟨nofun, ?_⟩
      rintro ⟨hne, hopen, hfront⟩
      obtain ⟨d, l, rfl⟩ := List.exists_cons_of_ne_nil hne
      rw [List.cons_append, List.cons_prefix_cons] at hfront
      have hd := hopen d List.mem_cons_self
      rw [hfront.1, hc] at hd
      cases hd
    · rw [if_neg hc]
      split
      · next hclose =>
        rw [List.isPrefixOf_iff_prefix] at hclose
        constructor
        · intro h
          obtain rfl := Option.some.inj h
          refine ⟨List.cons_ne_nil _ _, ?_, List.cons_prefix_cons.2 ⟨rfl, hclose⟩⟩
          exact fun d hd => by simpa [List.mem_singleton.1 hd] using hc
        · rintro ⟨hne, hopen, hfront⟩
          obtain ⟨d, l, rfl⟩ := List.exists_cons_of_ne_nil hne
          rw [List.cons_append, List.cons_prefix_cons] at hfront
          obtain ⟨rfl, hfront⟩ := hfront
          cases l with
          | nil => rfl
          | cons e l =>
            -- a longer inner text would hold the first closing bracket
            obtain ⟨rest, rfl⟩ := hclose
            rw [List.cons_append, List.cons_append, List.cons_prefix_cons] at hfront
            have he := hopen e (by simp)
            rw [hfront.1] at he
            cases he
      · next hclose =>
        rw [List.isPrefixOf_iff_prefix] at hclose
        rw [Option.map_eq_some_iff]
        constructor
        · rintro ⟨l, hl, rfl⟩
          obtain ⟨-, hopen, hfront⟩ := ih.1 hl
          refine ⟨List.cons_ne_nil _ _, ?_, List.cons_prefix_cons.2 ⟨rfl, hfront⟩⟩
          exact List.forall_mem_cons.2 ⟨by simpa using hc, hopen⟩
        · rintro ⟨hne, hopen, hfront⟩
          obtain ⟨d, l, rfl⟩ := List.exists_cons_of_ne_nil hne
          rw [List.cons_append, List.cons_prefix_cons] at hfront
          obtain ⟨rfl, hfront⟩ := hfront
          refine ⟨l, ih.2 ⟨?_, fun e he => hopen e (List.mem_cons_of_mem _ he), hfront⟩, rfl⟩
          rintro rfl
          exact hclose hfront

/-- There is a match exactly where brackets stand around a text that is not empty. -/
theorem match?_eq_some_iff {text inner : List Char} :
    match? text = some inner ↔
      inner ≠ [] ∧ (∀ c ∈ inner, isBracket c = false) ∧ bracketed inner <+: text := by
  unfold match?
  split
  · next r =>
    rw [shortestInner?_eq_some_iff, bracketed, List.cons_prefix_cons, List.cons_prefix_cons]
    simp
  · next hno =>
    refine ⟨fun h => (by cases h), ?_⟩
    rintro ⟨-, -, rest, rfl⟩
    exact absurd rfl (hno _)

/-- Where there is no match, there is no link. -/
lemma linkAt?_eq_none {text : List Char} (h : match? text = none) (offset : Nat) :
    linkAt? offset text = none := by
  cases hlink : linkAt? offset text with
  | none => rfl
  | some link =>
    obtain ⟨inner, hinner, hfront, -⟩ := linkAt?_eq_some_iff.1 hlink
    have hne : inner ≠ [] := by
      rintro rfl
      exact hinner.target_ne_nil rfl
    rw [match?_eq_some_iff.2 ⟨hne, hinner.no_bracket, hfront⟩] at h
    cases h

/-! ## Nothing within a match -/

/-- A text that does not start with two opening brackets has no link at its front. -/
lemma linkAt?_cons_of_ne {c : Char} (h : c ≠ '[') (offset : Nat) (r : List Char) :
    linkAt? offset (c :: r) = none := by
  apply linkAt?_eq_none
  unfold match?
  split
  · next heq => exact absurd (List.cons.inj heq).1 h
  · rfl

/-- Characters that open no bracket are passed over. -/
lemma linksFrom_append_of_ne {l : List Char} (h : ∀ c ∈ l, c ≠ '[') (offset : Nat)
    (r : List Char) : linksFrom offset (l ++ r) = linksFrom (offset + l.length) r := by
  induction l generalizing offset with
  | nil => rfl
  | cons c l ih =>
    rw [List.cons_append, linksFrom_cons, linkAt?_cons_of_ne (h c List.mem_cons_self),
      Option.toList_none, List.nil_append, ih fun d hd => h d (List.mem_cons_of_mem _ hd),
      List.length_cons, Nat.add_right_comm, Nat.add_assoc]

/-- Behind the first character of a match, the next link is one behind the match. -/
lemma linksFrom_bracketed {inner : List Char} (hne : inner ≠ [])
    (hopen : ∀ c ∈ inner, isBracket c = false) (offset : Nat) (r : List Char) :
    linksFrom offset (bracketed inner ++ r) =
      (if targetOf inner = [] then [] else [Link.of offset inner]) ++
        linksFrom (offset + inner.length + 4) r := by
  have hclosed : ∀ c ∈ inner ++ [']', ']'], c ≠ '[' := by
    intro c hc
    rcases List.mem_append.1 hc with hc | hc
    · rintro rfl
      cases hopen _ hc
    · rintro rfl
      simp at hc
  -- the second opening bracket is followed by an inner character
  have hsecond : linkAt? (offset + 1) ('[' :: (inner ++ [']', ']'] ++ r)) = none := by
    apply linkAt?_eq_none
    obtain ⟨c, l, rfl⟩ := List.exists_cons_of_ne_nil hne
    unfold match?
    split
    · next heq =>
      have hc : c = '[' := (List.cons.inj (List.cons.inj heq).2).1
      exact absurd hc (hclosed c (by simp))
    · rfl
  have hfirst : (linkAt? offset (bracketed inner ++ r)).toList =
      if targetOf inner = [] then [] else [Link.of offset inner] := by
    simp only [linkAt?, inner?_bracketed hopen r]
    split <;> rfl
  have hshape : bracketed inner ++ r = '[' :: '[' :: (inner ++ [']', ']'] ++ r) := rfl
  rw [hshape, linksFrom_cons, linksFrom_cons, hsecond, ← hshape, hfirst, Option.toList_none,
    List.nil_append, linksFrom_append_of_ne hclosed, List.length_append]
  congr 2
  show offset + 1 + 1 + (inner.length + 2) = offset + inner.length + 4
  omega

/-! ## The scanner's way -/

/-- Characters of the match before are passed over. -/
lemma capturesFrom_append (byte : Nat) (l r : List Char) :
    capturesFrom byte l.length (l ++ r) = capturesFrom (byte + byteCount l) 0 r := by
  induction l generalizing byte with
  | nil => rfl
  | cons c l ih => rw [List.length_cons, List.cons_append, capturesFrom, ih, byteCount_cons,
      Nat.add_assoc]

lemma capturesFrom_of_none {c : Char} {r : List Char} (h : match? (c :: r) = none) (byte : Nat) :
    capturesFrom byte 0 (c :: r) = capturesFrom (byte + c.utf8Size) 0 r := by
  rw [capturesFrom, h]

/-- After a match, the scanner goes on behind it. -/
lemma capturesFrom_bracketed {inner : List Char} (hne : inner ≠ [])
    (hopen : ∀ c ∈ inner, isBracket c = false) (byte : Nat) (r : List Char) :
    capturesFrom byte 0 (bracketed inner ++ r) =
      ⟨byte, byte + byteCount (bracketed inner), inner⟩ ::
        capturesFrom (byte + byteCount (bracketed inner)) 0 r := by
  have hmatch := match?_eq_some_iff.2 ⟨hne, hopen, List.prefix_append (bracketed inner) r⟩
  have hrest := capturesFrom_append (byte + '['.utf8Size) ('[' :: (inner ++ [']', ']'])) r
  have hlength : ('[' :: (inner ++ [']', ']'])).length = inner.length + 3 := by simp
  rw [hlength, Nat.add_assoc] at hrest
  have hshape : bracketed inner ++ r = '[' :: ('[' :: (inner ++ [']', ']']) ++ r) := rfl
  rw [hshape] at hmatch ⊢
  rw [capturesFrom, hmatch, ← show byteCount (bracketed inner) = _ from rfl] at *
  exact congrArg _ hrest

/-- What the scanner does with a text, by what stands at its front: nothing, a character at which
there is no match, or a match. -/
inductive Scanned : List Char → Prop
  | done : Scanned []
  | pass {c : Char} {r : List Char} (none : match? (c :: r) = none) (rest : Scanned r) :
    Scanned (c :: r)
  | take {inner r : List Char} (ne_nil : inner ≠ [])
    (no_bracket : ∀ c ∈ inner, isBracket c = false) (rest : Scanned r) :
    Scanned (bracketed inner ++ r)

/-- Every text is scanned to its end. -/
theorem scanned (text : List Char) : Scanned text := by
  -- behind a match there is less left, by the length of the match
  induction hn : text.length using Nat.strong_induction_on generalizing text with
  | _ n ih =>
    cases hmatch : match? text with
    | none =>
      cases text with
      | nil => exact .done
      | cons c r => exact .pass hmatch (ih r.length (by rw [← hn]; simp) r rfl)
    | some inner =>
      obtain ⟨hne, hopen, r, rfl⟩ := match?_eq_some_iff.1 hmatch
      refine .take hne hopen (ih r.length ?_ r rfl)
      rw [← hn, List.length_append, length_bracketed]
      omega

/-- The byte behind what was passed over and more. -/
lemma byteCount_passed (front passed more : List Char) :
    byteCount (front ++ passed) + byteCount more = byteCount (front ++ (passed ++ more)) := by
  simp only [byteCount_append, Nat.add_assoc]

/-- The offset behind what was passed over and a match. -/
lemma length_passed (front passed inner : List Char) :
    (front ++ passed).length + inner.length + 4 =
      (front ++ (passed ++ bracketed inner)).length := by
  simp only [List.length_append, length_bracketed, Nat.add_assoc]

/-- Converted from any place before them, the matches of the rest of a text are its links. -/
lemma convertFrom_capturesFrom {rest : List Char} (h : Scanned rest) (front passed : List Char) :
    convertFrom (front ++ (passed ++ rest)) (byteCount front) front.length
        (capturesFrom (byteCount (front ++ passed)) 0 rest) =
      (linksFrom (front ++ passed).length rest).map (·.interval) := by
  induction h generalizing front passed with
  | done => rfl
  | @pass c r hnone hrest ih =>
    have hbyte : byteCount (front ++ passed) + c.utf8Size =
        byteCount (front ++ (passed ++ [c])) := byteCount_passed front passed [c]
    have hlength : (front ++ passed).length + 1 = (front ++ (passed ++ [c])).length := by
      simp [Nat.add_assoc]
    have htext : passed ++ c :: r = passed ++ [c] ++ r := by simp
    rw [capturesFrom_of_none hnone, linksFrom_cons, linkAt?_eq_none hnone, Option.toList_none,
      List.nil_append, hbyte, hlength, htext]
    exact ih front (passed ++ [c])
  | @take inner r hne hopen hrest ih =>
    have hbyte := byteCount_passed front passed (bracketed inner)
    have hlength := length_passed front passed inner
    rw [capturesFrom_bracketed hne hopen, linksFrom_bracketed hne hopen, convertFrom, hbyte,
      hlength]
    by_cases hblank : targetOf inner = []
    · -- offsets are not converted for a match that is no link
      rw [if_pos hblank, if_pos hblank, List.nil_append, ← List.append_assoc passed]
      exact ih front (passed ++ bracketed inner)
    · have hpassed : betweenBytes (byteCount front) (byteCount (front ++ passed))
          (front ++ (passed ++ (bracketed inner ++ r))) = passed := by
        rw [byteCount_append, betweenBytes_append]
      have hwhole : betweenBytes (byteCount (front ++ passed))
          (byteCount (front ++ (passed ++ bracketed inner)))
          (front ++ (passed ++ (bracketed inner ++ r))) = bracketed inner := by
        rw [← hbyte, ← List.append_assoc front, betweenBytes_append]
      have hstart : front.length + passed.length = (front ++ passed).length :=
        List.length_append.symm
      have hstop : (front ++ passed).length + (bracketed inner).length =
          (front ++ (passed ++ bracketed inner)).length := by
        rw [← List.length_append, List.append_assoc]
      -- offsets are converted from the end of this match on
      have hbehind := ih (front ++ (passed ++ bracketed inner)) []
      rw [List.append_nil, List.nil_append, List.append_assoc, List.append_assoc] at hbehind
      rw [if_neg hblank, if_neg hblank, List.singleton_append, List.map_cons]
      dsimp only
      rw [hpassed, hwhole, hstart, hstop, hbehind, Link.of, hlength]

/-- The scanner finds each link where it stands. -/
theorem scanIntervals_eq (text : String) : scanIntervals text = intervals text :=
  convertFrom_capturesFrom (scanned text.toList) [] []

/-- Going on with targets that were found before, the scanner adds those of the links. -/
lemma foldl_addTarget {rest : List Char} (h : Scanned rest) (byte offset : Nat)
    (found : List String) :
    (capturesFrom byte 0 rest).foldl addTarget (Text.distinct found) =
      Text.distinct
        (found ++ (linksFrom offset rest).map fun link => String.ofList link.target) := by
  induction h generalizing byte offset found with
  | done => simp [capturesFrom, linksFrom]
  | pass hnone hrest ih =>
    rw [capturesFrom_of_none hnone, linksFrom_cons, linkAt?_eq_none hnone, Option.toList_none,
      List.nil_append]
    exact ih _ _ found
  | @take inner r hne hopen hrest ih =>
    rw [capturesFrom_bracketed hne hopen, linksFrom_bracketed hne hopen, List.foldl_cons]
    by_cases hblank : targetOf inner = []
    · rw [if_pos hblank, List.nil_append, addTarget, if_pos hblank]
      exact ih _ _ found
    · have hadd : ∀ m : Capture, m.inner = inner → addTarget (Text.distinct found) m =
          Text.distinct (found ++ [String.ofList (targetOf inner)]) := by
        rintro m rfl
        rw [addTarget, if_neg hblank, Text.distinct_concat]
        simp only [Text.mem_distinct]
      rw [if_neg hblank, List.singleton_append, List.map_cons, hadd _ rfl,
        ih _ (offset + inner.length + 4), List.append_assoc]
      rfl

/-- The scanner finds each target where it first appears. -/
theorem scanTargets_eq (text : String) : scanTargets text = targets text :=
  foldl_addTarget (scanned text.toList) 0 0 []

end LinkedNotes.Wikilink
