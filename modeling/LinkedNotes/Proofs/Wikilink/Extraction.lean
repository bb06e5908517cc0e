import LinkedNotes.Proofs.Wikilink.Scan

/-!
# Links and their grammar

The intervals of the links of a text are exactly those that hold brackets around a target that is
not blank. No two of them overlap, and they stand in order, so that settles the list. The targets are
those of the intervals (`extracts`), so there is no doubt between the two about what is a link.
-/

namespace LinkedNotes.Wikilink

open Text (Interval)

/-- The interval holds a link of the text: double brackets around characters that are no brackets,
and what stands before the first bar among these is not blank. -/
structure Holds (text : List Char) (i : Interval) (inner : List Char) : Prop where
  stop_le : i.stop ≤ text.length
  cut_eq : (text.take i.stop).drop i.start = ['[', '['] ++ inner ++ [']', ']']
  ne_nil : inner ≠ []
  no_bracket : ∀ c ∈ inner, c ≠ '[' ∧ c ≠ ']'
  target_ne_nil : Text.trim (inner.takeWhile (· ≠ '|')) ≠ []

/-- What stands between the double brackets at the ends of an interval. -/
def innerAt (text : List Char) (i : Interval) : List Char :=
  (text.take (i.stop - 2)).drop (i.start + 2)

/-- What is extracted from a text is what its links are by their grammar. -/
structure Extracts (text : String) : Prop where
  /-- The intervals are those that hold a link. -/
  mem_iff : ∀ i, i ∈ intervals text ↔ ∃ inner, Holds text.toList i inner
  /-- Each interval ends before the next one starts. -/
  pairwise : (intervals text).Pairwise fun a b =>
    a.start < a.stop ∧ a.stop ≤ b.start ∧ b.start < b.stop
  /-- The targets are those in the intervals, each where it first stands. -/
  targets_eq : targets text = Text.distinct ((intervals text).map fun i =>
    String.ofList (Text.trim ((innerAt text.toList i).takeWhile (· ≠ '|'))))
  /-- A scanner that goes on behind each match comes to the same intervals and targets. -/
  scan_eq : scanIntervals text = intervals text ∧ scanTargets text = targets text

/-! ## Intervals -/

/-- The brackets of an interval stand at its start, and it ends behind them. -/
lemma cut_eq_bracketed_iff {text inner : List Char} {i : Interval} (hstop : i.stop ≤ text.length) :
    (text.take i.stop).drop i.start = bracketed inner ↔
      bracketed inner <+: text.drop i.start ∧ i.stop = i.start + inner.length + 4 := by
  have hlength : ((text.take i.stop).drop i.start).length = i.stop - i.start := by
    rw [List.length_drop, List.length_take, Nat.min_eq_left hstop]
  rw [List.drop_take] at *
  constructor
  · intro hcut
    rw [hcut, length_bracketed] at hlength
    exact ⟨hcut ▸ List.take_prefix _ _, by omega⟩
  · rintro ⟨hfront, hend⟩
    have htake := List.prefix_iff_eq_take.1 hfront
    rw [length_bracketed] at htake
    rw [htake, hend]
    congr 1
    omega

/-- A link is held where it stands. -/
theorem holds_iff {text inner : List Char} {i : Interval} :
    Holds text i inner ↔ IsInner inner ∧ bracketed inner <+: text.drop i.start ∧
      i.stop = i.start + inner.length + 4 := by
  have hbrackets : ∀ c : Char, isBracket c = false ↔ c ≠ '[' ∧ c ≠ ']' := by simp [isBracket]
  constructor
  · intro h
    have hcut := (cut_eq_bracketed_iff h.stop_le).1 h.cut_eq
    exact ⟨⟨fun c hc => (hbrackets c).2 (h.no_bracket c hc), h.target_ne_nil⟩, hcut⟩
  · rintro ⟨hinner, hfront, hend⟩
    have hlength := hfront.length_le
    rw [length_bracketed, List.length_drop] at hlength
    have hstop : i.stop ≤ text.length := by omega
    refine ⟨hstop, (cut_eq_bracketed_iff hstop).2 ⟨hfront, hend⟩, ?_,
      fun c hc => (hbrackets c).1 (hinner.no_bracket c hc), hinner.target_ne_nil⟩
    rintro rfl
    exact hinner.target_ne_nil rfl

lemma mem_intervals {text : String} {i : Interval} :
    i ∈ intervals text ↔ ∃ inner, Holds text.toList i inner := by
  simp only [intervals, List.mem_map, holds_iff]
  constructor
  · rintro ⟨link, hlink, rfl⟩
    obtain ⟨offset, inner, hinner, hfront, rfl⟩ := mem_links.1 hlink
    exact ⟨inner, hinner, hfront, rfl⟩
  · rintro ⟨inner, hinner, hfront, hend⟩
    refine ⟨Link.of i.start inner, mem_links.2 ⟨i.start, inner, hinner, hfront, rfl⟩, ?_⟩
    rw [Link.of, ← hend]

/-- Where an interval holds a link, its inner text is read back. -/
lemma Holds.innerAt_eq {text inner : List Char} {i : Interval} (h : Holds text i inner) :
    innerAt text i = inner := by
  obtain ⟨-, ⟨rest, hrest⟩, hend⟩ := holds_iff.1 h
  have hcount : i.stop - 2 - (i.start + 2) = inner.length := by omega
  rw [innerAt, List.drop_take, hcount, ← List.drop_drop, ← hrest]
  simp [bracketed]

/-! ## Disjointness -/

/-- No link starts within another one: an opening bracket stands at the front of either only, and
there two of them. -/
lemma Holds.stop_le_start {text inner inner' : List Char} {i j : Interval} (hi : Holds text i inner)
    (hj : Holds text j inner') (h : i.start < j.start) : i.stop ≤ j.start := by
  obtain ⟨-, ⟨rest, hrest⟩, hstop⟩ := holds_iff.1 hi
  obtain ⟨-, ⟨rest', hrest'⟩, -⟩ := holds_iff.1 hj
  by_contra hlt
  obtain ⟨k, hk⟩ : ∃ k, j.start = i.start + 1 + k := ⟨j.start - (i.start + 1), by omega⟩
  -- the link behind it starts in what follows the first bracket of this one
  have htail : text.drop j.start = ('[' :: (inner ++ [']', ']'] ++ rest)).drop k := by
    have hfirst : text.drop (i.start + 1) = '[' :: (inner ++ [']', ']'] ++ rest) := by
      rw [← List.drop_drop, ← hrest]
      rfl
    rw [hk, ← List.drop_drop, hfirst]
  rw [htail] at hrest'
  cases k with
  | zero =>
    -- its second bracket would be the first inner character
    obtain ⟨c, l, hinner⟩ := List.exists_cons_of_ne_nil hi.ne_nil
    have hc := hi.no_bracket c (hinner ▸ List.mem_cons_self)
    rw [hinner] at hrest'
    have hsecond : '[' = c := (List.cons.inj (List.cons.inj hrest').2).1
    exact hc.1 hsecond.symm
  | succ k =>
    -- its first bracket would be an inner character or a closing one
    have hk' : k < (inner ++ [']', ']']).length := by
      rw [List.length_append, List.length_cons, List.length_singleton]
      omega
    rw [List.drop_succ_cons, List.drop_append_of_le_length hk'.le,
      List.drop_eq_getElem_cons hk'] at hrest'
    have hfirst : '[' = (inner ++ [']', ']'])[k] := (List.cons.inj hrest').1
    rcases List.mem_append.1 (hfirst ▸ List.getElem_mem hk') with hmem | hmem
    · exact (hi.no_bracket _ hmem).1 rfl
    · simp at hmem

lemma pairwise_intervals (text : String) : (intervals text).Pairwise fun a b =>
    a.start < a.stop ∧ a.stop ≤ b.start ∧ b.start < b.stop := by
  rw [intervals, List.pairwise_map]
  refine (pairwise_links text.toList).imp_of_mem fun {a b} ha hb hlt => ?_
  have hholds : ∀ link ∈ links text.toList, ∃ inner, Holds text.toList link.interval inner :=
    fun link hlink => mem_intervals.1 (List.mem_map_of_mem hlink)
  obtain ⟨inner, hinner⟩ := hholds a ha
  obtain ⟨inner', hinner'⟩ := hholds b hb
  exact ⟨(stop_le_length ha).1, hinner.stop_le_start hinner' hlt, (stop_le_length hb).1⟩

/-! ## Targets -/

/-- The target of a link is that of the interval in which it stands. -/
lemma target_eq {text : List Char} {link : Link} (h : link ∈ links text) :
    link.target = targetOf (innerAt text link.interval) := by
  obtain ⟨offset, inner, hinner, hfront, rfl⟩ := mem_links.1 h
  have hholds : Holds text (Link.of offset inner).interval inner :=
    holds_iff.2 ⟨hinner, hfront, rfl⟩
  rw [hholds.innerAt_eq, Link.of]

lemma targets_eq_distinct (text : String) :
    targets text = Text.distinct ((intervals text).map fun i =>
      String.ofList (targetOf (innerAt text.toList i))) := by
  rw [targets, intervals, List.map_map]
  congr 1
  refine List.map_congr_left fun link hlink => ?_
  rw [Function.comp_apply, target_eq hlink]

/-- From every text exactly its links are extracted, with their targets. -/
theorem extracts (text : String) : Extracts text where
  mem_iff _ := mem_intervals
  pairwise := pairwise_intervals text
  targets_eq := targets_eq_distinct text
  scan_eq := ⟨scanIntervals_eq text, scanTargets_eq text⟩

/-- Two of three brackets belong to the link, and a blank one between the links is passed over. -/
example : intervals "[[[é|x]]] [[ ]][[ b ]]" = [⟨1, 8⟩, ⟨15, 22⟩] ∧
    targets "[[[é|x]]] [[ ]][[ b ]]" = ["é", "b"] := by
  decide +kernel

end LinkedNotes.Wikilink
