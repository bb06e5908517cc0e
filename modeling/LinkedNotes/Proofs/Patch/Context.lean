import LinkedNotes.Proofs.Patch.Cutting

/-!
# How far context grows

The window of a hunk is widened as long as it is short and occurs elsewhere in the text. `Widens` is
that loop with no bound on its rounds. It ends, since a window that is the whole text occurs once
only (`widens_widen`), and it ends soon, since a window that goes on does not reach both ends of the
text and so has a character for each step of its padding (`Widens.le_enough`). One margin more does
not take away what was found: a window around one that occurs once occurs once too.
-/

namespace LinkedNotes.Patch

open Edit
open Text (OccursAt)

variable {text : List Char} {start stop padding final : Nat}

/-! ## Windows -/

/-- A window of a text stands where it starts. -/
lemma occursAt_window (hstart : start ≤ text.length) (hstop : start ≤ stop) :
    OccursAt (window text start stop) text start := by
  refine ⟨text.take start, text.drop stop, ?_, List.length_take_of_le hstart⟩
  have htake : text.take start = (text.take stop).take start := by
    rw [List.take_take, Nat.min_eq_left hstop]
  rw [window, htake, List.take_append_drop, List.take_append_drop]

/-- Two windows of which the one starts where the other stops are one window. -/
lemma window_append {middle : Nat} (hstart : start ≤ middle) (hstop : middle ≤ stop) :
    window text start middle ++ window text middle stop = window text start stop := by
  have hfirst : text.take middle = (text.take stop).take middle := by
    rw [List.take_take, Nat.min_eq_left hstop]
  have hrest : (text.take stop).drop middle = ((text.take stop).drop start).drop (middle - start) := by
    rw [List.drop_drop, Nat.add_sub_cancel' hstart]
  rw [window, window, window, hfirst, hrest, List.drop_take, List.take_append_drop]

/-- What stands in a text is a window of it. -/
lemma window_of_occursAt {pattern : List Char} (h : OccursAt pattern text start) :
    window text start (start + pattern.length) = pattern := by
  obtain ⟨front, back, rfl, rfl⟩ := h
  rw [window, ← List.length_append, List.take_left, List.drop_left]

/-! ## Occurring once -/

/-- A pattern that occurs is not ambiguous exactly if it occurs once only. -/
lemma isAmbiguous_eq_false_iff {pattern : List Char} {i : Nat} (h : OccursAt pattern text i) :
    Text.isAmbiguous text pattern = false ↔ ∃! j, OccursAt pattern text j := by
  have hmem := Text.mem_occurrences.2 h
  have hsorted : (Text.occurrencesFrom pattern 0 text).Pairwise (· < ·) :=
    Text.pairwise_occurrencesFrom 0
  simp only [← Text.mem_occurrences]
  unfold Text.isAmbiguous
  rw [Text.occurrences] at hmem ⊢
  cases hall : Text.occurrencesFrom pattern 0 text with
  | nil =>
    rw [hall] at hmem
    exact absurd hmem List.not_mem_nil
  | cons first rest =>
    rw [hall] at hsorted
    rw [bne_eq_false_iff_eq, List.head?_cons]
    cases rest with
    | nil => simp
    | cons second rest =>
      -- the last one comes after the first
      have hlast : (second :: rest).getLast (List.cons_ne_nil _ _) ∈ second :: rest :=
        List.getLast_mem _
      have hlt := (List.pairwise_cons.1 hsorted).1 _ hlast
      refine iff_of_false ?_ ?_
      · intro heq
        rw [List.getLast?_cons_cons, List.getLast?_eq_some_getLast (List.cons_ne_nil _ _)] at heq
        have hfirst := Option.some.inj heq
        omega
      · rintro ⟨j, -, hunique⟩
        have hfirst := hunique first List.mem_cons_self
        have hlater := hunique _ (List.mem_cons_of_mem _ hlast)
        omega

/-- A text that holds a pattern which occurs once only occurs once only too. -/
lemma existsUnique_of_append {front pattern back : List Char} {i : Nat}
    (honce : ∃! j, OccursAt pattern text j) (h : OccursAt (front ++ pattern ++ back) text i) :
    ∃! j, OccursAt (front ++ pattern ++ back) text j := by
  have hinner : ∀ j, OccursAt (front ++ pattern ++ back) text j →
      OccursAt pattern text (j + front.length) := by
    rintro j ⟨before, behind, rfl, rfl⟩
    exact ⟨before ++ front, back ++ behind, by simp, List.length_append⟩
  refine ⟨i, h, fun j hj => ?_⟩
  have heq := honce.unique (hinner j hj) (hinner i h)
  omega

/-! ## The loop -/

/-- A window that is to be widened: it occurs at two places or more, and is short. -/
def IsNarrow (text pattern : List Char) : Prop :=
  Text.isAmbiguous text pattern = true ∧ pattern.length < enough

/-- The loop that widens a window, from some padding to the final one. Nothing ends it but a window
that need not be widened. -/
inductive Widens (text : List Char) (start stop : Nat) : Nat → Nat → Prop
  | done {padding : Nat}
    (wide : ¬IsNarrow text (window text (start - padding) (stop + padding))) :
    Widens text start stop padding padding
  | round {padding final : Nat}
    (narrow : IsNarrow text (window text (start - padding) (stop + padding)))
    (rest : Widens text start stop (padding + margin) final) :
    Widens text start stop padding final

/-- A window that reaches both ends of the text need not be widened. -/
lemma not_isNarrow_of_covers (hstart : start ≤ padding) (hstop : text.length ≤ stop + padding) :
    ¬IsNarrow text (window text (start - padding) (stop + padding)) := by
  have hwhole : window text (start - padding) (stop + padding) = text := by
    rw [Nat.sub_eq_zero_of_le hstart, window, List.drop_zero, List.take_of_length_le hstop]
  have hself : OccursAt text text 0 := ⟨[], [], by simp, rfl⟩
  have honce : ∃! j, OccursAt text text j := by
    refine ⟨0, hself, fun j hj => ?_⟩
    have hle := hj.add_length_le
    omega
  rw [hwhole]
  intro hnarrow
  exact Bool.false_ne_true (((isAmbiguous_eq_false_iff hself).2 honce).symm.trans hnarrow.1)

/-- With enough rounds, the bound on them ends no loop. -/
lemma widens_widen (hstart : start ≤ text.length) {steps : Nat}
    (hsteps : text.length ≤ padding + margin * steps) :
    Widens text start stop padding (widen text start stop steps padding) := by
  induction steps generalizing padding with
  | zero => exact .done (not_isNarrow_of_covers (by omega) (by omega))
  | succ steps ih =>
    rw [widen]
    split
    · next hnarrow =>
      rw [Bool.and_eq_true, decide_eq_true_eq] at hnarrow
      refine .round hnarrow (ih ?_)
      rw [Nat.mul_succ] at hsteps
      omega
    · next hwide =>
      rw [Bool.and_eq_true, decide_eq_true_eq] at hwide
      exact .done hwide

namespace Widens

/-- The loop ends in one way only. -/
lemma unique {final' : Nat} (h : Widens text start stop padding final)
    (h' : Widens text start stop padding final') : final = final' := by
  induction h with
  | done wide =>
    cases h' with
    | done _ => rfl
    | round narrow _ => exact absurd narrow wide
  | round narrow _ ih =>
    cases h' with
    | done wide => exact absurd narrow wide
    | round _ rest => exact ih rest

/-- The loop ends with a window that need not be widened. -/
lemma wide (h : Widens text start stop padding final) :
    ¬IsNarrow text (window text (start - final) (stop + final)) := by
  induction h with
  | done wide => exact wide
  | round _ _ ih => exact ih

end Widens

/-- A window that is to be widened has as many characters as it was padded by, on one side at
least. -/
lemma lt_enough_of_isNarrow (hstart : start ≤ stop) (hstop : stop ≤ text.length)
    (h : IsNarrow text (window text (start - padding) (stop + padding))) : padding < enough := by
  have hopen : ¬(start ≤ padding ∧ text.length ≤ stop + padding) :=
    fun hcovers => not_isNarrow_of_covers hcovers.1 hcovers.2 h
  have hlength := h.2
  rw [length_window] at hlength
  omega

/-- The padding grows to less than a window that is long enough. -/
lemma Widens.le_enough (hstart : start ≤ stop) (hstop : stop ≤ text.length)
    (h : Widens text start stop padding final) (hmargin : margin ∣ padding)
    (hle : padding ≤ enough) : final ≤ enough := by
  induction h with
  | done _ => exact hle
  | round narrow _ ih =>
    have hlt := lt_enough_of_isNarrow hstart hstop narrow
    obtain ⟨rounds, rfl⟩ := hmargin
    -- both are whole numbers of margins, so there is room for another one
    refine ih ⟨rounds + 1, (Nat.mul_succ _ _).symm⟩ ?_
    unfold enough margin at hlt ⊢
    omega

/-! ## Context -/

/-- How many characters of kept text a hunk gains on either side at most. -/
def mostContext : Nat := 32 - margin

namespace Hunk

variable {h : Hunk}

/-- How far the window of a hunk is widened on either side until it need not be. -/
def widening (h : Hunk) (text : List Char) : Nat :=
  widen text h.newStart (h.newStart + h.oldLength) text.length 0

/-- The kept text that a hunk gains in front. -/
def front (h : Hunk) (text : List Char) : List Char :=
  window text (h.newStart - (h.widening text + margin)) h.newStart

/-- The kept text that a hunk gains behind. -/
def back (h : Hunk) (text : List Char) : List Char :=
  window text (h.newStart + h.oldLength)
    (h.newStart + h.oldLength + (h.widening text + margin))

lemma addContext_eq (hne : text ≠ []) : h.addContext text =
    { oldStart := h.oldStart - (h.front text).length
      newStart := h.newStart - (h.front text).length
      oldLength := h.oldLength + (h.front text).length + (h.back text).length
      newLength := h.newLength + (h.front text).length + (h.back text).length
      script := piece .equal (h.front text) ++ h.script ++ piece .equal (h.back text) } := by
  unfold addContext
  rw [if_neg (fun hempty => hne (List.isEmpty_iff.1 hempty))]
  rfl

lemma source_addContext_append (hne : text ≠ []) :
    (h.addContext text).source = h.front text ++ h.source ++ h.back text := by
  rw [addContext_eq hne]
  simp [source]

section Stands

variable (hlength : h.oldLength = h.source.length) (hstands : OccursAt h.source text h.newStart)

include hlength hstands

lemma stop_le_length : h.newStart + h.oldLength ≤ text.length :=
  hlength ▸ hstands.add_length_le

/-- The bound on the rounds does not end the loop that widens the hunk's window. -/
lemma widens_widening :
    Widens text h.newStart (h.newStart + h.oldLength) 0 (h.widening text) := by
  have hle := stop_le_length hlength hstands
  apply widens_widen (by omega)
  unfold margin
  omega

lemma widening_le : h.widening text ≤ enough :=
  (widens_widening hlength hstands).le_enough (Nat.le_add_right _ _)
    (stop_le_length hlength hstands) (Nat.dvd_zero _) (Nat.zero_le _)

lemma length_front : (h.front text).length =
    h.newStart - (h.newStart - (h.widening text + margin)) := by
  have hle := stop_le_length hlength hstands
  rw [front, length_window, Nat.min_eq_left (by omega)]

omit hlength hstands in
lemma length_back_le : (h.back text).length ≤ h.widening text + margin := by
  rw [back, length_window]
  omega

/-- With its context, the hunk expects what the text has in a window. -/
lemma source_addContext (hne : text ≠ []) : (h.addContext text).source =
    window text (h.newStart - (h.widening text + margin))
      (h.newStart + h.oldLength + (h.widening text + margin)) := by
  have hsource : h.source = window text h.newStart (h.newStart + h.oldLength) := by
    rw [hlength, window_of_occursAt hstands]
  rw [source_addContext_append hne, hsource, front, back, window_append (by omega) (by omega),
    window_append (by omega) (by omega)]

/-- With its context, the hunk stands where it says. -/
lemma occursAt_addContext (hne : text ≠ []) :
    OccursAt (h.addContext text).source text (h.addContext text).newStart := by
  have hle := stop_le_length hlength hstands
  have hnewStart : (h.addContext text).newStart = h.newStart - (h.widening text + margin) := by
    rw [addContext_eq hne]
    dsimp only
    rw [length_front hlength hstands]
    omega
  rw [source_addContext hlength hstands hne, hnewStart]
  exact occursAt_window (by omega) (by omega)

/-- With its context, the hunk can be found in one place only or is long enough. -/
lemma recognisable_addContext (hne : text ≠ []) :
    (∃! i, OccursAt (h.addContext text).source text i) ∨
      enough ≤ (h.addContext text).source.length := by
  have hle := stop_le_length hlength hstands
  -- the window that the loop ended with is in the middle of what the hunk expects
  have hparts : (h.addContext text).source =
      window text (h.newStart - (h.widening text + margin)) (h.newStart - h.widening text) ++
        window text (h.newStart - h.widening text) (h.newStart + h.oldLength + h.widening text) ++
        window text (h.newStart + h.oldLength + h.widening text)
          (h.newStart + h.oldLength + (h.widening text + margin)) := by
    rw [source_addContext hlength hstands hne, window_append (by omega) (by omega),
      window_append (by omega) (by omega)]
  have hwide := (widens_widening hlength hstands).wide
  have hthere := occursAt_addContext hlength hstands hne
  rw [hparts] at hthere ⊢
  by_cases hambiguous : Text.isAmbiguous text
      (window text (h.newStart - h.widening text) (h.newStart + h.oldLength + h.widening text))
  · right
    have hlong := Nat.le_of_not_lt fun hshort => hwide ⟨hambiguous, hshort⟩
    rw [List.length_append, List.length_append]
    omega
  · left
    have hmiddle : OccursAt (window text (h.newStart - h.widening text)
        (h.newStart + h.oldLength + h.widening text)) text (h.newStart - h.widening text) :=
      occursAt_window (by omega) (by omega)
    have honce := (isAmbiguous_eq_false_iff hmiddle).1 (Bool.eq_false_iff.2 hambiguous)
    exact existsUnique_of_append honce hthere

end Stands

/-- The context that a hunk is given in a text. -/
structure GainsContext (h : Hunk) (text : List Char) : Prop where
  /-- The loop that widens the hunk's window ends, and with this padding only. -/
  ends : ∀ padding, Widens text h.newStart (h.newStart + h.oldLength) 0 padding ↔
    padding = h.widening text
  /-- No offset goes below zero, and no window reaches out of the text. -/
  in_range : h.addContext? text = some (h.addContext text)
  /-- What the hunk gains on either side: its offsets go back by as much as there is in front, and
  its lengths grow by as much as there is on both sides. -/
  gained : (h.front text).length ≤ mostContext ∧ (h.back text).length ≤ mostContext ∧
    (h.addContext text).script =
      piece .equal (h.front text) ++ h.script ++ piece .equal (h.back text) ∧
    (h.addContext text).oldStart + (h.front text).length = h.oldStart ∧
    (h.addContext text).newStart + (h.front text).length = h.newStart ∧
    (h.addContext text).oldLength =
      h.oldLength + (h.front text).length + (h.back text).length ∧
    (h.addContext text).newLength =
      h.newLength + (h.front text).length + (h.back text).length
  /-- The hunk says how long the text is that it expects. -/
  measured : (h.addContext text).oldLength = (h.addContext text).source.length
  /-- The text that the hunk expects stands where the hunk says. -/
  stands : OccursAt (h.addContext text).source text (h.addContext text).newStart
  /-- It stands nowhere else, or is long enough. -/
  recognisable : (∃! i, OccursAt (h.addContext text).source text i) ∨
    enough ≤ (h.addContext text).source.length

/-- A hunk that stands in a text gains context there by which it can be recognised. -/
theorem gainsContext_of_occursAt (hne : text ≠ []) (hstart : h.oldStart = h.newStart)
    (hlength : h.oldLength = h.source.length) (hstands : OccursAt h.source text h.newStart) :
    h.GainsContext text := by
  have hloop := widens_widening hlength hstands
  constructor
  · intro padding
    constructor
    · exact fun h' => h'.unique hloop
    · rintro rfl
      exact hloop
  · exact addContext?_eq hstart text
  · have hwidening := widening_le hlength hstands
    have hfront := length_front hlength hstands
    have hback : (h.back text).length ≤ h.widening text + margin := length_back_le
    have hmost : enough + margin = mostContext := rfl
    refine ⟨by omega, by omega, ?_⟩
    rw [addContext_eq hne]
    dsimp only
    exact ⟨rfl, by omega, by omega, rfl, rfl⟩
  · rw [source_addContext_append hne, List.length_append, List.length_append, ← hlength,
      addContext_eq hne]
    dsimp only
    omega
  · exact occursAt_addContext hlength hstands hne
  · exact recognisable_addContext hlength hstands hne

/-- An insertion at the front of a text that repeats itself. -/
def repeating : Hunk := { newLength := 1, script := [⟨.insert, ['x']⟩] }

theorem gainsContext_repeating :
    repeating.oldStart = repeating.newStart ∧ repeating.oldLength = repeating.source.length ∧
      OccursAt repeating.source "abababababab".toList repeating.newStart ∧
      repeating.GainsContext "abababababab".toList ∧
      (repeating.addContext "abababababab".toList).source = "abababababab".toList := by
  have hstands : OccursAt repeating.source "abababababab".toList 0 := ⟨[], _, rfl, rfl⟩
  exact ⟨rfl, rfl, hstands, gainsContext_of_occursAt (by decide) rfl rfl hstands, by decide⟩

end Hunk

end LinkedNotes.Patch
