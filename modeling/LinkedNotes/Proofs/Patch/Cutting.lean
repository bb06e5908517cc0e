import LinkedNotes.Proofs.Patch.Hunks
import Mathlib.Algebra.Group.Nat.Defs

/-!
# Cutting a script into hunks

Whatever the script, as long as it starts from the text: cutting it never reaches beyond the ends of
a text and takes no offset below zero (`hunksOf?_eq`), each hunk says where it starts and how long
its two texts are, and each is found there when the hunks are applied in turn (`places_of_leads`).
Segments may be empty, and neighbours may be of one kind.
-/

namespace LinkedNotes.Patch

open Edit

/-! ## Steps that mind the ends of a text -/

/-- The difference, if that is not below zero. -/
def minus? (m n : Nat) : Option Nat := if n ≤ m then some (m - n) else none

/-- The characters from `start` up to `stop`, if the text has them all. -/
def slice? (text : List Char) (start stop : Nat) : Option (List Char) :=
  if start ≤ stop ∧ stop ≤ text.length then some ((text.take stop).drop start) else none

/-- Write `new` over the characters from `start` up to `stop`, if the text has them all. -/
def splice? (text : List Char) (start stop : Nat) (new : List Char) : Option (List Char) :=
  if start ≤ stop ∧ stop ≤ text.length then some (text.take start ++ new ++ text.drop stop)
  else none

/-- The characters from `start` up to `stop`, after both were moved into the text. -/
def clamped? (text : List Char) (start stop : Nat) : Option (List Char) :=
  let first := min start text.length
  slice? text first (max (min stop text.length) first)

/-- Widen a window as `widen` does, if every window on the way is one of the text. -/
def widen? (text : List Char) (start stop : Nat) : Nat → Nat → Option Nat
  | 0, padding => some padding
  | steps + 1, padding => do
    let pattern ← clamped? text (start - padding) (stop + padding)
    if Text.isAmbiguous text pattern && pattern.length < enough then
      widen? text start stop steps (padding + margin)
    else some padding

/-- Add context to a hunk, if it has room for that in front of it. -/
def Hunk.addContext? (h : Hunk) (text : List Char) : Option Hunk :=
  if text.isEmpty then some h
  else do
    let start := h.newStart
    let stop := h.newStart + h.oldLength
    let padding := (← widen? text start stop text.length 0) + margin
    let front ← clamped? text (start - padding) start
    let back ← clamped? text stop (stop + padding)
    let oldStart ← minus? h.oldStart front.length
    let newStart ← minus? h.newStart front.length
    some {
      oldStart, newStart
      oldLength := h.oldLength + front.length + back.length
      newLength := h.newLength + front.length + back.length
      script := piece .equal front ++ h.script ++ piece .equal back }

namespace Walk

/-- Take an insertion into the hunk, if its place is in the text. -/
def insert? (w : Walk) (s : Segment) : Option Walk := do
  let after ← splice? w.after w.newOffset w.newOffset s.text
  some { w.insert s with after }

/-- Take a deletion into the hunk, if what it deletes is in the text. -/
def delete? (w : Walk) (s : Segment) : Option Walk := do
  let after ← splice? w.after w.newOffset (w.newOffset + s.length) []
  some { w.delete s with after }

/-- The hunk being collected, with its context. -/
def finished? (w : Walk) : Option Hunk := w.hunk.addContext? w.before

end Walk

/-- The hunks of the rest of a script, if no step on the way reaches out of a text. -/
def hunksFrom? (w : Walk) : List Segment → Option (List Hunk)
  | [] => if w.hunk.script.isEmpty then some [] else w.finished?.map ([·])
  | s :: r =>
    match s.kind with
    | .insert => do hunksFrom? (← w.insert? s) r
    | .delete => do hunksFrom? (← w.delete? s) r
    | .equal =>
      if s.length ≤ 2 * margin ∧ w.hunk.script ≠ [] ∧ r ≠ [] then hunksFrom? (w.keep s) r
      else if 2 * margin ≤ s.length ∧ w.hunk.script ≠ [] then do
        let h ← w.finished?
        let rest ← hunksFrom? (w.close.skip s) r
        some (h :: rest)
      else hunksFrom? (w.skip s) r

/-- The hunks of a script that starts from `text`, if no step on the way reaches out of a text. The
number of the last segment is looked up only if there are any. -/
def hunksOf? (text : List Char) (script : List Segment) : Option (List Hunk) :=
  if script.isEmpty then some []
  else do
    let _ ← minus? script.length 1
    hunksFrom? (Walk.start text) script

/-! ## No step reaches out of a text -/

lemma minus?_eq {m n : Nat} (h : n ≤ m) : minus? m n = some (m - n) := if_pos h

lemma slice?_eq {text : List Char} {start stop : Nat} (h : start ≤ stop) (h' : stop ≤ text.length) :
    slice? text start stop = some (window text start stop) := if_pos ⟨h, h'⟩

lemma splice?_eq {text : List Char} {start stop : Nat} (h : start ≤ stop) (h' : stop ≤ text.length)
    (new : List Char) :
    splice? text start stop new = some (text.take start ++ new ++ text.drop stop) := if_pos ⟨h, h'⟩

/-- A window that starts behind its end or behind the text is empty. -/
lemma window_eq_nil {text : List Char} {start stop : Nat} (h : min stop text.length ≤ start) :
    window text start stop = [] :=
  List.drop_eq_nil_of_le (List.length_take.trans_le h)

/-- A window that is moved into the text holds what the text has of it. -/
lemma clamped?_eq (text : List Char) (start stop : Nat) :
    clamped? text start stop = some (window text start stop) := by
  unfold clamped?
  rw [slice?_eq (le_max_right _ _) (by omega)]
  by_cases hstart : text.length ≤ start
  · rw [window_eq_nil (by omega), window_eq_nil (by omega)]
  · rw [Nat.min_eq_left (by omega)]
    by_cases hstop : start ≤ min stop text.length
    · rw [Nat.max_eq_left hstop, window, window, ← List.take_eq_take_min]
    · rw [Nat.max_eq_right (by omega), window_eq_nil (by omega), window_eq_nil (by omega)]

lemma widen?_eq (text : List Char) (start stop steps padding : Nat) :
    widen? text start stop steps padding = some (widen text start stop steps padding) := by
  induction steps generalizing padding with
  | zero => rfl
  | succ steps ih =>
    rw [widen?, clamped?_eq, widen]
    dsimp only [Option.bind_eq_bind, Option.bind_some]
    split
    · exact ih _
    · rfl

lemma length_window (text : List Char) (start stop : Nat) :
    (window text start stop).length = min stop text.length - start := by
  rw [window, List.length_drop, List.length_take]

/-- A hunk that starts at one offset in both texts has room for its context. -/
lemma Hunk.addContext?_eq {h : Hunk} (hstart : h.oldStart = h.newStart) (text : List Char) :
    h.addContext? text = some (h.addContext text) := by
  unfold Hunk.addContext? Hunk.addContext
  split
  · rfl
  · -- the context in front is no longer than what stands there
    have hroom : (window text
        (h.newStart - (widen text h.newStart (h.newStart + h.oldLength) text.length 0 + margin))
        h.newStart).length ≤ h.newStart := by
      rw [length_window]
      omega
    simp only [widen?_eq, clamped?_eq, minus?_eq hroom, minus?_eq (hroom.trans hstart.ge),
      Option.bind_eq_bind, Option.bind_some]

namespace Walk.At

variable {w : Walk} {left right : List Char}

lemma insert?_eq (h : w.At left right) (s : Segment) : w.insert? s = some (w.insert s) := by
  have hle : w.newOffset ≤ w.after.length := by
    rw [h.after_eq, h.newOffset_eq, List.length_append, List.length_append]
    omega
  rw [Walk.insert?, splice?_eq le_rfl hle]
  unfold Walk.insert Walk.openHunk
  split <;> rfl

lemma delete?_eq (text : List Char) (h : w.At left (text ++ right)) :
    w.delete? ⟨.delete, text⟩ = some (w.delete ⟨.delete, text⟩) := by
  have hle : w.newOffset + text.length ≤ w.after.length := by
    rw [h.after_eq, h.newOffset_eq]
    simp only [List.length_append]
    omega
  rw [Walk.delete?, show Segment.length ⟨.delete, text⟩ = text.length from rfl,
    splice?_eq (Nat.le_add_right _ _) hle, List.append_nil]
  unfold Walk.delete Walk.openHunk
  split <;> rfl

lemma finished?_eq (h : w.At left right) (hs : w.hunk.script ≠ []) :
    w.finished? = some w.finished := by
  have hstarts := h.starts hs
  exact Hunk.addContext?_eq (hstarts.1.trans hstarts.2.symm) w.before

end Walk.At

/-- From every walk up to a script, its hunks are cut without a step out of a text. -/
theorem hunksFrom?_eq (script : List Segment) {w : Walk} {left : List Char}
    (h : w.At left (source script)) : hunksFrom? w script = some (hunksFrom w script) := by
  induction script generalizing w left with
  | nil =>
    rw [hunksFrom?, hunksFrom]
    split
    · rfl
    · next hs => rw [h.finished?_eq fun hnil => hs (List.isEmpty_iff.2 hnil), Option.map_some]
  | cons s r ih =>
    obtain ⟨kind, text⟩ := s
    cases kind with
    | insert =>
      rw [source_cons, old_insert, List.nil_append] at h
      show (w.insert? _ >>= fun v => hunksFrom? v r) = some (hunksFrom _ r)
      rw [h.insert?_eq]
      exact ih (h.insert text)
    | delete =>
      rw [source_cons, old_delete] at h
      show (w.delete? _ >>= fun v => hunksFrom? v r) = some (hunksFrom _ r)
      rw [h.delete?_eq text]
      exact ih (h.delete text)
    | equal =>
      rw [source_cons, old_equal] at h
      rw [hunksFrom?, hunksFrom]
      dsimp only
      split
      · next hshort => exact ih (h.keep text hshort.2.1)
      · next hshort =>
        split
        · next hlong =>
          rw [h.finished?_eq hlong.2, ih (h.close.skip text rfl)]
          rfl
        · next hlong =>
          by_cases hs : w.hunk.script = []
          · exact ih (h.skip text hs)
          -- kept text that is neither short nor long enough ends the script
          · have hlast : r = [] := by
              by_contra hne
              by_cases hle : 2 * margin ≤ text.length
              · exact hlong ⟨hle, hs⟩
              · exact hshort ⟨Nat.le_of_not_le hle, hs, hne⟩
            subst hlast
            have hopen : ¬(w.skip ⟨.equal, text⟩).hunk.script.isEmpty = true :=
              fun hnil => hs (List.isEmpty_iff.1 hnil)
            have hfinished : (w.skip ⟨.equal, text⟩).finished? =
                some (w.skip ⟨.equal, text⟩).finished := h.finished?_eq hs
            rw [hunksFrom?, hunksFrom, if_neg hopen, if_neg hopen, hfinished, Option.map_some]

/-- The hunks of a script that starts from a text are cut without a step out of a text. -/
theorem hunksOf?_eq (script : List Segment) :
    hunksOf? (source script) script = some (hunksOf (source script) script) := by
  unfold hunksOf?
  split
  · next hnil =>
    rw [List.isEmpty_iff.1 hnil]
    rfl
  · next hne =>
    have hpos : 1 ≤ script.length := List.length_pos_of_ne_nil fun h => hne (List.isEmpty_iff.2 h)
    rw [minus?_eq hpos]
    exact hunksFrom?_eq script (Walk.at_start (source script))

/-! ## Where hunks are found -/

/-- Where hunks are found that are applied in turn, up to the first that is found nowhere. -/
def placesFrom (drift : Int) (text : List Char) : List Hunk → List (Option Nat)
  | [] => []
  | h :: r =>
    match h.place drift text with
    | none => [none]
    | some start => some start :: placesFrom (h.drift start) (h.splice start text) r

/-- Where hunks are found that are applied to a text. -/
def places (text : List Char) (hunks : List Hunk) : List (Option Nat) := placesFrom 0 text hunks

/-- Hunks that lead from one text to another one say how long their texts are, and start at one
offset in both. -/
lemma measured_of_leads {limit : Nat} {text final : List Char} {hunks : List Hunk}
    (h : Leads limit text hunks final) : ∀ hunk ∈ hunks, hunk.oldStart = hunk.newStart ∧
      hunk.oldLength = hunk.source.length ∧ hunk.newLength = hunk.target.length := by
  induction h with
  | done text => exact fun hunk hmem => absurd hmem List.not_mem_nil
  | step starts _ _ _ _ ih =>
    refine List.forall_mem_cons.2 ⟨?_, ih⟩
    exact ⟨starts.oldStart_eq.trans starts.newStart_eq.symm, starts.oldLength_eq,
      starts.newLength_eq⟩

/-- Hunks that lead from one text to another one are found where they say, or as much further on as
there is text in front. -/
theorem placesFrom_shifted (pre post : List Char) {limit : Nat} {text final : List Char}
    {hunks : List Hunk} (h : Leads limit text hunks final)
    (hlimit : 2 * (pre.length + final.length) < Text.offsetLimit) :
    placesFrom pre.length (pre ++ text ++ post) hunks =
      hunks.map fun hunk => some (pre.length + hunk.newStart) := by
  induction h with
  | done text => rfl
  | @step h front back final r starts front_final before_le after_le rest ih =>
    have hlt : 2 * (pre.length + front.length) < Text.offsetLimit := by
      have hle := front_final.length_le
      omega
    rw [placesFrom, Hunk.place_shifted pre post starts hlt, List.map_cons, starts.newStart_eq]
    dsimp only
    rw [Hunk.drift_shifted pre starts hlt, Hunk.splice_shifted, ih hlimit]

/-- Hunks that lead from one text to another one are found where they say. -/
theorem places_of_leads {limit : Nat} {text final : List Char} {hunks : List Hunk}
    (h : Leads limit text hunks final) (hlimit : 2 * final.length < Text.offsetLimit) :
    places text hunks = hunks.map fun hunk => some hunk.newStart := by
  have hplaces := placesFrom_shifted [] [] h (by simpa using hlimit)
  simpa [places] using hplaces

/-! ## Hunks of a script -/

/-- How a script that starts from a text is cut into hunks. -/
structure IsCut (text : List Char) (script : List Segment) : Prop where
  /-- No step on the way reaches out of a text or below zero. -/
  in_range : hunksOf? text script = some (hunksOf text script)
  /-- Each hunk starts at one offset in both texts, and says how long they are. -/
  measured : ∀ h ∈ hunksOf text script, h.oldStart = h.newStart ∧
    h.oldLength = h.source.length ∧ h.newLength = h.target.length
  /-- Applied to the text, the hunks turn it into the target of the script, each found at its own
  offset. Offsets are read as signed numbers of 64 bits, which no text is too long for. -/
  applies : (target script).length < 2 ^ 63 →
    applyHunks text (hunksOf text script) = .ok (target script) ∧
      places text (hunksOf text script) =
        (hunksOf text script).map fun h => some h.newStart

/-- Every script that starts from a text is cut into hunks that turn the text into its target. -/
theorem isCut_of_source_eq {text : List Char} {script : List Segment}
    (h : source script = text) : IsCut text script := by
  subst h
  have hleads := leads_hunksOf script
  refine ⟨hunksOf?_eq script, measured_of_leads hleads, fun hlength => ?_⟩
  have hlimit : 2 * (target script).length < Text.offsetLimit := by
    rw [Text.offsetLimit]
    omega
  exact ⟨applyHunks_hunksOf hlimit, places_of_leads hleads hlimit⟩

/-- A script with empty segments and with neighbours of one kind, which makes two hunks. -/
def uneven : List Segment :=
  [⟨.insert, []⟩, ⟨.delete, ['a']⟩, ⟨.delete, ['b']⟩, ⟨.equal, []⟩, ⟨.insert, ['é']⟩,
    ⟨.equal, "01234".toList⟩, ⟨.equal, "56789".toList⟩, ⟨.equal, "abcdefgh".toList⟩,
    ⟨.delete, []⟩, ⟨.insert, ['x']⟩, ⟨.insert, ['y']⟩, ⟨.equal, "tail".toList⟩]

theorem isCut_uneven :
    source uneven = "ab0123456789abcdefghtail".toList ∧
      IsCut "ab0123456789abcdefghtail".toList uneven ∧
      applyHunks "ab0123456789abcdefghtail".toList
          (hunksOf "ab0123456789abcdefghtail".toList uneven) =
        .ok "é0123456789abcdefghxytail".toList := by
  have hsource : source uneven = "ab0123456789abcdefghtail".toList := by decide
  have hcut := isCut_of_source_eq hsource
  exact ⟨hsource, hcut, (hcut.applies (by decide)).1⟩

end LinkedNotes.Patch
