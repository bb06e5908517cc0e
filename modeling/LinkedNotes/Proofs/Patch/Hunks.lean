import LinkedNotes.Patch.Apply
import LinkedNotes.Proofs.Edit.Revisions
import LinkedNotes.Proofs.Text.Occurrence
import Mathlib.Algebra.Group.Int.Defs
import Mathlib.Data.List.Infix

/-!
# Hunks lead from one text to the other

The walk along a script keeps to one picture (`Walk.At`): what is left of the hunk being collected
is as the script leaves it, what is right of it is as it was. Context moves the ends of a hunk but
not the picture. So the hunks of a script lead step by step from its source to its target, each
at its own offset (`leads_hunksOf`), and applying them finds each where it says, or as much further
on as there is text in front (`applyFrom_shifted`).
-/

namespace LinkedNotes.Patch

open Edit

/-- The hunk says that it starts at the offset, and how long its two texts are. -/
structure Hunk.StartsAt (h : Hunk) (start : Nat) : Prop where
  oldStart_eq : h.oldStart = start
  newStart_eq : h.newStart = start
  oldLength_eq : h.oldLength = h.source.length
  newLength_eq : h.newLength = h.target.length

/-- The hunks lead from a text to the final one, each from where it says to where the next one is
to be applied. What is in front of a hunk is final, and no text on the way is longer than the
limit. -/
inductive Leads (limit : Nat) : List Char → List Hunk → List Char → Prop
  | done (text : List Char) : Leads limit text [] text
  | step {h : Hunk} {front back final : List Char} {r : List Hunk}
    (starts : h.StartsAt front.length) (front_final : front <+: final)
    (before_le : (front ++ h.source ++ back).length ≤ limit)
    (after_le : (front ++ h.target ++ back).length ≤ limit)
    (rest : Leads limit (front ++ h.target ++ back) r final) :
    Leads limit (front ++ h.source ++ back) (h :: r) final

/-! ## Context -/

section Context

variable {left middle right : List Char}

/-- The window in front of an offset is the end of what stands there. -/
lemma window_before (padding : Nat) :
    window (left ++ middle ++ right) (left.length - padding) left.length =
      left.drop (left.length - padding) := by
  rw [window, List.append_assoc, List.take_left]

/-- The window behind an offset is the start of what stands there. -/
lemma window_behind (padding : Nat) :
    window (left ++ middle ++ right) (left.length + middle.length)
      (left.length + middle.length + padding) = right.take padding := by
  rw [window, ← List.length_append, List.take_length_add_append, List.drop_left]

end Context

/-- Context moves the ends of a hunk into the text around it. -/
lemma Hunk.exists_addContext {h : Hunk} {left : List Char} (hstarts : h.StartsAt left.length)
    (right : List Char) :
    ∃ front pre post back, left = front ++ pre ∧ right = post ++ back ∧
      (h.addContext (left ++ h.source ++ right)).source = pre ++ h.source ++ post ∧
      (h.addContext (left ++ h.source ++ right)).target = pre ++ h.target ++ post ∧
      (h.addContext (left ++ h.source ++ right)).StartsAt front.length := by
  unfold Hunk.addContext
  split
  · exact ⟨left, [], [], right, by simp, by simp, by simp, by simp, hstarts⟩
  · obtain ⟨hold, hnew, holdLength, hnewLength⟩ := hstarts
    simp only [hold, hnew, holdLength, hnewLength]
    -- however wide the context gets, it is taken from both sides alike
    generalize widen _ _ _ _ _ + margin = padding
    rw [window_before, window_behind]
    have hfront : left.length - (left.drop (left.length - padding)).length =
        (left.take (left.length - padding)).length := by
      rw [List.length_drop, List.length_take]
      omega
    refine ⟨left.take (left.length - padding), left.drop (left.length - padding),
      right.take padding, right.drop padding, (List.take_append_drop _ _).symm,
      (List.take_append_drop _ _).symm, ?_, ?_, ?_⟩
    · simp [Hunk.source]
    · simp [Hunk.target]
    · constructor
      · exact hfront
      · exact hfront
      · simp [Hunk.source]; omega
      · simp [Hunk.target]; omega

/-! ## The walk -/

/-- Where a walk is. Between what is left and what is right of the hunk being collected stands its
source in the text before it, and its target in the text after it. -/
structure Walk.At (w : Walk) (left right : List Char) : Prop where
  before_eq : w.before = left ++ w.hunk.source ++ right
  after_eq : w.after = left ++ w.hunk.target ++ right
  oldOffset_eq : w.oldOffset = left.length + w.hunk.source.length
  newOffset_eq : w.newOffset = left.length + w.hunk.target.length
  oldLength_eq : w.hunk.oldLength = w.hunk.source.length
  newLength_eq : w.hunk.newLength = w.hunk.target.length
  starts : w.hunk.script ≠ [] → w.hunk.oldStart = left.length ∧ w.hunk.newStart = left.length

namespace Walk

variable {w : Walk} {left right : List Char} {limit : Nat}

lemma before_openHunk (w : Walk) : w.openHunk.before = w.before := by
  unfold openHunk
  split <;> rfl

lemma script_openHunk (w : Walk) : w.openHunk.hunk.script = w.hunk.script := by
  unfold openHunk
  split <;> rfl

/-- A segment taken in goes to the end of the hunk's source and target. -/
lemma hunk_insert (w : Walk) (text : List Char) :
    (w.insert ⟨.insert, text⟩).hunk.source = w.hunk.source ∧
      (w.insert ⟨.insert, text⟩).hunk.target = w.hunk.target ++ text := by
  simp [Hunk.source, Hunk.target, insert, script_openHunk]

lemma hunk_delete (w : Walk) (text : List Char) :
    (w.delete ⟨.delete, text⟩).hunk.source = w.hunk.source ++ text ∧
      (w.delete ⟨.delete, text⟩).hunk.target = w.hunk.target := by
  simp [Hunk.source, Hunk.target, delete, script_openHunk]

lemma hunk_keep (w : Walk) (text : List Char) :
    (w.keep ⟨.equal, text⟩).hunk.source = w.hunk.source ++ text ∧
      (w.keep ⟨.equal, text⟩).hunk.target = w.hunk.target ++ text := by
  simp [Hunk.source, Hunk.target, keep]

lemma at_start (text : List Char) : (start text).At [] text where
  before_eq := rfl
  after_eq := rfl
  oldOffset_eq := rfl
  newOffset_eq := rfl
  oldLength_eq := rfl
  newLength_eq := rfl
  starts h := absurd rfl h

namespace At

lemma startsAt (h : w.At left right) (hs : w.hunk.script ≠ []) : w.hunk.StartsAt left.length :=
  ⟨(h.starts hs).1, (h.starts hs).2, h.oldLength_eq, h.newLength_eq⟩

/-- An open hunk starts where the walk is. -/
lemma openHunk (h : w.At left right) : w.openHunk.At left right ∧
    w.openHunk.hunk.oldStart = left.length ∧ w.openHunk.hunk.newStart = left.length := by
  unfold Walk.openHunk
  split
  · next hs =>
    -- an empty hunk takes up nothing, so both offsets are the length of what is left of it
    have hscript : w.hunk.script = [] := List.isEmpty_iff.1 hs
    have hold := h.oldOffset_eq
    have hnew := h.newOffset_eq
    simp only [Hunk.source, Hunk.target, hscript, source_nil, target_nil, List.length_nil,
      Nat.add_zero] at hold hnew
    exact ⟨⟨h.before_eq, h.after_eq, h.oldOffset_eq, h.newOffset_eq, h.oldLength_eq,
      h.newLength_eq, fun _ => ⟨hold, hnew⟩⟩, hold, hnew⟩
  · next hs =>
    have hscript : w.hunk.script ≠ [] := fun hnil => hs (List.isEmpty_iff.2 hnil)
    exact ⟨h, h.starts hscript⟩

/-- The offset in the text after the hunk is where the hunk ends. -/
lemma split_after (h : w.At left right) :
    w.after.take w.newOffset = left ++ w.hunk.target ∧ w.after.drop w.newOffset = right := by
  rw [h.after_eq, h.newOffset_eq, ← List.length_append]
  exact ⟨List.take_left, List.drop_left⟩

/-- The hunk takes in a segment: it gains what the segment takes up in either text. -/
lemma extend {v : Walk} {s : Segment} (h : w.At left (s.old ++ right))
    (hscript : v.hunk.script = w.hunk.script ++ [s]) (hbefore : v.before = w.before)
    (hafter : v.after = left ++ w.hunk.target ++ s.new ++ right)
    (holdOffset : v.oldOffset = w.oldOffset + s.old.length)
    (hnewOffset : v.newOffset = w.newOffset + s.new.length)
    (holdLength : v.hunk.oldLength = w.hunk.oldLength + s.old.length)
    (hnewLength : v.hunk.newLength = w.hunk.newLength + s.new.length)
    (hstarts : v.hunk.oldStart = left.length ∧ v.hunk.newStart = left.length) :
    v.At left right := by
  have hsource : v.hunk.source = w.hunk.source ++ s.old := by simp [Hunk.source, hscript]
  have htarget : v.hunk.target = w.hunk.target ++ s.new := by simp [Hunk.target, hscript]
  constructor
  · rw [hbefore, h.before_eq, hsource]
    simp only [List.append_assoc]
  · rw [hafter, htarget]
    simp only [List.append_assoc]
  · rw [holdOffset, h.oldOffset_eq, hsource, List.length_append, Nat.add_assoc]
  · rw [hnewOffset, h.newOffset_eq, htarget, List.length_append, Nat.add_assoc]
  · rw [holdLength, h.oldLength_eq, hsource, List.length_append]
  · rw [hnewLength, h.newLength_eq, htarget, List.length_append]
  · exact fun _ => hstarts

lemma insert (text : List Char) (h : w.At left right) :
    (w.insert ⟨.insert, text⟩).At left right := by
  obtain ⟨hopen, hstarts⟩ := h.openHunk
  obtain ⟨htake, hdrop⟩ := hopen.split_after
  have hafter : (w.insert ⟨.insert, text⟩).after =
      left ++ w.openHunk.hunk.target ++ text ++ right := by
    simp only [Walk.insert, htake, hdrop]
  exact extend (s := ⟨.insert, text⟩) hopen rfl rfl hafter rfl rfl rfl rfl hstarts

lemma delete (text : List Char) (h : w.At left (text ++ right)) :
    (w.delete ⟨.delete, text⟩).At left right := by
  obtain ⟨hopen, hstarts⟩ := h.openHunk
  obtain ⟨htake, hdrop⟩ := hopen.split_after
  have hafter : (w.delete ⟨.delete, text⟩).after =
      left ++ w.openHunk.hunk.target ++ [] ++ right := by
    simp only [Walk.delete, htake, Segment.length, ← List.drop_drop, hdrop, List.drop_left,
      List.append_nil]
  exact extend (s := ⟨.delete, text⟩) hopen rfl rfl hafter rfl rfl rfl rfl hstarts

lemma keep (text : List Char) (h : w.At left (text ++ right)) (hs : w.hunk.script ≠ []) :
    (w.keep ⟨.equal, text⟩).At left right := by
  have hafter : w.after = left ++ w.hunk.target ++ text ++ right := by
    rw [h.after_eq, List.append_assoc _ text]
  exact extend (s := ⟨.equal, text⟩) h rfl rfl hafter rfl rfl rfl rfl (h.starts hs)

/-- Between hunks, kept text passes to the left. -/
lemma skip (text : List Char) (h : w.At left (text ++ right)) (hs : w.hunk.script = []) :
    (w.skip ⟨.equal, text⟩).At (left ++ text) right := by
  have hsource : w.hunk.source = [] := by rw [Hunk.source, hs, source_nil]
  have htarget : w.hunk.target = [] := by rw [Hunk.target, hs, target_nil]
  unfold Walk.skip
  constructor
  · simp only [h.before_eq, hsource, List.append_assoc, List.append_nil]
  · simp only [h.after_eq, htarget, List.append_assoc, List.append_nil]
  · simp only [h.oldOffset_eq, hsource, List.length_append, Segment.length, List.length_nil,
      Nat.add_zero]
  · simp only [h.newOffset_eq, htarget, List.length_append, Segment.length, List.length_nil,
      Nat.add_zero]
  · exact h.oldLength_eq
  · exact h.newLength_eq
  · exact fun hne => absurd hs hne

/-- A hunk that is put away leaves its target to the left. -/
lemma close (h : w.At left right) : w.close.At (left ++ w.hunk.target) right := by
  have hafter : w.after = left ++ w.hunk.target ++ [] ++ right := by
    rw [h.after_eq, List.append_nil]
  have hoffset : w.newOffset = (left ++ w.hunk.target).length + 0 := by
    rw [h.newOffset_eq, List.length_append, Nat.add_zero]
  exact ⟨hafter, hafter, hoffset, hoffset, rfl, rfl, fun hne => absurd rfl hne⟩

/-- The finished hunk leads from the text before it to the text after it. -/
lemma leads_finished {limit : Nat} {final : List Char} {r : List Hunk} (h : w.At left right)
    (hs : w.hunk.script ≠ []) (hfinal : left <+: final)
    (hlimit : left.length + w.hunk.source.length + w.hunk.target.length + right.length ≤ limit)
    (hr : Leads limit w.after r final) :
    Leads limit w.before (w.finished :: r) final := by
  -- context may be added, so the hunk starts somewhere in front of where it was opened
  have hbefore : w.before.length ≤ limit := by
    rw [h.before_eq, List.length_append, List.length_append]
    omega
  have hafter : w.after.length ≤ limit := by
    rw [h.after_eq, List.length_append, List.length_append]
    omega
  obtain ⟨front, pre, post, back, hleft, hright, hsource, htarget, hstarts⟩ :=
    Hunk.exists_addContext (h.startsAt hs) right
  rw [← h.before_eq] at hsource htarget hstarts
  have hb : w.before = front ++ w.finished.source ++ back := by
    rw [h.before_eq, Walk.finished, hsource, hleft, hright]
    simp only [List.append_assoc]
  have ha : w.after = front ++ w.finished.target ++ back := by
    rw [h.after_eq, Walk.finished, htarget, hleft, hright]
    simp only [List.append_assoc]
  rw [hb] at hbefore ⊢
  rw [ha] at hafter hr
  exact .step hstarts ((hleft ▸ List.prefix_append front pre).trans hfinal) hbefore hafter hr

end At

end Walk

/-! ## The hunks of a script -/

/-- From every walk up to a script, its hunks lead to what the walk has come to and the script's
target. No text on the way is longer than all that stands at either end together. -/
def LeadsOn (limit : Nat) (script : List Segment) : Prop :=
  ∀ (w : Walk) (left : List Char), w.At left (source script) →
    left.length + w.hunk.source.length + w.hunk.target.length + (source script).length +
      (target script).length ≤ limit →
    Leads limit w.before (hunksFrom w script) (left ++ w.hunk.target ++ target script)

lemma leadsOn_nil (limit : Nat) : LeadsOn limit [] := by
  intro w left h hlimit
  have hfinal : left ++ w.hunk.target ++ target [] = w.after := by rw [h.after_eq]; rfl
  rw [hfinal, hunksFrom]
  split
  · next hs =>
    have hscript : w.hunk.script = [] := List.isEmpty_iff.1 hs
    have hsame : w.before = w.after := by
      rw [h.before_eq, h.after_eq, Hunk.source, Hunk.target, hscript]
      rfl
    rw [hsame]
    exact .done w.after
  · next hs =>
    refine h.leads_finished (fun hnil => hs (List.isEmpty_iff.2 hnil)) ?_ ?_ (.done _)
    · rw [← hfinal, List.append_assoc]
      exact List.prefix_append _ _
    · omega

namespace LeadsOn

variable {limit : Nat} {r : List Segment}

lemma insert (ih : LeadsOn limit r) (text : List Char) : LeadsOn limit (⟨.insert, text⟩ :: r) := by
  intro w left h hlimit
  obtain ⟨hsource, htarget⟩ := w.hunk_insert text
  have hbefore : (w.insert ⟨.insert, text⟩).before = w.before := w.before_openHunk
  rw [source_cons, target_cons, old_insert, new_insert, List.nil_append,
    List.length_append] at hlimit
  have hrest := ih _ _ (h.insert text) (by
    rw [hsource, htarget, List.length_append]
    omega)
  rw [hbefore, htarget, ← List.append_assoc left, List.append_assoc _ text] at hrest
  exact hrest

lemma delete (ih : LeadsOn limit r) (text : List Char) : LeadsOn limit (⟨.delete, text⟩ :: r) := by
  intro w left h hlimit
  obtain ⟨hsource, htarget⟩ := w.hunk_delete text
  have hbefore : (w.delete ⟨.delete, text⟩).before = w.before := w.before_openHunk
  rw [source_cons, target_cons, old_delete, new_delete, List.nil_append,
    List.length_append] at hlimit
  have hrest := ih _ _ (h.delete text) (by
    rw [hsource, htarget, List.length_append]
    omega)
  rw [hbefore, htarget] at hrest
  exact hrest

section Equal

variable {w : Walk} {left text : List Char} (h : w.At left (text ++ source r))
  (hlimit : left.length + w.hunk.source.length + w.hunk.target.length +
    (text ++ source r).length + (text ++ target r).length ≤ limit)

include h hlimit

/-- Kept text within a hunk. -/
lemma keep (ih : LeadsOn limit r) (hs : w.hunk.script ≠ []) :
    Leads limit w.before (hunksFrom (w.keep ⟨.equal, text⟩) r)
      (left ++ w.hunk.target ++ (text ++ target r)) := by
  obtain ⟨hsource, htarget⟩ := w.hunk_keep text
  rw [List.length_append, List.length_append] at hlimit
  have hrest := ih _ _ (h.keep text hs) (by
    rw [hsource, htarget, List.length_append, List.length_append]
    omega)
  rw [htarget, ← List.append_assoc left, List.append_assoc _ text] at hrest
  exact hrest

/-- Kept text between hunks. -/
lemma skip (ih : LeadsOn limit r) (hs : w.hunk.script = []) :
    Leads limit w.before (hunksFrom (w.skip ⟨.equal, text⟩) r)
      (left ++ w.hunk.target ++ (text ++ target r)) := by
  have htarget : w.hunk.target = [] := by rw [Hunk.target, hs, target_nil]
  rw [List.length_append, List.length_append] at hlimit
  have hrest := ih _ _ (h.skip text hs) (by
    show (left ++ text).length + w.hunk.source.length + w.hunk.target.length + _ + _ ≤ _
    rw [List.length_append]
    omega)
  have hfinal : left ++ w.hunk.target ++ (text ++ target r) =
      left ++ text ++ w.hunk.target ++ target r := by
    rw [htarget, List.append_nil, List.append_nil, List.append_assoc]
  rw [hfinal]
  exact hrest

/-- Kept text that ends a hunk and stands between it and the next one. -/
lemma close (ih : LeadsOn limit r) (hs : w.hunk.script ≠ []) :
    Leads limit w.before (w.finished :: hunksFrom (w.close.skip ⟨.equal, text⟩) r)
      (left ++ w.hunk.target ++ (text ++ target r)) := by
  have hrest := ih _ _ (h.close.skip text rfl) (by
    rw [List.length_append, List.length_append] at hlimit
    show (left ++ w.hunk.target ++ text).length + 0 + 0 + _ + _ ≤ _
    rw [List.length_append, List.length_append]
    omega)
  have hfinal : left ++ w.hunk.target ++ (text ++ target r) =
      left ++ w.hunk.target ++ text ++ (w.close.skip ⟨.equal, text⟩).hunk.target ++ target r := by
    show _ = left ++ w.hunk.target ++ text ++ [] ++ target r
    rw [List.append_nil, List.append_assoc _ text]
  rw [← hfinal] at hrest
  refine h.leads_finished hs ?_ ?_ hrest
  · rw [List.append_assoc]
    exact List.prefix_append _ _
  · omega

end Equal

/-- Short kept text at the end of a script, which does not belong to the last hunk. -/
lemma last {w : Walk} {left text : List Char} (h : w.At left (text ++ source []))
    (hlimit : left.length + w.hunk.source.length + w.hunk.target.length +
      (text ++ source []).length + (text ++ target []).length ≤ limit)
    (hs : w.hunk.script ≠ []) :
    Leads limit w.before (hunksFrom (w.skip ⟨.equal, text⟩) [])
      (left ++ w.hunk.target ++ (text ++ target [])) := by
  have hfinal : left ++ w.hunk.target ++ (text ++ target []) = w.after := by
    rw [h.after_eq]
    rfl
  have hone : hunksFrom (w.skip ⟨.equal, text⟩) [] = [w.finished] :=
    if_neg fun hnil => hs (List.isEmpty_iff.1 hnil)
  rw [hfinal, hone]
  refine h.leads_finished hs ?_ ?_ (.done _)
  · rw [h.after_eq, List.append_assoc]
    exact List.prefix_append _ _
  · omega

lemma equal (ih : LeadsOn limit r) (text : List Char) : LeadsOn limit (⟨.equal, text⟩ :: r) := by
  intro w left h hlimit
  rw [source_cons, old_equal] at h hlimit
  rw [target_cons, new_equal] at hlimit ⊢
  rw [hunksFrom]
  dsimp only
  split
  · next hshort => exact keep h hlimit ih hshort.2.1
  · next hshort =>
    split
    · next hlong => exact close h hlimit ih hlong.2
    · next hlong =>
      by_cases hs : w.hunk.script = []
      · exact skip h hlimit ih hs
      -- kept text that is neither short nor long enough ends the script
      · have hlast : r = [] := by
          by_contra hne
          by_cases hle : 2 * margin ≤ text.length
          · exact hlong ⟨hle, hs⟩
          · exact hshort ⟨Nat.le_of_not_le hle, hs, hne⟩
        subst hlast
        exact last h hlimit hs

end LeadsOn

theorem leadsOn (limit : Nat) (script : List Segment) : LeadsOn limit script := by
  -- the walk and what is left of it vary, so they are part of what is proved by induction
  induction script with
  | nil => exact leadsOn_nil limit
  | cons s r ih =>
    obtain ⟨kind, text⟩ := s
    cases kind with
    | equal => exact ih.equal text
    | insert => exact ih.insert text
    | delete => exact ih.delete text

/-- The hunks of a script lead from its source to its target. -/
theorem leads_hunksOf (script : List Segment) :
    Leads ((source script).length + (target script).length) (source script)
      (hunksOf (source script) script) (target script) :=
  leadsOn _ script _ [] (Walk.at_start (source script)) (by
    show 0 + 0 + 0 + (source script).length + (target script).length ≤ _
    omega)

/-! ## Applying hunks -/

/-- A hunk's source in its place is overwritten by its target. -/
lemma Hunk.splice_append (h : Hunk) (front back : List Char) :
    h.splice front.length (front ++ h.source ++ back) = front ++ h.target ++ back := by
  have htake : (front ++ h.source ++ back).take front.length = front := by
    rw [List.append_assoc, List.take_left]
  have hdrop : (front ++ h.source ++ back).drop (front.length + h.source.length) = back := by
    rw [← List.length_append, List.drop_left]
  rw [Hunk.splice, htake, hdrop]

/-- A number that has 64 bits with a sign is kept as it is. -/
lemma signed_eq {n : Int} (hlow : -2 ^ 63 ≤ n) (hhigh : n < 2 ^ 63) : signed n = n := by
  rw [signed, Text.offsetLimit]
  exact Int.bmod_eq_of_le (by omega) (by omega)

/-! A text in front of the one that hunks are made for shifts them all alike, and a text behind it
does not matter to them. -/

section Shifted

variable {h : Hunk} {front back : List Char} (pre post : List Char)

lemma Hunk.expected_shifted (hstarts : h.StartsAt front.length)
    (hlimit : 2 * (pre.length + front.length) < Text.offsetLimit) :
    h.expected pre.length = pre.length + front.length := by
  rw [Text.offsetLimit] at hlimit
  have hstart : signed front.length = front.length := signed_eq (by omega) (by omega)
  rw [Hunk.expected, hstarts.newStart_eq, hstart, signed_eq (by omega) (by omega)]
  omega

/-- A hunk that is found as far on as the shift goes passes the shift on. -/
lemma Hunk.drift_shifted (hstarts : h.StartsAt front.length)
    (hlimit : 2 * (pre.length + front.length) < Text.offsetLimit) :
    h.drift (pre.length + front.length) = pre.length := by
  rw [Text.offsetLimit] at hlimit
  have hstart : signed front.length = front.length := signed_eq (by omega) (by omega)
  have hfound : signed (pre.length + front.length : Nat) = (pre.length + front.length : Nat) :=
    signed_eq (by omega) (by omega)
  rw [Hunk.drift, hstarts.newStart_eq, hstart, hfound, signed_eq (by omega) (by omega)]
  omega

lemma Hunk.occursAt_shifted (h : Hunk) (front back pre post : List Char) :
    Text.OccursAt h.source (pre ++ (front ++ h.source ++ back) ++ post)
      (pre.length + front.length) :=
  ⟨pre ++ front, back ++ post, by simp only [List.append_assoc], List.length_append⟩

/-- With the shift as its drift, a hunk that says where it starts is found there. -/
lemma Hunk.place_shifted (hstarts : h.StartsAt front.length)
    (hlimit : 2 * (pre.length + front.length) < Text.offsetLimit) :
    h.place pre.length (pre ++ (front ++ h.source ++ back) ++ post) =
      some (pre.length + front.length) := by
  rw [Hunk.place, Hunk.expected_shifted pre hstarts hlimit]
  exact Text.locate_self (h.occursAt_shifted front back pre post)

lemma Hunk.splice_shifted (h : Hunk) (front back pre post : List Char) :
    h.splice (pre.length + front.length) (pre ++ (front ++ h.source ++ back) ++ post) =
      pre ++ (front ++ h.target ++ back) ++ post := by
  have hsplice := h.splice_append (pre ++ front) (back ++ post)
  simp only [List.length_append, List.append_assoc] at hsplice ⊢
  exact hsplice

/-- Hunks that lead from one text to another one turn it into that when they are applied, whatever
stands in front of it and behind it. -/
theorem applyFrom_shifted {limit : Nat} {text final : List Char} {hunks : List Hunk}
    (h : Leads limit text hunks final)
    (hlimit : 2 * (pre.length + final.length) < Text.offsetLimit) (number : Nat) :
    applyFrom number pre.length (pre ++ text ++ post) hunks = .ok (pre ++ final ++ post) := by
  induction h generalizing number with
  | done text => rfl
  | @step h front back final r starts front_final before_le after_le rest ih =>
    have hlt : 2 * (pre.length + front.length) < Text.offsetLimit := by
      have hle := front_final.length_le
      omega
    -- each hunk is found exactly where it starts, so the drift stays the shift
    rw [applyFrom, Hunk.place_shifted pre post starts hlt]
    dsimp only
    rw [Hunk.drift_shifted pre starts hlt, Hunk.splice_shifted]
    exact ih hlimit (number + 1)

end Shifted

/-- The hunks of any script turn its source into its target. -/
theorem applyHunks_hunksOf {script : List Segment}
    (hlimit : 2 * (target script).length < Text.offsetLimit) :
    applyHunks (source script) (hunksOf (source script) script) = .ok (target script) := by
  have h := applyFrom_shifted [] [] (leads_hunksOf script) (by simpa using hlimit) 1
  simpa [applyHunks] using h

end LinkedNotes.Patch
