import LinkedNotes.Proofs.Patch.Cutting

/-!
# Patches in a text that was moved

A text that hunks are made for may stand anywhere in a longer one. If the first hunk can be found in
one place only, it is found there, however far that is from where it says. From then on the drift is
the length of what stands in front of the text, and each later hunk is looked for exactly where it
belongs (`placesFrom_shifted`), so it does not matter how often what it expects occurs elsewhere.
-/

namespace LinkedNotes.Patch

open Edit

/-- The first hunk, if there is one, expects a text that occurs in one place only. -/
def FirstOccursOnce (hunks : List Hunk) (text : List Char) : Prop :=
  ∀ h ∈ hunks.head?, ∃! i, Text.OccursAt h.source text i

/-- A drift matters only to where the first hunk is placed. -/
lemma applyFrom_congr_drift {h : Hunk} {drift drift' : Int} {text : List Char}
    (hplace : h.place drift text = h.place drift' text) (number : Nat) (r : List Hunk) :
    applyFrom number drift text (h :: r) = applyFrom number drift' text (h :: r) ∧
      placesFrom drift text (h :: r) = placesFrom drift' text (h :: r) := by
  rw [applyFrom, applyFrom, placesFrom, placesFrom, hplace]
  exact ⟨rfl, rfl⟩

/-- Hunks whose first one is found in one place only turn the text they lead from into the one they
lead to, wherever it stands. -/
lemma applyHunks_of_firstOccursOnce (pre post : List Char) {limit : Nat} {text final : List Char}
    {hunks : List Hunk} (h : Leads limit text hunks final)
    (hlimit : 2 * (pre.length + final.length) < Text.offsetLimit)
    (hfirst : FirstOccursOnce hunks (pre ++ text ++ post)) :
    applyHunks (pre ++ text ++ post) hunks = .ok (pre ++ final ++ post) ∧
      places (pre ++ text ++ post) hunks =
        hunks.map fun hunk => some (pre.length + hunk.newStart) := by
  have happly := applyFrom_shifted pre post h hlimit 1
  have hplaces := placesFrom_shifted pre post h hlimit
  cases h with
  | done text => exact ⟨rfl, rfl⟩
  | @step h front back final r starts front_final before_le after_le rest =>
    have hlt : 2 * (pre.length + front.length) < Text.offsetLimit := by
      have hle := front_final.length_le
      omega
    -- the first hunk is found where the shift would have it be looked for, since it is nowhere else
    have hplace : h.place 0 (pre ++ (front ++ h.source ++ back) ++ post) =
        h.place pre.length (pre ++ (front ++ h.source ++ back) ++ post) := by
      have hoccurs := h.occursAt_shifted front back pre post
      have honce := hfirst h rfl
      rw [Hunk.place_shifted pre post starts hlt]
      exact Text.locate_of_unique hoccurs fun j hj => honce.unique hj hoccurs
    obtain ⟨happly_drift, hplaces_drift⟩ := applyFrom_congr_drift hplace 1 r
    exact ⟨happly_drift.trans happly, hplaces_drift.trans hplaces⟩

/-- A patch finds the text it was made for within a longer one, if its first hunk can be found in
one place only: it turns that text into the new one and leaves what stands around it as it is. Each
hunk is found as much further on than it says as there is text in front. No text is so long that its
offsets do not have 64 bits with a sign. -/
theorem applyHunks_hunksBetween_shifted (pre old post new : List Char)
    (hlength : pre.length + new.length < 2 ^ 63)
    (hfirst : FirstOccursOnce (hunksBetween old new) (pre ++ old ++ post)) :
    applyHunks (pre ++ old ++ post) (hunksBetween old new) = .ok (pre ++ new ++ post) ∧
      places (pre ++ old ++ post) (hunksBetween old new) =
        (hunksBetween old new).map fun h => some (pre.length + h.newStart) := by
  obtain ⟨hsource, htarget⟩ := turns_diff old new
  have hleads := leads_hunksOf (diff old new)
  rw [hsource, htarget] at hleads
  apply applyHunks_of_firstOccursOnce pre post hleads _ hfirst
  rw [Text.offsetLimit]
  omega

/-- The text of the second hunk stands in four places around the one it is meant for. -/
theorem applyHunks_hunksBetween_repetitive :
    FirstOccursOnce (hunksBetween "A0123456789b".toList "B0123456789c".toList)
        "6789b6789bA0123456789b6789b6789b".toList ∧
      applyHunks "6789b6789bA0123456789b6789b6789b".toList
          (hunksBetween "A0123456789b".toList "B0123456789c".toList) =
        .ok "6789b6789bB0123456789c6789b6789b".toList ∧
      (hunksBetween "A0123456789b".toList "B0123456789c".toList).map (·.source) =
        ["A0123".toList, "6789b".toList] := by
  have hhunks : (hunksBetween "A0123456789b".toList "B0123456789c".toList).map (·.source) =
      ["A0123".toList, "6789b".toList] := by decide +kernel
  have hfirst : FirstOccursOnce (hunksBetween "A0123456789b".toList "B0123456789c".toList)
      "6789b6789bA0123456789b6789b6789b".toList := by
    intro h hh
    have hsource : h.source = "A0123".toList := by
      have hhead := congrArg List.head? hhunks
      rw [List.head?_map, hh] at hhead
      exact Option.some.inj hhead
    rw [hsource]
    exact Text.existsUnique_occursAt (by decide : _ = [10])
  exact ⟨hfirst, (applyHunks_hunksBetween_shifted "6789b6789b".toList _ "6789b6789b".toList _
    (by decide) hfirst).1, hhunks⟩

end LinkedNotes.Patch
