import LinkedNotes.Proofs.Patch.Hunks
import LinkedNotes.Proofs.Patch.Wire

/-!
# Patches make the text they were made for

The hunks that lead from one text to another can be written, and are the same when they are read
back. So a patch applied to the text it starts from yields the text it was made for.
-/

namespace LinkedNotes.Patch

open Edit

/-- Hunks that lead from one text to another can be written if the texts on the way are short
enough for their lengths to have 64 bits. -/
lemma isWritable_of_leads {limit : Nat} {text final : List Char} {hunks : List Hunk}
    (h : Leads limit text hunks final) (hlimit : limit < Text.offsetLimit)
    (hfinal : final.length + 1 < Text.offsetLimit) : ∀ hunk ∈ hunks, hunk.IsWritable := by
  induction h with
  | done text => exact fun hunk hmem => absurd hmem List.not_mem_nil
  | @step h front back final r starts front_final before_le after_le rest ih =>
    intro hunk hmem
    rcases List.mem_cons.1 hmem with rfl | hmem
    · have hstart := front_final.length_le
      rw [List.length_append, List.length_append] at before_le after_le
      obtain ⟨hold, hnew, holdLength, hnewLength⟩ := starts
      exact ⟨holdLength, hnewLength, .of_lt (by omega) (by omega), .of_lt (by omega) (by omega)⟩
    · exact ih hfinal hunk hmem

/-- The patch of a script turns its source into its target. -/
theorem apply_write_hunksOf {script : List Segment}
    (hsource : 2 * (source script).length < Text.offsetLimit)
    (htarget : 2 * (target script).length < Text.offsetLimit) :
    apply (source script) (write (hunksOf (source script) script)) = .ok (target script) := by
  have hwritable := isWritable_of_leads (leads_hunksOf script) (by omega) (by
    rw [Text.offsetLimit] at *
    omega)
  rw [apply, read_write hwritable]
  exact applyHunks_hunksOf htarget

/-- The patch of two texts, written, read back and applied to the first, yields the second. -/
theorem apply_write_hunksBetween (old new : List Char) (hold : old.length < 2 ^ 63)
    (hnew : new.length < 2 ^ 63) : apply old (write (hunksBetween old new)) = .ok new := by
  obtain ⟨hsource, htarget⟩ := turns_diff old new
  have hround : apply (source (diff old new)) (write (hunksOf (source (diff old new))
      (diff old new))) = .ok (target (diff old new)) := by
    apply apply_write_hunksOf
    · rw [hsource, Text.offsetLimit]
      omega
    · rw [htarget, Text.offsetLimit]
      omega
  rw [hsource, htarget] at hround
  exact hround

/-- A patch of two hunks, with a line feed and a character of several bytes. -/
theorem apply_write_hunksBetween_two_hunks :
    apply "one\n0123456789 two".toList
        (write (hunksBetween "one\n0123456789 two".toList "öne\n0123456789 to".toList)) =
      .ok "öne\n0123456789 to".toList :=
  apply_write_hunksBetween _ _ (by decide) (by decide)

end LinkedNotes.Patch
