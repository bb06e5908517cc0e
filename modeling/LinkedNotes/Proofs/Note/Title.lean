import LinkedNotes.Note.Content
import LinkedNotes.Proofs.Text.Decimal
import Mathlib.Data.List.DropRight

/-!
# Trimmed titles

Every title that a note can get, whether it was asked for or generated, is trimmed: there is
something in it, and no blank stands at either end. Nothing is left of a title that holds only
blanks, and different numbers have different generated titles.
-/

namespace LinkedNotes

namespace Text

lemma trim_eq_rdropWhile (text : List Char) : trim text = (trimFront text).rdropWhile isBlank := rfl

/-- A trimmed text does not end in a blank. -/
lemma isBlank_getLast?_trim {text : List Char} {c : Char} (h : (trim text).getLast? = some c) :
    isBlank c = false := by
  rw [trim_eq_rdropWhile] at h
  have hne : (trimFront text).rdropWhile isBlank ≠ [] := by
    intro hnil
    rw [hnil] at h
    cases h
  have hlast := List.rdropWhile_last_not isBlank (trimFront text) hne
  rw [List.getLast?_eq_some_getLast hne] at h
  rwa [Option.some.inj h, Bool.not_eq_true] at hlast

/-- A trimmed text does not start with a blank: what was cut off its end was behind that. -/
lemma isBlank_head?_trim {text : List Char} {c : Char} (h : (trim text).head? = some c) :
    isBlank c = false := by
  have hfront : trim text <+: trimFront text := List.rdropWhile_prefix isBlank _
  have hhead : (trimFront text).head? = some c := by
    obtain ⟨rest, hrest⟩ := hfront
    rw [← hrest, List.head?_append, h]
    rfl
  have hblank := List.head?_dropWhile_not isBlank text
  rw [show text.dropWhile isBlank = trimFront text from rfl, hhead] at hblank
  simpa using hblank

/-- Nothing is left of a text that holds only blanks. -/
lemma trim_eq_nil_iff {text : List Char} : trim text = [] ↔ ∀ c ∈ text, isBlank c = true := by
  rw [trim_eq_rdropWhile, List.rdropWhile_eq_nil_iff, ← List.dropWhile_eq_nil_iff, trimFront,
    List.dropWhile_idempotent, List.dropWhile_eq_nil_iff]

end Text

namespace Title

/-- There is no title, or nothing but blanks in it. -/
def IsBlank (title : Option String) : Prop :=
  ∀ text ∈ title, ∀ c ∈ text.toList, Text.isBlank c = true

/-- A blank title is as good as none. -/
theorem normalize?_eq_none_iff {title : Option String} :
    normalize? title = none ↔ IsBlank title := by
  cases title with
  | none => simp [normalize?, IsBlank]
  | some text => simp [normalize?, IsBlank, Text.trim_eq_nil_iff]

/-- There is something in the title, and no blank stands at either end of it. -/
structure IsTrimmed (title : String) : Prop where
  ne_empty : title ≠ ""
  front : ∀ c, title.toList.head? = some c → Text.isBlank c = false
  back : ∀ c, title.toList.getLast? = some c → Text.isBlank c = false

/-- What is left of a title that was asked for is trimmed. -/
theorem isTrimmed_of_normalize? {requested : Option String} {title : String}
    (h : normalize? requested = some title) : IsTrimmed title := by
  unfold normalize? at h
  cases requested with
  | none => cases h
  | some text =>
    dsimp only at h
    split at h
    · cases h
    · next hne =>
      obtain rfl := Option.some.inj h
      refine ⟨fun hempty => hne ?_, fun c hc => ?_, fun c hc => ?_⟩
      · have hnil := congrArg String.toList hempty
        rwa [String.toList_ofList] at hnil
      · rw [String.toList_ofList] at hc
        exact Text.isBlank_head?_trim hc
      · rw [String.toList_ofList] at hc
        exact Text.isBlank_getLast?_trim hc

/-- A generated title starts with a letter and ends in a digit. -/
theorem isTrimmed_untitled (n : Nat) : IsTrimmed (untitled n) := by
  have hdigits := Text.decimal_ne_nil n
  have htext : (untitled n).toList = "Untitled ".toList ++ Text.decimal n := by
    unfold untitled
    rw [String.toList_append, String.toList_ofList (l := Text.decimal n)]
  refine ⟨fun hempty => ?_, fun c hc => ?_, fun c hc => ?_⟩
  · rw [hempty] at htext
    exact hdigits (List.append_eq_nil_iff.1 htext.symm).2
  · rw [htext] at hc
    obtain rfl : 'U' = c := Option.some.inj hc
    decide
  · rw [htext, List.getLast?_append_of_ne_nil _ hdigits] at hc
    have hdigit := Text.isAsciiDigit_of_mem_decimal (List.mem_of_getLast? hc)
    exact Text.isBlank_of_isAsciiDigit hdigit

/-- Different numbers have different generated titles. -/
theorem untitled_injective : Function.Injective untitled := by
  intro n k heq
  have htext := congrArg String.toList heq
  simp only [untitled, String.toList_append, String.toList_ofList] at htext
  have hdigits := congrArg Text.digitsValue (List.append_cancel_left htext)
  rwa [Text.digitsValue_decimal, Text.digitsValue_decimal] at hdigits

end Title

end LinkedNotes
