import LinkedNotes.Proofs.Edit.Carried
import LinkedNotes.Proofs.Text.Distinct
import LinkedNotes.Proofs.Wikilink.Grammar
import LinkedNotes.Store.Memory

/-!
# Skipped resyncs

What the links of a note have to do with those it had before an update that skips the resync.
Each recorded link is carried over, so no target is lost (`targets_subset_of_skip`). But an edit
that inserts no bracket can still put a link together, out of characters that did not stand beside
each other before. Such a link is `Formed`. The links of the new text are those of the old one and
the formed ones between them, and the targets stay as they were exactly when the formed ones do not
show among them.
-/

namespace LinkedNotes.Resync

open Edit (Segment Carries source target)
open Text (Interval)
open Wikilink (Link)

/-! ## Links and carried ranges -/

/-- A link stands wherever its characters do. -/
lemma mem_links_of_window {text text' : List Char} {link : Link} {j : Interval}
    (h : link ∈ Wikilink.links text) (hlength : link.interval.length = j.length)
    (hwindow : (text.drop link.interval.start).take link.interval.length =
      (text'.drop j.start).take j.length) :
    ⟨j, link.target⟩ ∈ Wikilink.links text' := by
  obtain ⟨offset, inner, hinner, hfront, rfl⟩ := Wikilink.mem_links.1 h
  simp only [Wikilink.Link.of, Text.Interval.length] at hlength hwindow
  have hlen : offset + inner.length + 4 - offset = inner.length + 4 := by omega
  rw [hlen] at hlength hwindow
  have htake := List.prefix_iff_eq_take.1 hfront
  rw [Wikilink.length_bracketed, hwindow] at htake
  refine Wikilink.mem_links.2 ⟨j.start, inner, hinner, ?_, ?_⟩
  · rw [htake]
    exact List.take_prefix _ _
  · have hstop : j.stop = j.start + inner.length + 4 := by omega
    simp only [Wikilink.Link.of, ← hstop]

/-- A link of the old text stands wherever it is carried to. -/
lemma mem_links_of_carries {script : List Segment} {link : Link} {j : Interval}
    (h : link ∈ Wikilink.links (source script)) (hc : Carries script link.interval j) :
    ⟨j, link.target⟩ ∈ Wikilink.links (target script) :=
  mem_links_of_window h hc.length_eq hc.window_eq

/-- A link of the new text stood wherever it was carried from. -/
lemma mem_links_of_carried {script : List Segment} {link : Link} {i : Interval}
    (h : link ∈ Wikilink.links (target script)) (hc : Carries script i link.interval) :
    ⟨i, link.target⟩ ∈ Wikilink.links (source script) :=
  mem_links_of_window h hc.length_eq.symm hc.window_eq.symm

/-! ## Formed links -/

/-- The edit put the link together: no range of the old text was carried to where it stands. -/
def Formed (script : List Segment) (link : Link) : Prop := ∀ i, ¬Carries script i link.interval

/-- A link of the old text and one of the new text are the same link, carried over. -/
def Same (script : List Segment) (a b : Link) : Prop :=
  Carries script a.interval b.interval ∧ a.target = b.target

/-- Lists in order whose members match in pairs, earlier ones with earlier ones, have the same
values. -/
lemma map_eq_map_of_matched {α β γ : Type} {l : List α} {m : List β} {p : α → Nat}
    {q : β → Nat} {f : α → γ} {g : β → γ} {R : α → β → Prop}
    (hl : l.Pairwise fun a a' => p a < p a') (hm : m.Pairwise fun b b' => q b < q b')
    (horder : ∀ a ∈ l, ∀ a' ∈ l, ∀ b b', R a b → R a' b' → (p a < p a' ↔ q b < q b'))
    (hvalue : ∀ a b, R a b → f a = g b)
    (hleft : ∀ a ∈ l, ∃ b ∈ m, R a b) (hright : ∀ b ∈ m, ∃ a ∈ l, R a b) :
    l.map f = m.map g := by
  induction l generalizing m with
  | nil =>
    cases m with
    | nil => rfl
    | cons b m => obtain ⟨a, ha, -⟩ := hright b (by simp); cases ha
  | cons a l ih =>
    cases m with
    | nil => obtain ⟨b, hb, -⟩ := hleft a (by simp); cases hb
    | cons b m =>
      obtain ⟨hla, hl⟩ := List.pairwise_cons.1 hl
      obtain ⟨hmb, hm⟩ := List.pairwise_cons.1 hm
      -- the first members match each other: any other match of one would be out of order
      have hab : R a b := by
        obtain ⟨b', hb', hab'⟩ := hleft a (by simp)
        obtain ⟨a', ha', ha'b⟩ := hright b (by simp)
        rcases List.mem_cons.1 hb' with rfl | hb'
        · exact hab'
        rcases List.mem_cons.1 ha' with rfl | ha'
        · exact ha'b
        have hlt := (horder a (by simp) a' (by simp [ha']) b' b hab' ha'b).1 (hla a' ha')
        have hgt := hmb b' hb'
        omega
      -- without the first members, the others still match among themselves
      have hrest : l.map f = m.map g := by
        refine ih hl hm (fun x hx x' hx' => horder x (by simp [hx]) x' (by simp [hx'])) ?_ ?_
        · intro x hx
          obtain ⟨y, hy, hxy⟩ := hleft x (by simp [hx])
          rcases List.mem_cons.1 hy with rfl | hy
          · have hlt := (horder a (by simp) x (by simp [hx]) y y hab hxy).1 (hla x hx)
            omega
          · exact ⟨y, hy, hxy⟩
        · intro y hy
          obtain ⟨x, hx, hxy⟩ := hright y (by simp [hy])
          rcases List.mem_cons.1 hx with rfl | hx
          · have hlt := (horder x (by simp) x (by simp) b y hab hxy).2 (hmb y hy)
            omega
          · exact ⟨x, hx, hxy⟩
      rw [List.map_cons, List.map_cons, hvalue a b hab, hrest]

open Classical in
/-- Where no link is touched, the links of the old text are those of the new one that the edit did
not form. -/
theorem map_target_links {script : List Segment} {old new : List Char}
    (hturns : Edit.Turns script old new)
    (h : Edit.touches old.length script ((Wikilink.links old).map (·.interval)) = false) :
    (Wikilink.links old).map (·.target) =
      ((Wikilink.links new).filter fun link => ¬Formed script link).map (·.target) := by
  obtain ⟨rfl, rfl⟩ := hturns
  -- the links match where one is carried to the other, and carrying keeps their order
  refine map_eq_map_of_matched (R := Same script) (p := fun a => a.interval.start)
    (q := fun b => b.interval.start) (Wikilink.pairwise_links _)
    ((Wikilink.pairwise_links _).filter _) ?_ (fun a b hab => hab.2) ?_ ?_
  · intro a ha a' ha' b b' hab hab'
    have hpos := (Wikilink.stop_le_length ha).1
    have hpos' := (Wikilink.stop_le_length ha').1
    exact hab.1.start_lt_iff hab'.1 (by rw [Text.Interval.length]; omega)
      (by rw [Text.Interval.length]; omega)
  · intro a ha
    obtain ⟨hne, hstop⟩ := Wikilink.stop_le_length ha
    obtain ⟨j, hj⟩ := Edit.exists_carries h (List.mem_map_of_mem ha) hne hstop
    refine ⟨⟨j, a.target⟩, ?_, hj, rfl⟩
    rw [List.mem_filter, decide_eq_true_eq]
    exact ⟨mem_links_of_carries ha hj, fun hformed => hformed _ hj⟩
  · intro b hb
    rw [List.mem_filter, decide_eq_true_eq] at hb
    obtain ⟨hmem, hformed⟩ := hb
    obtain ⟨i, hi⟩ := Classical.not_forall_not.1 hformed
    exact ⟨⟨i, b.target⟩, mem_links_of_carried hmem hi, hi, rfl⟩

/-! ## Skipped updates -/

lemma eq_skip_of_not_isResync {decision : Decision} (h : ¬decision.isResync = true) :
    decision = .skip := by
  cases decision with
  | resync reason => exact absurd rfl h
  | skip => rfl

/-- An update skips the resync only if it is a patch that keeps the title, touches none of the
recorded links and inserts no bracket. -/
lemma of_decision_eq_skip {previous : Note} {newText : String} {isPatch titleChanged : Bool}
    (h : decision previous newText isPatch titleChanged = .skip) :
    isPatch = true ∧ titleChanged = false ∧ previous.links ≠ [] ∧
      Edit.touches previous.body.toList.length
        (Edit.diff previous.body.toList newText.toList) previous.links = false ∧
      Edit.insertsBrackets (Edit.diff previous.body.toList newText.toList) = false := by
  unfold decision at h
  cases isPatch <;> cases titleChanged <;> simp_all
  split at h
  · cases h
  · split at h
    · cases h
    · split at h
      · cases h
      · simp_all

section Skipped

variable {previous : Note} {newText : String} {isPatch titleChanged : Bool}

open Classical in
/-- The targets of the old text are those of the links that a skipped update did not form. -/
theorem targets_eq_of_skip (hrecorded : previous.links = Wikilink.intervals previous.body)
    (hskip : decision previous newText isPatch titleChanged = .skip) :
    Wikilink.targets previous.body =
      Text.distinct (((Wikilink.links newText.toList).filter fun link =>
        ¬Formed (Edit.diff previous.body.toList newText.toList) link).map
          fun link => String.ofList link.target) := by
  obtain ⟨-, -, -, htouch, -⟩ := of_decision_eq_skip hskip
  rw [hrecorded] at htouch
  have h := map_target_links (Edit.turns_diff previous.body.toList newText.toList) htouch
  have hnames := congrArg (List.map String.ofList) h
  rw [List.map_map, List.map_map] at hnames
  exact congrArg Text.distinct hnames

/-- A skipped update loses no target. -/
theorem targets_subset_of_skip (hrecorded : previous.links = Wikilink.intervals previous.body)
    (hskip : decision previous newText isPatch titleChanged = .skip) :
    Wikilink.targets previous.body ⊆ Wikilink.targets newText := by
  intro name hname
  rw [targets_eq_of_skip hrecorded hskip, Text.mem_distinct] at hname
  rw [Wikilink.targets, Text.mem_distinct]
  exact List.map_subset _ (List.filter_subset_self _) hname

end Skipped

/-! ## How far a skipped update may be trusted -/

/-- What a skipped update may leave undone. It loses no target. The targets stay as they were
exactly when each formed link comes at a point where the links up to it point to nothing but the
first of the old targets. Only then is the full resync of the new text the one of the old text. -/
theorem targets_eq_iff_of_skip {previous : Note} {newText : String}
    (hrecorded : previous.links = Wikilink.intervals previous.body)
    (hskip : decision previous newText true false = .skip) :
    Wikilink.targets previous.body ⊆ Wikilink.targets newText ∧
    (Wikilink.targets newText = Wikilink.targets previous.body ↔
      ∀ front link back, Wikilink.links newText.toList = front ++ link :: back →
        Formed (Edit.diff previous.body.toList newText.toList) link →
          Text.distinct ((front ++ [link]).map fun link => String.ofList link.target) <+:
            Wikilink.targets previous.body) ∧
    (Wikilink.targets newText = Wikilink.targets previous.body →
      ∀ (coordinator : Transaction.Coordinator Store.Memory.World Store.Copy)
        (updated : Time.Timestamp) (pinned archived : Bool) (links : List Interval),
        Service.resync (Store.Memory.backend coordinator)
            { previous with text := some newText, updated, pinned, archived, links } =
          Service.resync (Store.Memory.backend coordinator) previous) := by
  classical
  refine ⟨targets_subset_of_skip hrecorded hskip, ?_, ?_⟩
  · rw [targets_eq_of_skip hrecorded hskip]
    -- the filter keeps the links that were not formed, so the others are the formed ones
    have h := Text.distinct_map_eq_iff (l := Wikilink.links newText.toList)
      (P := fun link => ¬Formed (Edit.diff previous.body.toList newText.toList) link)
      (f := fun link => String.ofList link.target)
    simp only [not_not] at h
    exact h
  · intro htargets coordinator updated pinned archived links
    have hbody : ({ previous with
        text := some newText, updated, pinned, archived, links } : Note).body = newText := rfl
    simp only [Service.resync, hbody, htargets]
    rfl

/-- A note with one link, and with brackets that almost make another one. -/
def almostLinked : Note :=
  { Note.new (.ofNat 1) (.ofNat 2) .epoch "T" (some "[[A]] [x[B]]") with links := [⟨0, 5⟩] }

/-- Without the character between its brackets, the second link stands in the new text. The
targets are not the same, and indeed the link was formed. -/
theorem exists_formed_of_skip_almostLinked :
    almostLinked.links = Wikilink.intervals almostLinked.body ∧
      decision almostLinked "[[A]] [[B]]" true false = .skip ∧
      ¬∀ front link back, Wikilink.links "[[A]] [[B]]".toList = front ++ link :: back →
        Formed (Edit.diff almostLinked.body.toList "[[A]] [[B]]".toList) link →
          Text.distinct ((front ++ [link]).map fun link => String.ofList link.target) <+:
            Wikilink.targets almostLinked.body := by
  have hrecorded : almostLinked.links = Wikilink.intervals almostLinked.body := by
    decide +kernel
  have hskip : decision almostLinked "[[A]] [[B]]" true false = .skip := by decide +kernel
  refine ⟨hrecorded, hskip, fun h => ?_⟩
  have htargets := (targets_eq_iff_of_skip hrecorded hskip).2.1.2 h
  exact absurd htargets (by decide +kernel)

/-- A skipped update need not keep the targets of a note. -/
theorem not_targets_eq_of_skip :
    ¬∀ (previous : Note) (newText : String),
      previous.links = Wikilink.intervals previous.body →
        decision previous newText true false = .skip →
          Wikilink.targets newText = Wikilink.targets previous.body := by
  intro h
  have htargets := h almostLinked "[[A]] [[B]]" (by decide +kernel) (by decide +kernel)
  exact absurd htargets (by decide +kernel)

end LinkedNotes.Resync
