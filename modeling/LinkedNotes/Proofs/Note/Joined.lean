import LinkedNotes.Note.Content
import LinkedNotes.Proofs.Text.Distinct
import LinkedNotes.Proofs.Wikilink.Grammar

/-!
# Links of joined texts

Joined texts hold each of their parts in one piece, so no link of a part is lost: a link stands
wherever its characters do. And a text appended to another is the same as all of them joined at
once.
-/

namespace LinkedNotes

/-! ## Parts of a text -/

namespace Wikilink

/-- A link of a part of a text is a link of the text, with the same target. -/
lemma exists_mem_links_of_infix {part text : List Char} (h : part <:+: text) {link : Link}
    (hlink : link ∈ links part) : ∃ other ∈ links text, other.target = link.target := by
  obtain ⟨front, back, rfl⟩ := h
  obtain ⟨offset, inner, hinner, hfront, rfl⟩ := mem_links.1 hlink
  have hle : offset ≤ part.length := by
    have hlength := hfront.length_le
    rw [length_bracketed, List.length_drop] at hlength
    omega
  refine ⟨.of (front.length + offset) inner, mem_links.2 ⟨_, inner, hinner, ?_, rfl⟩, rfl⟩
  rw [List.append_assoc, List.drop_length_add_append, List.drop_append_of_le_length hle]
  exact hfront.trans (List.prefix_append _ _)

lemma mem_targets {text name : String} :
    name ∈ targets text ↔ ∃ link ∈ links text.toList, String.ofList link.target = name := by
  rw [targets, Text.mem_distinct, List.mem_map]

/-- What a part of a text links to, the text links to. -/
theorem targets_subset_of_infix {part text : String} (h : part.toList <:+: text.toList) :
    targets part ⊆ targets text := by
  intro name hname
  obtain ⟨link, hlink, rfl⟩ := mem_targets.1 hname
  obtain ⟨other, hother, hsame⟩ := exists_mem_links_of_infix h hlink
  exact mem_targets.2 ⟨other, hother, by rw [hsame]⟩

end Wikilink

/-! ## Joined texts -/

namespace Joined

variable {texts : List (Option String)} {joined : String}

/-- The texts that are there and not empty. -/
def parts (texts : List (Option String)) : List String :=
  texts.filterMap fun text => text.filter (· ≠ "")

lemma mem_parts {text : String} : text ∈ parts texts ↔ some text ∈ texts ∧ text ≠ "" := by
  simp [parts, Option.filter_eq_some_iff]

lemma parts_singleton {text : String} (h : text ≠ "") : parts [some text] = [text] := by
  simp only [parts, List.filterMap_cons, List.filterMap_nil, Option.filter_some, ne_eq, h,
    not_false_eq_true, decide_true, if_true]

lemma parts_append (texts others : List (Option String)) :
    parts (texts ++ others) = parts texts ++ parts others :=
  List.filterMap_append

lemma chain_eq_of_ne_nil (h : parts texts ≠ []) :
    chain texts = some ("\n".intercalate (parts texts)) := by
  rw [chain, ← parts]
  split
  · next hnone => exact absurd hnone h
  · rfl

lemma chain_eq_none : chain texts = none ↔ parts texts = [] := by
  by_cases h : parts texts = []
  · rw [chain, ← parts, h]
    exact ⟨fun _ => rfl, fun _ => rfl⟩
  · rw [chain_eq_of_ne_nil h]
    exact ⟨nofun, fun hnil => absurd hnil h⟩

/-- There is nothing to join if every text is missing or empty. -/
lemma chain_eq_none_iff : chain texts = none ↔ ∀ text, some text ∈ texts → text = "" := by
  rw [chain_eq_none, List.eq_nil_iff_forall_not_mem]
  refine forall_congr' fun text => ?_
  rw [mem_parts, not_and, not_not]

/-- With one text more there is something to join still. -/
lemma exists_chain_cons (h : chain texts = some joined) (text : Option String) :
    ∃ longer, chain (text :: texts) = some longer := by
  cases hlonger : chain (text :: texts) with
  | some longer => exact ⟨longer, rfl⟩
  | none =>
    have hnone : chain texts = none := chain_eq_none_iff.2 fun other hother =>
      chain_eq_none_iff.1 hlonger other (List.mem_cons_of_mem _ hother)
    rw [hnone] at h
    cases h

/-- What was joined, and that it was something. -/
lemma of_chain_eq_some (h : chain texts = some joined) :
    parts texts ≠ [] ∧ joined = "\n".intercalate (parts texts) := by
  have hsome : parts texts ≠ [] := fun hnil => by
    rw [chain_eq_none.2 hnil] at h
    cases h
  rw [chain_eq_of_ne_nil hsome] at h
  exact ⟨hsome, (Option.some.inj h).symm⟩

/-- A part stands in the joined text in one piece. -/
lemma infix_intercalate {part : String} {parts : List String} (h : part ∈ parts) :
    part.toList <:+: ("\n".intercalate parts).toList := by
  obtain ⟨front, back, rfl⟩ := List.append_of_mem h
  -- the part and what comes after it end the joined text, and the part is at their front
  have hfront : part.toList <+: ("\n".intercalate (part :: back)).toList := by
    cases back with
    | nil => simp
    | cons next back => simp
  cases front with
  | nil => exact hfront.isInfix
  | cons first front =>
    rw [String.intercalate_append_of_ne_nil (List.cons_ne_nil _ _) (List.cons_ne_nil _ _),
      String.toList_append]
    exact hfront.isInfix.trans (List.suffix_append _ _).isInfix

/-- What joined texts link to, the joined text links to. -/
theorem targets_subset_chain (h : chain texts = some joined) {text : Option String}
    (htext : text ∈ texts) : Wikilink.targets (text.getD "") ⊆ Wikilink.targets joined := by
  obtain ⟨-, rfl⟩ := of_chain_eq_some h
  by_cases hempty : text.getD "" = ""
  · rw [hempty]
    exact List.nil_subset _
  · obtain ⟨written, rfl⟩ : ∃ written, text = some written := by
      cases text with
      | none => exact absurd rfl hempty
      | some written => exact ⟨written, rfl⟩
    exact Wikilink.targets_subset_of_infix (infix_intercalate (mem_parts.2 ⟨htext, hempty⟩))

/-- Parts that are not empty do not join to the empty text. -/
lemma intercalate_ne_empty {parts : List String} (h : parts ≠ []) (hparts : ∀ p ∈ parts, p ≠ "") :
    "\n".intercalate parts ≠ "" := by
  obtain ⟨part, rest, rfl⟩ := List.exists_cons_of_ne_nil h
  intro hempty
  have hinfix : part.toList <:+: ("\n".intercalate (part :: rest)).toList :=
    infix_intercalate List.mem_cons_self
  rw [hempty] at hinfix
  have hnil : part.toList = [] := List.infix_nil.1 hinfix
  exact hparts part List.mem_cons_self (String.toList_eq_nil_iff.1 hnil)

/-- Appending what was joined is joining all of it at once. -/
theorem append_eq_chain (h : chain texts = some joined) (base : Option String) :
    append base (some joined) = chain (base :: texts) := by
  obtain ⟨hsome, rfl⟩ := of_chain_eq_some h
  have hne : "\n".intercalate (parts texts) ≠ "" :=
    intercalate_ne_empty hsome fun part hpart => (mem_parts.1 hpart).2
  have hsingle := parts_singleton hne
  have hboth : ∀ others, parts (base :: others) = parts [base] ++ parts others :=
    fun others => parts_append [base] others
  have hleft : parts [base, some ("\n".intercalate (parts texts))] ≠ [] := by
    rw [hboth, hsingle]
    exact List.append_ne_nil_of_right_ne_nil _ (List.cons_ne_nil _ _)
  have hright : parts (base :: texts) ≠ [] := by
    rw [hboth]
    exact List.append_ne_nil_of_right_ne_nil _ hsome
  rw [append, chain_eq_of_ne_nil hleft, chain_eq_of_ne_nil hright, hboth, hboth texts, hsingle]
  -- with nothing before them the joined texts are what they are
  by_cases hbase : parts [base] = []
  · rw [hbase]
    simp
  · rw [String.intercalate_append_of_ne_nil hbase (List.cons_ne_nil _ _),
      String.intercalate_append_of_ne_nil hbase hsome, String.intercalate_singleton]

end Joined

end LinkedNotes
