import LinkedNotes.Keyed
import Mathlib.Data.List.Nodup
import Mathlib.Tactic.Lemma

/-!
# Lists with keys of their own

As long as no two members of a list have the same key, putting a member replaces the one with its
key, and finding one by its key is the same as having it.
-/

namespace LinkedNotes.Keyed

variable {α β κ : Type} [DecidableEq κ] {key : α → κ} {k : κ} {a b : α} {members : List α}

/-! ## Finding -/

lemma of_find?_eq_some (h : find? key k members = some a) : a ∈ members ∧ key a = k :=
  ⟨List.mem_of_find?_eq_some h, by simpa using List.find?_some h⟩

lemma find?_eq_none : find? key k members = none ↔ ∀ a ∈ members, key a ≠ k := by
  simp [find?, List.find?_eq_none]

omit [DecidableEq κ] in
/-- Members with the same key are the same. -/
lemma eq_of_key_eq (h : (members.map key).Nodup) (ha : a ∈ members) (hb : b ∈ members)
    (hkey : key a = key b) : a = b :=
  List.inj_on_of_nodup_map h ha hb hkey

/-- A member is found by its key. -/
lemma find?_key (h : (members.map key).Nodup) (ha : a ∈ members) :
    find? key (key a) members = some a := by
  cases hfind : find? key (key a) members with
  | none => exact absurd rfl (find?_eq_none.1 hfind a ha)
  | some b =>
    obtain ⟨hb, hkey⟩ := of_find?_eq_some hfind
    rw [eq_of_key_eq h hb ha hkey]

/-! ## Putting -/

/-- A member with a new key goes to the end. -/
lemma put_of_forall_ne (h : ∀ b ∈ members, key b ≠ key a) :
    put key a members = members ++ [a] := by
  induction members with
  | nil => rfl
  | cons b r ih =>
    rw [put, if_neg (h b (by simp)), ih fun c hc => h c (by simp [hc]), List.cons_append]

/-- Putting a member whose key is there does not change the keys. -/
lemma map_key_put (hb : b ∈ members) (hkey : key b = key a) :
    (put key a members).map key = members.map key := by
  induction members with
  | nil => cases hb
  | cons c r ih =>
    rw [put]
    split
    · next hc => rw [List.map_cons, List.map_cons, hc]
    · next hc =>
      rcases List.mem_cons.1 hb with rfl | hb
      · exact absurd hkey hc
      · rw [List.map_cons, List.map_cons, ih hb]

/-- Putting a member whose key is there replaces the one with the key. -/
lemma put_eq_map (h : (members.map key).Nodup) (hb : b ∈ members) (hkey : key b = key a) :
    put key a members = members.map fun c => if key c = key a then a else c := by
  induction members with
  | nil => cases hb
  | cons c r ih =>
    obtain ⟨hc, hr⟩ := List.nodup_cons.1 h
    rw [put, List.map_cons]
    split
    · next hfirst =>
      have hrest : ∀ d ∈ r, (if key d = key a then a else d) = d := by
        intro d hd
        refine if_neg fun heq => hc ?_
        exact List.mem_map.2 ⟨d, hd, heq.trans hfirst.symm⟩
      rw [List.map_congr_left hrest, List.map_id']
    · next hfirst =>
      rcases List.mem_cons.1 hb with rfl | hb
      · exact absurd hkey hfirst
      · rw [ih hr hb]

/-- Putting a member that is there changes nothing. -/
lemma put_of_mem (h : (members.map key).Nodup) (ha : a ∈ members) : put key a members = members := by
  have hsame : ∀ c ∈ members, (if key c = key a then a else c) = c := by
    intro c hc
    split
    · next heq => exact eq_of_key_eq h ha hc heq.symm
    · rfl
  rw [put_eq_map h ha rfl, List.map_congr_left hsame, List.map_id']

lemma nodup_put (h : (members.map key).Nodup) (a : α) : ((put key a members).map key).Nodup := by
  -- either the keys stay, or the new one comes at the end
  by_cases hkey : ∃ b ∈ members, key b = key a
  · obtain ⟨b, hb, hkey⟩ := hkey
    rw [map_key_put hb hkey]
    exact h
  · have hne : ∀ b ∈ members, key b ≠ key a := fun b hb heq => hkey ⟨b, hb, heq⟩
    rw [put_of_forall_ne hne, List.map_append, List.map_singleton]
    refine List.nodup_append.2 ⟨h, by simp, ?_⟩
    intro c hc d hd
    obtain ⟨b, hb, rfl⟩ := List.mem_map.1 hc
    rw [List.mem_singleton.1 hd]
    exact hne b hb

lemma mem_put (h : (members.map key).Nodup) :
    b ∈ put key a members ↔ b = a ∨ b ∈ members ∧ key b ≠ key a := by
  induction members with
  | nil => simp [put]
  | cons c r ih =>
    obtain ⟨hc, hr⟩ := List.nodup_cons.1 h
    rw [put]
    split
    · next hkey =>
      -- no other member has the key of the one that is replaced
      have hrest : ∀ d ∈ r, key d ≠ key a := by
        intro d hd heq
        exact hc (List.mem_map.2 ⟨d, hd, heq.trans hkey.symm⟩)
      rw [List.mem_cons, List.mem_cons]
      constructor
      · intro hmem
        rcases hmem with rfl | hb
        · exact Or.inl rfl
        · exact Or.inr ⟨Or.inr hb, hrest b hb⟩
      · intro hmem
        rcases hmem with rfl | ⟨rfl | hb, hne⟩
        · exact Or.inl rfl
        · exact absurd hkey hne
        · exact Or.inr hb
    · next hkey =>
      rw [List.mem_cons, List.mem_cons, ih hr]
      constructor
      · intro hmem
        rcases hmem with rfl | rfl | ⟨hb, hne⟩
        · exact Or.inr ⟨Or.inl rfl, hkey⟩
        · exact Or.inl rfl
        · exact Or.inr ⟨Or.inr hb, hne⟩
      · intro hmem
        rcases hmem with rfl | ⟨rfl | hb, hne⟩
        · exact Or.inr (Or.inl rfl)
        · exact Or.inl rfl
        · exact Or.inr (Or.inr ⟨hb, hne⟩)

/-- Members with another key stay as they are. -/
lemma filter_put_of_ne (h : key a ≠ k) (members : List α) :
    (put key a members).filter (fun b => key b = k) = members.filter fun b => key b = k := by
  induction members with
  | nil => simp [put, h]
  | cons b r ih =>
    rw [put]
    split
    · next hb =>
      have hb : key b ≠ k := fun heq => h (hb.symm.trans heq)
      rw [List.filter_cons_of_neg (by simpa using h), List.filter_cons_of_neg (by simpa using hb)]
    · rw [List.filter_cons, List.filter_cons, ih]

/-- Members can be put before or after they are looked at, if that shows their keys. -/
lemma map_put (f : α → β) {l : β → κ} (h : ∀ a, l (f a) = key a) (a : α) (members : List α) :
    (put key a members).map f = put l (f a) (members.map f) := by
  induction members with
  | nil => rfl
  | cons b r ih =>
    rw [put, List.map_cons, put, h, h]
    split
    · rfl
    · rw [List.map_cons, ih]

lemma map_erase (f : α → β) {l : β → κ} (h : ∀ a, l (f a) = key a) (k : κ) (members : List α) :
    (erase key k members).map f = erase l k (members.map f) := by
  rw [erase, erase, List.filter_map]
  congr 1
  refine List.filter_congr fun a _ => ?_
  simp [h]

lemma filter_erase_of_ne {l : κ} (h : k ≠ l) (members : List α) :
    (erase key l members).filter (fun b => key b = k) = members.filter fun b => key b = k := by
  rw [erase, List.filter_filter]
  refine List.filter_congr fun b _ => ?_
  by_cases hb : key b = k <;> simp [hb, h]

lemma mem_erase : a ∈ erase key k members ↔ a ∈ members ∧ key a ≠ k := by
  simp [erase]

end LinkedNotes.Keyed
