import LinkedNotes.Store.Relational
import Mathlib.Tactic.Lemma

/-!
# What has been taken from a supply

A supply is only ever used further. An identifier that has just been taken is a new one as long as
the supply does not repeat itself.
-/

namespace LinkedNotes.Store

namespace Supply

/-- The identifier has been taken from the supply. -/
def Drawn (supply : Supply) (id : Identifier) : Prop :=
  ∃ k < supply.identifiersUsed, supply.identifier k = id

/-- No identifier has been taken from the supply twice. -/
def Fresh (supply : Supply) : Prop :=
  ∀ j < supply.identifiersUsed, ∀ k < supply.identifiersUsed,
    supply.identifier j = supply.identifier k → j = k

/-- The second supply is the first one, used further. -/
structure Precedes (a b : Supply) : Prop where
  identifier_eq : b.identifier = a.identifier
  instant_eq : b.instant = a.instant
  identifiersUsed_le : a.identifiersUsed ≤ b.identifiersUsed
  instantsUsed_le : a.instantsUsed ≤ b.instantsUsed

namespace Precedes

variable {a b c : Supply}

lemma refl (a : Supply) : a.Precedes a := ⟨rfl, rfl, Nat.le_refl _, Nat.le_refl _⟩

lemma trans (h : a.Precedes b) (h' : b.Precedes c) : a.Precedes c :=
  ⟨h'.identifier_eq.trans h.identifier_eq, h'.instant_eq.trans h.instant_eq,
    Nat.le_trans h.identifiersUsed_le h'.identifiersUsed_le,
    Nat.le_trans h.instantsUsed_le h'.instantsUsed_le⟩

/-- What has been taken stays taken. -/
lemma drawn (h : a.Precedes b) {id : Identifier} (hid : a.Drawn id) : b.Drawn id := by
  obtain ⟨k, hk, rfl⟩ := hid
  exact ⟨k, Nat.lt_of_lt_of_le hk h.identifiersUsed_le, by rw [h.identifier_eq]⟩

/-- A supply did not repeat itself before it was used further. -/
lemma fresh (h : a.Precedes b) (hfresh : b.Fresh) : a.Fresh := by
  intro j hj k hk heq
  have hle := h.identifiersUsed_le
  refine hfresh j (by omega) k (by omega) ?_
  rw [h.identifier_eq]
  exact heq

lemma draw (a : Supply) : a.Precedes (Supply.draw a).2 :=
  ⟨rfl, rfl, Nat.le_succ _, Nat.le_refl _⟩

lemma now (a : Supply) : a.Precedes (Supply.now a).2 :=
  ⟨rfl, rfl, Nat.le_refl _, Nat.le_succ _⟩

end Precedes

lemma drawn_draw (supply : Supply) : (draw supply).2.Drawn (draw supply).1 :=
  ⟨supply.identifiersUsed, Nat.lt_succ_self _, rfl⟩

/-- A new identifier has not been taken before. -/
lemma not_drawn_draw {supply : Supply} (h : (draw supply).2.Fresh) :
    ¬supply.Drawn (draw supply).1 := by
  intro hdrawn
  rcases hdrawn with ⟨k, hk, heq⟩
  -- it would be the same as the one that is taken now, which has a later number
  have hsame := h k (Nat.lt_succ_of_lt hk) supply.identifiersUsed (Nat.lt_succ_self _) heq
  omega

end Supply

end LinkedNotes.Store
