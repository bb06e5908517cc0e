/-!
# Members with keys

Lists whose members are found by a key. A new member goes to the end; one that is put again stays
where it was.
-/

namespace LinkedNotes.Keyed

variable {α κ : Type} [DecidableEq κ]

/-- The first member with the key. -/
def find? (key : α → κ) (k : κ) (members : List α) : Option α :=
  members.find? fun a => key a = k

/-- Put a member in the place of the first one with its key, or at the end. -/
def put (key : α → κ) (a : α) : List α → List α
  | [] => [a]
  | b :: r => if key b = key a then a :: r else b :: put key a r

/-- Drop every member with the key. -/
def erase (key : α → κ) (k : κ) (members : List α) : List α :=
  members.filter fun a => key a ≠ k

variable {key : α → κ}

theorem find?_put_self (key : α → κ) (a : α) (members : List α) :
    find? key (key a) (put key a members) = some a := by
  induction members with
  | nil => simp [find?, put]
  | cons b r ih =>
    rw [put]
    split
    · simp [find?]
    · rename_i h
      simpa [find?, h] using ih

theorem find?_put_of_ne {k : κ} {a : α} (h : key a ≠ k) (members : List α) :
    find? key k (put key a members) = find? key k members := by
  induction members with
  | nil => simp [find?, put, h]
  | cons b r ih =>
    rw [put]
    split
    · rename_i hb
      simp [find?, h, hb ▸ h]
    · simp only [find?, List.find?_cons] at ih ⊢
      rw [ih]

theorem find?_erase_self (k : κ) (members : List α) : find? key k (erase key k members) = none := by
  simp [find?, erase]

theorem find?_erase_of_ne {k l : κ} (h : k ≠ l) (members : List α) :
    find? key k (erase key l members) = find? key k members := by
  rw [find?, erase, List.find?_filter, find?]
  congr 1
  funext a
  by_cases ha : key a = k <;> simp [ha, h]

end LinkedNotes.Keyed
