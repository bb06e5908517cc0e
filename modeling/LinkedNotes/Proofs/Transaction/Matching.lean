import LinkedNotes.Transaction.Action
import Mathlib.Tactic.Lemma

/-!
# Actions that match

Two actions on different states match along a relation between the states if, from related states,
they come to the same outcome and to related states again. Every way of putting actions together
keeps that, so it is enough to look at the smallest steps.
-/

namespace LinkedNotes.Action

variable {σ τ α β : Type}

/-! ## Outcomes -/

/-- Only a good outcome is passed on. -/
lemma outcome_bind (x : Action σ α) (f : α → Action σ β) (s : σ) :
    (x >>= f).outcome s =
      match x.outcome s with
      | (.ok a, t) => (f a).outcome t
      | (.error e, t) => (.error e, t) := by
  show outcome (EStateM.bind x f) s = _
  unfold outcome EStateM.bind
  cases x s <;> rfl

lemma outcome_attempt (x : Action σ α) (s : σ) :
    x.attempt.outcome s = (.ok (x.outcome s).1, (x.outcome s).2) := by
  simp only [outcome, attempt]
  cases x s <;> rfl

/-- An action is told by what it comes to. -/
lemma ext_outcome {x y : Action σ α} (h : ∀ s, x.outcome s = y.outcome s) : x = y := by
  funext s
  have heq := h s
  unfold outcome at heq
  cases hx : x s <;> cases hy : y s <;> rw [hx, hy] at heq <;> cases heq <;> rfl

/-- An action that looks at the state first. -/
lemma outcome_get_bind (f : σ → Action σ α) (s : σ) : (get >>= f).outcome s = (f s).outcome s :=
  rfl

/-- What an action on a part of the state comes to. -/
lemma outcome_within (get : σ → τ) (set : τ → σ → σ) (x : Action τ α) (s : σ) :
    (x.within get set).outcome s = ((x.outcome (get s)).1, set (x.outcome (get s)).2 s) := by
  simp only [outcome, within]
  cases x (get s) <;> rfl

/-- What comes of one action after another that comes to a value. -/
lemma outcome_bind_ok {x : Action σ α} {f : α → Action σ β} {s t : σ} {a : α}
    (h : x.outcome s = (.ok a, t)) : (x >>= f).outcome s = (f a).outcome t := by
  rw [outcome_bind, h]

lemma outcome_bind_error {x : Action σ α} {f : α → Action σ β} {s t : σ} {e : Fault}
    (h : x.outcome s = (.error e, t)) : (x >>= f).outcome s = (.error e, t) := by
  rw [outcome_bind, h]

/-- If one action after another comes to a value, the first one does, and the other from there. -/
theorem outcome_bind_eq_ok {x : Action σ α} {f : α → Action σ β} {s u : σ} {b : β} :
    (x >>= f).outcome s = (.ok b, u) ↔
      ∃ a t, x.outcome s = (.ok a, t) ∧ (f a).outcome t = (.ok b, u) := by
  rw [outcome_bind]
  constructor
  · intro h
    split at h
    · next a t hx => exact ⟨a, t, hx, h⟩
    · cases h
  · intro hparts
    rcases hparts with ⟨a, t, hx, hf⟩
    rw [hx]
    exact hf

lemma outcome_discard {x : Action σ α} {s t : σ} {a : α} (h : x.outcome s = (.ok a, t)) :
    (discard x).outcome s = (.ok (), t) := by
  show ((fun _ => ()) <$> x).outcome s = _
  rw [map_eq_pure_bind, outcome_bind_ok h]
  rfl

/-- An action whose value is dropped comes to an end if it comes to a value. -/
lemma exists_of_outcome_discard {x : Action σ α} {s t : σ} {u : PUnit}
    (h : (discard x).outcome s = (.ok u, t)) : ∃ a, x.outcome s = (.ok a, t) := by
  have hmap : discard x = x >>= fun _ => pure () := map_eq_pure_bind _ x
  rw [hmap] at h
  obtain ⟨a, t', hx, h⟩ := outcome_bind_eq_ok.1 h
  cases h
  exact ⟨a, hx⟩

/-! ## Actions that only look -/

/-- The action leaves the state as it is, whatever it comes to. -/
def Quiet (x : Action σ α) : Prop := ∀ s, (x.outcome s).2 = s

namespace Quiet

lemma pure (a : α) : Quiet (pure a : Action σ α) := fun _ => rfl

lemma throw (e : Fault) : Quiet (throw e : Action σ α) := fun _ => rfl

lemma bind {x : Action σ α} {f : α → Action σ β} (hx : x.Quiet) (hf : ∀ a, (f a).Quiet) :
    (x >>= f).Quiet := by
  intro s
  have h := hx s
  rw [outcome_bind]
  split
  · next a t heq =>
    rw [heq] at h
    rw [hf a t]
    exact h
  · next e t heq =>
    rw [heq] at h
    exact h

lemma ofExcept (r : Except Fault α) : Quiet (MonadExcept.ofExcept r : Action σ α) := by
  cases r with
  | ok a => exact .pure a
  | error e => exact .throw e

lemma mapM {f : α → Action σ β} (h : ∀ a, (f a).Quiet) (l : List α) : (l.mapM f).Quiet := by
  induction l with
  | nil => exact .pure []
  | cons a r ih =>
    rw [List.mapM_cons]
    exact (h a).bind fun b => ih.bind fun bs => .pure (b :: bs)

/-- If the action comes to a value, it does so in the state it started from. -/
lemma of_outcome_eq {x : Action σ α} (hx : x.Quiet) {s t : σ} {r : Except Fault α}
    (h : x.outcome s = (r, t)) : t = s := by
  have hquiet := hx s
  rw [h] at hquiet
  exact hquiet

end Quiet

/-! ## Matching -/

/-- From related states, the actions come to the same outcome and to related states. -/
def Matches (R : σ → τ → Prop) (x : Action σ α) (y : Action τ α) : Prop :=
  ∀ s t, R s t → (x.outcome s).1 = (y.outcome t).1 ∧ R (x.outcome s).2 (y.outcome t).2

namespace Matches

variable {R : σ → τ → Prop}

lemma pure (a : α) : Matches R (pure a) (pure a) := fun _ _ h => ⟨rfl, h⟩

lemma throw (e : Fault) : Matches R (throw e : Action σ α) (throw e) := fun _ _ h => ⟨rfl, h⟩

/-- Actions match if their parts do. -/
theorem bind {x : Action σ α} {y : Action τ α} {f : α → Action σ β} {g : α → Action τ β}
    (hx : Matches R x y) (hf : ∀ a, Matches R (f a) (g a)) : Matches R (x >>= f) (y >>= g) := by
  intro s t h
  obtain ⟨hvalue, hstate⟩ := hx s t h
  rw [outcome_bind, outcome_bind]
  cases hxs : x.outcome s with
  | mk r s' =>
    cases hyt : y.outcome t with
    | mk r' t' =>
      rw [hxs, hyt] at hvalue hstate
      dsimp only at hvalue hstate
      subst hvalue
      cases r with
      | ok a => exact hf a s' t' hstate
      | error e => exact ⟨rfl, hstate⟩

lemma map {x : Action σ α} {y : Action τ α} (f : α → β) (h : Matches R x y) :
    Matches R (f <$> x) (f <$> y) := by
  rw [map_eq_pure_bind, map_eq_pure_bind]
  exact h.bind fun a => .pure (f a)

lemma discard {x : Action σ α} {y : Action τ α} (h : Matches R x y) :
    Matches R (discard x) (discard y) := h.map fun _ => ()

lemma ofExcept (r : Except Fault α) :
    Matches R (MonadExcept.ofExcept r : Action σ α) (MonadExcept.ofExcept r) := by
  cases r with
  | ok a => exact .pure a
  | error e => exact .throw e

/-- The outcomes that matching actions yield as values match. -/
lemma attempt {x : Action σ α} {y : Action τ α} (h : Matches R x y) :
    Matches R x.attempt y.attempt := by
  intro s t hst
  obtain ⟨hvalue, hstate⟩ := h s t hst
  rw [outcome_attempt, outcome_attempt, hvalue]
  exact ⟨rfl, hstate⟩

lemma ite {p : Prop} [Decidable p] {x x' : Action σ α} {y y' : Action τ α}
    (h : Matches R x y) (h' : Matches R x' y') :
    Matches R (if p then x else x') (if p then y else y') := by
  split
  · exact h
  · exact h'

/-- Actions over a list match if those for its members do. -/
lemma mapM {f : α → Action σ β} {g : α → Action τ β} (h : ∀ a, Matches R (f a) (g a))
    (l : List α) : Matches R (l.mapM f) (l.mapM g) := by
  induction l with
  | nil => exact .pure []
  | cons a r ih =>
    rw [List.mapM_cons, List.mapM_cons]
    exact (h a).bind fun b => ih.bind fun bs => .pure (b :: bs)

lemma forM {f : α → Action σ PUnit} {g : α → Action τ PUnit} (h : ∀ a, Matches R (f a) (g a))
    (l : List α) : Matches R (l.forM f) (l.forM g) := by
  induction l with
  | nil => exact .pure _
  | cons a r ih =>
    show Matches R (f a >>= fun _ => r.forM f) (g a >>= fun _ => r.forM g)
    exact (h a).bind fun _ => ih

end Matches

end LinkedNotes.Action
