import LinkedNotes.Proofs.Transaction.Watched

/-!
# What is done to transactions

All that can be done to handles under a key, with the calls that open a transaction and end one
(`Does`). Whatever is done under whichever keys, each transaction is opened once and ended once at
most (`Stage.does`), and one that is gone does not come back (`Gone.does`).
-/

namespace LinkedNotes.Transaction

variable {η α : Type}

/-! ## Deeds -/

/-- What becomes of the transaction of a backend. -/
inductive Deed where
  | opened
  | ended
  deriving DecidableEq

/-- What a call does to a transaction. It ends when a commit or a rollback reaches it, even if that
fails. -/
def Entry.deed? : Entry → Option Deed
  | ⟨.ensureStarted, _, none⟩ => some .opened
  | ⟨.commit, _, _⟩ | ⟨.rollback, _, _⟩ => some .ended
  | _ => none

/-- What calls did to the transaction under a key. -/
def deedsOf (key : String) (log : List Entry) : List Deed :=
  (log.filter fun entry => entry.key = key).filterMap Entry.deed?

/-- All that keepers of a key can do to the handles, with the calls in which they do it. -/
inductive Does (key : String) : Handles η → List Entry → Handles η → Prop where
  /-- Nothing is done to a transaction. -/
  | still {handles : Handles η} {calls : List Entry} : (∀ entry ∈ calls, entry.deed? = none) →
    Does key handles calls handles
  /-- A transaction is opened, and none was opened before. -/
  | opened {handles : Handles η} {handle : η} : handles.isStarted key = false →
    Does key handles [⟨.ensureStarted, key, none⟩] ((handles.set key handle).markStarted key)
  /-- What is under the key is changed. -/
  | changed {handles : Handles η} {handle : η} : handles.has key = true →
    Does key handles [] (handles.set key handle)
  /-- What is under the key is taken out and ended. -/
  | ended {handles : Handles η} {entry : Entry} : handles.has key = true → entry.key = key →
    entry.deed? = some .ended → Does key handles [entry] (handles.remove key)
  /-- What is under the key is dropped. -/
  | dropped {handles : Handles η} : Does key handles [] (handles.remove key)
  | trans {handles middle after : Handles η} {calls others : List Entry} :
    Does key handles calls middle → Does key middle others after →
    Does key handles (calls ++ others) after

/-! ## Handles -/

namespace Handles

variable {handles : Handles η} {key other : String}

lemma has_of_get? {kind : HandleKind η α} {a : α} (h : handles.get? kind key = some a) :
    handles.has key = true := by
  obtain ⟨handle, hfind, -⟩ := Option.bind_eq_some_iff.1 h
  rw [has, hfind]
  rfl

lemma get?_of_not_has (kind : HandleKind η α) (h : handles.has key = false) :
    handles.get? kind key = none := by
  rw [get?, Option.not_isSome_iff_eq_none.1 (Bool.eq_false_iff.1 h)]
  rfl

@[simp] lemma has_set_self (handle : η) : (handles.set key handle).has key = true := by
  rw [has, find?_set_self]
  rfl

lemma has_set_of_ne (h : key ≠ other) (handle : η) :
    (handles.set key handle).has other = handles.has other := by
  rw [has, find?_set_of_ne h, has]

@[simp] lemma has_remove_self : (handles.remove key).has key = false := by
  rw [has, find?_remove_self]
  rfl

lemma has_remove_of_ne (h : other ≠ key) : (handles.remove key).has other = handles.has other := by
  rw [has, find?_remove_of_ne h, has]

lemma remove_remove (handles : Handles η) (key : String) :
    (handles.remove key).remove key = handles.remove key := by
  simp only [remove, Keyed.erase, List.filter_filter, Bool.and_self]

@[simp] lemma has_markStarted : (handles.markStarted key).has other = handles.has other := by
  rw [markStarted]
  split <;> rfl

@[simp] lemma isStarted_set (handle : η) :
    (handles.set key handle).isStarted other = handles.isStarted other := rfl

@[simp] lemma isStarted_markStarted :
    (handles.markStarted key).isStarted other = (decide (other = key) || handles.isStarted other) := by
  rw [isStarted, isStarted, ← Bool.decide_or]
  exact decide_eq_decide.2 mem_started_markStarted

end Handles

/-! ## One transaction -/

section Stages

variable {key other : String} {handles after : Handles η} {log calls : List Entry}

lemma deedsOf_append (key : String) (log calls : List Entry) :
    deedsOf key (log ++ calls) = deedsOf key log ++ deedsOf key calls := by
  rw [deedsOf, List.filter_append, List.filterMap_append, deedsOf, deedsOf]

lemma deedsOf_eq_nil (h : ∀ entry ∈ calls, entry.key = key → entry.deed? = none) :
    deedsOf key calls = [] := by
  refine List.filterMap_eq_nil_iff.2 fun entry hmem => ?_
  obtain ⟨hmem, hkey⟩ := List.mem_filter.1 hmem
  exact h entry hmem (of_decide_eq_true hkey)

lemma deedsOf_singleton (entry : Entry) {deed : Deed} (hkey : entry.key = key)
    (hdeed : entry.deed? = some deed) : deedsOf key [entry] = [deed] := by
  simp [deedsOf, hkey, hdeed]

/-- How far the transaction under a key has come, by the handles and the calls so far. -/
inductive Stage (key : String) (handles : Handles η) (log : List Entry) : Prop where
  | fresh : handles.isStarted key = false → handles.has key = false → deedsOf key log = [] →
    Stage key handles log
  | held : handles.isStarted key = true → handles.has key = true →
    deedsOf key log = [.opened] → Stage key handles log
  | gone : handles.isStarted key = true → handles.has key = false →
    (deedsOf key log = [.opened] ∨ deedsOf key log = [.opened, .ended]) → Stage key handles log

/-- What was opened under a key is there no more. -/
structure Gone (key : String) (handles : Handles η) : Prop where
  started : handles.isStarted key = true
  missing : handles.has key = false

/-- A keeper leaves alone what is under other keys. -/
lemma Does.frame (h : Does key handles calls after) (hne : key ≠ other) :
    after.isStarted other = handles.isStarted other ∧ after.has other = handles.has other ∧
      deedsOf other calls = [] := by
  induction h with
  | still hcalls => exact ⟨rfl, rfl, deedsOf_eq_nil fun entry hmem _ => hcalls entry hmem⟩
  | opened _ =>
    refine ⟨?_, ?_, deedsOf_eq_nil fun entry hmem heq => ?_⟩
    · simp [hne.symm]
    · rw [Handles.has_markStarted, Handles.has_set_of_ne hne]
    · rw [List.mem_singleton.1 hmem] at heq
      exact absurd heq hne
  | changed _ => exact ⟨rfl, Handles.has_set_of_ne hne _, rfl⟩
  | ended _ hkey _ =>
    refine ⟨rfl, Handles.has_remove_of_ne hne.symm, deedsOf_eq_nil fun entry hmem heq => ?_⟩
    rw [List.mem_singleton.1 hmem, hkey] at heq
    exact absurd heq hne
  | dropped => exact ⟨rfl, Handles.has_remove_of_ne hne.symm, rfl⟩
  | trans _ _ ihfirst ihrest =>
    obtain ⟨hstarted, hhas, hnone⟩ := ihfirst
    obtain ⟨hstarted', hhas', hnone'⟩ := ihrest
    refine ⟨hstarted'.trans hstarted, hhas'.trans hhas, ?_⟩
    rw [deedsOf_append, hnone, hnone']
    rfl

/-- The stage is told by three things only. -/
lemma Stage.congr {others : List Entry} (h : Stage key handles log)
    (hstarted : after.isStarted key = handles.isStarted key)
    (hhas : after.has key = handles.has key) (hdeeds : deedsOf key others = deedsOf key log) :
    Stage key after others := by
  cases h with
  | fresh hs hh hd => exact .fresh (hstarted.trans hs) (hhas.trans hh) (hdeeds.trans hd)
  | held hs hh hd => exact .held (hstarted.trans hs) (hhas.trans hh) (hdeeds.trans hd)
  | gone hs hh hd =>
    exact .gone (hstarted.trans hs) (hhas.trans hh) (hd.imp hdeeds.trans hdeeds.trans)

/-- A keeper brings its own transaction from one stage to another. -/
lemma Stage.does_self (h : Stage key handles log) (hdoes : Does key handles calls after) :
    Stage key after (log ++ calls) := by
  induction hdoes generalizing log with
  | @still handles calls hcalls =>
    refine h.congr rfl rfl ?_
    rw [deedsOf_append, deedsOf_eq_nil fun entry hmem _ => hcalls entry hmem, List.append_nil]
  | opened hnew =>
    cases h with
    | fresh _ _ hdeeds =>
      refine .held (by simp) (by simp) ?_
      rw [deedsOf_append, hdeeds, deedsOf_singleton ⟨.ensureStarted, _, none⟩ rfl rfl]
      rfl
    | held hstarted _ _ => cases hstarted.symm.trans hnew
    | gone hstarted _ _ => cases hstarted.symm.trans hnew
  | changed hhas =>
    rw [List.append_nil]
    exact h.congr rfl (by rw [Handles.has_set_self, hhas]) rfl
  | ended hhas hkey hdeed =>
    cases h with
    | fresh _ hmissing _ => cases hhas.symm.trans hmissing
    | held hstarted _ hdeeds =>
      refine .gone hstarted Handles.has_remove_self (Or.inr ?_)
      rw [deedsOf_append, hdeeds, deedsOf_singleton _ hkey hdeed]
      rfl
    | gone _ hmissing _ => cases hhas.symm.trans hmissing
  | dropped =>
    rw [List.append_nil]
    cases h with
    | fresh hnew _ hdeeds => exact .fresh hnew Handles.has_remove_self hdeeds
    | held hstarted _ hdeeds => exact .gone hstarted Handles.has_remove_self (Or.inl hdeeds)
    | gone hstarted _ hdeeds => exact .gone hstarted Handles.has_remove_self hdeeds
  | trans _ _ ihfirst ihrest =>
    rw [← List.append_assoc]
    exact ihrest (ihfirst h)

/-- Whichever keeper has its turn, a transaction is opened once and ended once at most. -/
theorem Stage.does (h : Stage key handles log) (hdoes : Does other handles calls after) :
    Stage key after (log ++ calls) := by
  by_cases hkey : other = key
  · subst hkey
    exact h.does_self hdoes
  · obtain ⟨hstarted, hhas, hnone⟩ := hdoes.frame hkey
    refine h.congr hstarted hhas ?_
    rw [deedsOf_append, hnone, List.append_nil]

/-- That something was opened under a key is not forgotten. -/
lemma Does.isStarted (hdoes : Does other handles calls after)
    (h : handles.isStarted key = true) : after.isStarted key = true := by
  induction hdoes with
  | opened _ => rw [Handles.isStarted_markStarted, Handles.isStarted_set, h, Bool.or_true]
  | trans _ _ ihfirst ihrest => exact ihrest (ihfirst h)
  | _ => exact h

/-- What is gone does not come back. -/
theorem Gone.does (h : Gone key handles) (hdoes : Does other handles calls after) :
    Gone key after := by
  by_cases hkey : other = key
  · subst hkey
    induction hdoes with
    | still _ => exact h
    | opened hnew => cases h.started.symm.trans hnew
    | changed hhas => cases h.missing.symm.trans hhas
    | ended hhas _ _ => cases h.missing.symm.trans hhas
    | dropped => exact ⟨h.started, Handles.has_remove_self⟩
    | trans _ _ ihfirst ihrest => exact ihrest (ihfirst h)
  · obtain ⟨hstarted, hhas, -⟩ := hdoes.frame hkey
    exact ⟨hstarted.trans h.started, hhas.trans h.missing⟩

namespace Stage

/-- A transaction is opened before it is ended, and neither happens twice. -/
lemma once (h : Stage key handles log) : deedsOf key log <+: [.opened, .ended] := by
  cases h with
  | fresh _ _ hdeeds => exact hdeeds ▸ List.nil_prefix
  | held _ _ hdeeds => exact hdeeds ▸ ⟨[.ended], rfl⟩
  | gone _ _ hdeeds =>
    rcases hdeeds with hdeeds | hdeeds
    · exact hdeeds ▸ ⟨[.ended], rfl⟩
    · exact hdeeds ▸ List.prefix_rfl

lemma isStarted_iff (h : Stage key handles log) :
    handles.isStarted key = true ↔ .opened ∈ deedsOf key log := by
  cases h with
  | fresh hstarted _ hdeeds => simp [hstarted, hdeeds]
  | held hstarted _ hdeeds => simp [hstarted, hdeeds]
  | gone hstarted _ hdeeds => rcases hdeeds with hdeeds | hdeeds <;> simp [hstarted, hdeeds]

/-- What is there was opened and has not been ended. -/
lemma of_has (h : Stage key handles log) (hhas : handles.has key = true) :
    handles.isStarted key = true ∧ deedsOf key log = [.opened] := by
  cases h with
  | fresh _ hmissing _ => cases hhas.symm.trans hmissing
  | held hstarted _ hdeeds => exact ⟨hstarted, hdeeds⟩
  | gone _ hmissing _ => cases hhas.symm.trans hmissing

end Stage

end Stages

end LinkedNotes.Transaction
