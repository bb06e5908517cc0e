import LinkedNotes.Proofs.Transaction.Commit
import LinkedNotes.Transaction.Bench
import LinkedNotes.Transaction.Sample

/-!
# What the fault of a commit tells

A caller that gets a fault wants to know what was committed. If it is a partial commit, those
controllers that it names were, and the next one failed. Any other fault comes from the first
controller, and then nothing was committed; or else it comes from closing, and then everything was
(`Verdict`). The fault alone does not tell the last two apart.
-/

namespace LinkedNotes.Transaction

variable {ω η : Type}

/-- The calls for one duty. -/
def callsFor (duty : Duty) (calls : List Entry) : List Entry :=
  calls.filter fun entry => entry.duty = duty

/-- What a fault tells about the calls of a commit that came to it. -/
inductive Verdict (keys : List String) (calls : List Entry) : Fault → Prop where
  /-- The first controller failed, and no other was asked to commit. -/
  | untouched {failed : String} {rest : List String} {fault : Fault} : keys = failed :: rest →
    callsFor .commit calls = [⟨.commit, failed, some fault⟩] → Verdict keys calls fault
  /-- Some controllers committed, and the next one failed. -/
  | partly {committed rest : List String} {failed : String} {source : Fault} :
    keys = committed ++ failed :: rest → committed ≠ [] →
    callsFor .commit calls = commits committed ++ [⟨.commit, failed, some source⟩] →
    Verdict keys calls (.partialCommit committed failed source)
  /-- All controllers committed, and one failed to close. -/
  | closing {fault : Fault} : callsFor .commit calls = commits keys →
    firstFault (callsFor .close calls) = some fault → Verdict keys calls fault

/-! ## Calls of a commit -/

section Calls

variable {duty other : Duty} {keys : List String} {calls : List Entry}

lemma Served.duty_eq (h : Served duty keys calls) {entry : Entry} (hmem : entry ∈ calls) :
    entry.duty = duty := by
  have hpair : (entry.duty, entry.key) ∈ keys.map fun key => (duty, key) := by
    rw [← show calls.map _ = keys.map _ from h]
    exact List.mem_map_of_mem hmem
  obtain ⟨key, -, heq⟩ := List.mem_map.1 hpair
  exact (congrArg Prod.fst heq).symm

lemma Served.callsFor_self (h : Served duty keys calls) : callsFor duty calls = calls :=
  List.filter_eq_self.2 fun _ hmem => decide_eq_true (h.duty_eq hmem)

lemma Served.callsFor_of_ne (h : Served duty keys calls) (hne : duty ≠ other) :
    callsFor other calls = [] :=
  List.filter_eq_nil_iff.2 fun _ hmem heq =>
    hne ((h.duty_eq hmem).symm.trans (of_decide_eq_true heq))

lemma callsFor_append (duty : Duty) (calls others : List Entry) :
    callsFor duty (calls ++ others) = callsFor duty calls ++ callsFor duty others :=
  List.filter_append _ _

/-- Among commits that all succeed and calls for other duties, the commits are the former. -/
lemma callsFor_commits_append {others : List Entry} (h : callsFor .commit others = [])
    (keys : List String) : callsFor .commit (commits keys ++ others) = commits keys := by
  rw [callsFor_append, (served_commits keys).callsFor_self, h, List.append_nil]

/-- A commit that failed is the last one among them. -/
lemma callsFor_commits_cons {others : List Entry} (h : callsFor .commit others = [])
    (keys : List String) (failed : String) (fault : Fault) :
    callsFor .commit (commits keys ++ ⟨.commit, failed, some fault⟩ :: others) =
      commits keys ++ [⟨.commit, failed, some fault⟩] := by
  rw [callsFor_append, (served_commits keys).callsFor_self]
  exact congrArg (commits keys ++ _ :: ·) h

end Calls

/-! ## The verdict -/

/-- A fault that came of closing tells that everything was committed. -/
lemma verdict_of_closings {keys others : List String} {closings : List Entry}
    (hclosings : Served .close others closings) {fault : Fault}
    (hfault : firstFault closings = some fault) :
    Verdict keys (commits keys ++ closings) fault := by
  refine .closing (callsFor_commits_append (hclosings.callsFor_of_ne (by decide)) keys) ?_
  rw [callsFor_append, (served_commits keys).callsFor_of_ne (by decide),
    hclosings.callsFor_self, List.nil_append, hfault]

/-- The fault of a commit that failed tells what was committed before. -/
lemma verdict_of_failed {keys committed rest : List String} {failed : String} {fault : Fault}
    {others : List Entry} (hkeys : keys = committed ++ failed :: rest)
    (hothers : callsFor .commit others = []) :
    Verdict keys (commits committed ++ ⟨.commit, failed, some fault⟩ :: others)
      (Coordinator.reported committed failed fault) := by
  have hcalls := callsFor_commits_cons hothers committed failed fault
  unfold Coordinator.reported
  split
  · next hnone =>
    subst hnone
    exact .untouched hkeys hcalls
  · next hsome => exact .partly hkeys hsome hcalls

lemma resultOf_eq_error {fault? : Option Fault} {fault : Fault}
    (h : resultOf fault? = .error fault) : fault? = some fault := by
  cases fault? with
  | none => cases h
  | some other =>
    cases h
    rfl

lemma eq_error_of_map_eq_error {α β : Type} {x : Except Fault α} {f : α → β} {fault : Fault}
    (h : x.map f = .error fault) : x = .error fault := by
  cases x with
  | ok a => cases h
  | error other =>
    cases h
    rfl

/-- Whatever controllers do and whenever they fail, a fault of committing or completing an active
unit of work tells what was committed: nothing, what it names, or everything. -/
theorem verdict_of_error (coordinator : Coordinator ω η) {session : Session ω η}
    (h : session.work.phase = .active) :
    (∀ fault, (coordinator.commit.outcome session).1 = .error fault →
      Verdict coordinator.keys (callsOf coordinator.watched.commit session) fault) ∧
    ∀ {α : Type} (a : α) fault, ((coordinator.complete (.ok a)).outcome session).1 = .error fault →
      Verdict coordinator.keys (callsOf (coordinator.watched.complete (.ok a)) session) fault := by
  have hactive : session.watched.work.phase = .active := h
  constructor
  · intro fault hfault
    rw [← (coordinator.matches_commit session.watched session rfl).1] at hfault
    obtain ⟨closings, after, hclosings, hcommit⟩ := coordinator.commit_cases hactive
    rcases hcommit with ⟨hcommit, hlog, -⟩ | ⟨keys, failed, source, rest, hkeys, hcommit, hlog, -⟩
    · rw [hcommit] at hfault
      rw [callsOf, hcommit, hlog]
      exact verdict_of_closings hclosings (resultOf_eq_error hfault)
    · rw [hcommit] at hfault
      cases hfault
      rw [callsOf, hcommit, hlog]
      exact verdict_of_failed hkeys (hclosings.callsFor_of_ne (by decide))
  · intro α a fault hfault
    rw [← (coordinator.matches_complete (.ok a) session.watched session rfl).1] at hfault
    obtain ⟨closings, after, hclosings, hcomplete⟩ := coordinator.complete_cases hactive a
    rcases hcomplete with ⟨hcomplete, hlog, -⟩ | ⟨keys, failed, source, rest, undone, closings',
      hkeys, hundone, hclosings', hcomplete, hlog, -⟩
    · rw [hcomplete] at hfault
      rw [callsOf, hcomplete, hlog]
      exact verdict_of_closings hclosings (resultOf_eq_error (eq_error_of_map_eq_error hfault))
    · rw [hcomplete] at hfault
      cases hfault
      rw [callsOf, hcomplete, hlog]
      refine verdict_of_failed hkeys ?_
      rw [callsFor_append, callsFor_append, hclosings.callsFor_of_ne (by decide),
        hundone.callsFor_of_ne (by decide), hclosings'.callsFor_of_ne (by decide)]
      rfl

/-! ## A close that fails -/

/-- A fault that names those that committed. -/
def isPartial : Fault → Bool
  | .partialCommit _ _ _ => true
  | _ => false

/-- Two controllers, where calls fail that the bench tells to. -/
def pair : Coordinator (Bench Unit) Sample where
  controllers :=
    [(Controller.recording Sample.markKind "sql" true []).refusing,
      (Controller.recording Sample.markKind "graph" false []).refusing]

/-- An active unit of work in which the calls are told to fail. -/
def told (failing : List String) : Session (Bench Unit) Sample :=
  (pair.enter.outcome { world := { failing, store := () } }).2

theorem verdict_of_error_told :
    (told ["commit:graph"]).work.phase = .active ∧
      (pair.commit.outcome (told ["commit:graph"])).1 =
        .error (.partialCommit ["sql"] "graph" (Bench.refusal "commit" "graph")) ∧
      Verdict pair.keys (callsOf pair.watched.commit (told ["commit:graph"]))
        (.partialCommit ["sql"] "graph" (Bench.refusal "commit" "graph")) := by
  have hactive : (told ["commit:graph"]).work.phase = .active := by decide
  exact ⟨hactive, rfl, (verdict_of_error pair hactive).1 _ rfl⟩

/-- A fault that is no partial commit does not mean that nothing was committed: if a controller
fails to close when all have committed, its fault is what the caller gets. -/
theorem not_failed_of_not_isPartial : ¬∀ (ω η : Type) (coordinator : Coordinator ω η)
    (session : Session ω η) (fault : Fault), session.work.phase = .active →
      (coordinator.commit.outcome session).1 = .error fault → isPartial fault = false →
        ∀ entry ∈ callsFor .commit (callsOf coordinator.watched.commit session),
          entry.fault? ≠ none := by
  intro h
  have hclose := h _ _ pair (told ["close:sql"]) (Bench.refusal "close" "sql") (by decide) rfl rfl
  exact hclose ⟨.commit, "sql", none⟩ (by decide) rfl

end LinkedNotes.Transaction
