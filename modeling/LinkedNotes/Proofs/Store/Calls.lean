import LinkedNotes.Proofs.Store.Operations

/-!
# Calls to the service

What a run of calls to the service makes of a world. Each call that changes something either commits
all that its operation did or nothing of it. So what creating, updating and deleting a note keeps
lasts through every run (`Lasting.run`); above all, what is committed stays tidy.
-/

namespace LinkedNotes.Store

open Service
open Memory (World Live direct service settled)
open LinkedNotes.Action (Matches)

/-! ## Runs -/

/-- A call to the service, or a change of whether the graph can be written. -/
inductive Call where
  | create (request : CreateRequest)
  | update (request : UpdateRequest)
  | delete (note : Identifier)
  | merge (request : MergeRequest)
  | get (note : Identifier)
  | newTitle (user : Identifier)
  | setReadOnly (readOnly : Bool)

/-- The world after a call, whether it succeeds or fails. -/
def Call.after : Call → World → World
  | .create request, world => ((service.create request).outcome world).2
  | .update request, world => ((service.update request).outcome world).2
  | .delete note, world => ((service.delete note).outcome world).2
  | .merge request, world => ((service.merge request).outcome world).2
  | .get note, world => ((service.get note).outcome world).2
  | .newTitle user, world => ((service.newTitle user).outcome world).2
  | .setReadOnly readOnly, world =>
    { world with store := { world.store with graphReadOnly := readOnly } }

/-- The world after some calls, one after the other. -/
def run (calls : List Call) (world : World) : World :=
  calls.foldl (fun world call => call.after world) world

/-! ## What lasts -/

/-- A property of what is committed that creating, updating and deleting a note keep, as long as
the supply does not repeat itself. -/
structure Lasting (P : Memory → Prop) : Prop where
  /-- What is left in the supply and whether the graph can be written do not matter. -/
  congr : ∀ {m m' : Memory}, P m → m'.relational = m.relational → m'.graph = m.graph →
    m.supply.Precedes m'.supply → P m'
  create : ∀ {m m' : Memory} {request : CreateRequest} {id : Identifier},
    (create direct request).outcome m = (.ok id, m') → P m → m'.supply.Fresh → P m'
  update : ∀ {m m' : Memory} {request : UpdateRequest} {result : Note},
    (update direct request).outcome m = (.ok result, m') → P m → m'.supply.Fresh → P m'
  delete : ∀ {m m' : Memory} {id : Identifier},
    (delete direct id).outcome m = (.ok (), m') → P m → P m'

namespace Lasting

variable {P : Memory → Prop} (h : Lasting P) {m m' : Memory}

include h

/-- Notes are deleted one after the other. -/
lemma deletions {notes : List Note} {u : PUnit}
    (hdeleted : (notes.forM fun note => Service.delete direct note.id).outcome m = (.ok u, m')) :
    m'.supply = m.supply ∧ (P m → P m') := by
  induction notes generalizing m with
  | nil =>
    cases hdeleted
    exact ⟨rfl, id⟩
  | cons note rest ih =>
    obtain ⟨⟨⟩, middle, hfirst, hrest⟩ := Action.outcome_bind_eq_ok.1 hdeleted
    obtain ⟨hsupply, hkeeps⟩ := ih hrest
    exact ⟨hsupply.trans (supply_eq_of_delete hfirst), fun hm => hkeeps (h.delete hfirst hm)⟩

/-- A merge is an update at most, and deletions. -/
lemma merge {request : MergeRequest} {result : Note}
    (hmerged : (merge direct request).outcome m = (.ok result, m')) (hm : P m)
    (hfresh : m'.supply.Fresh) : P m' := by
  obtain ⟨target, sources, m₁, -, -, -, hupdated, hdeleted⟩ := exists_of_merge hmerged
  obtain ⟨hsupply, hkeeps⟩ := h.deletions hdeleted
  rw [hsupply] at hfresh
  rcases hupdated with ⟨-, -, hsame⟩ | ⟨appended, -, hupdate⟩
  · rw [hsame] at hkeeps
    exact hkeeps hm
  · exact hkeeps (h.update hupdate hm hfresh)

section Step

variable {α : Type} {y : Action Memory α}
  {body : Action (Transaction.Session World Copy) α}

/-- What is performed uses the supply further, and commits what the operation made of the memory or
else nothing. -/
lemma perform (world : World) (hmatches : ∀ base, Matches (Live base) body y)
    (hkeeps : ∀ {a m'}, y.outcome world.store = (.ok a, m') → P world.store →
      m'.supply.Fresh → P m') :
    world.store.supply.Precedes ((service.perform body).outcome world).2.store.supply ∧
      (P world.store → ((service.perform body).outcome world).2.store.supply.Fresh →
        P ((service.perform body).outcome world).2.store) := by
  have hprecedes := Memory.precedes_of_matches world.store hmatches
  rw [(Memory.outcome_perform (hmatches world.store)).2]
  cases houtcome : y.outcome world.store with
  | mk r m' =>
    rw [houtcome] at hprecedes
    cases r with
    | ok a => exact ⟨hprecedes, hkeeps houtcome⟩
    | error fault => exact ⟨hprecedes, fun hm _ => h.congr hm rfl rfl hprecedes⟩

/-- What is observed at most uses the supply further. -/
lemma observe (world : World) (hmatches : ∀ base, Matches (Live base) body y) :
    world.store.supply.Precedes ((service.observe body).outcome world).2.store.supply ∧
      (P world.store → ((service.observe body).outcome world).2.store.supply.Fresh →
        P ((service.observe body).outcome world).2.store) := by
  have hprecedes := Memory.precedes_of_matches world.store hmatches
  rw [(Memory.outcome_observe (hmatches world.store)).2]
  exact ⟨hprecedes, fun hm _ => h.congr hm rfl rfl hprecedes⟩

/-- A call keeps what lasts. -/
theorem after (call : Call) (world : World) :
    world.store.supply.Precedes (call.after world).store.supply ∧
      (P world.store → (call.after world).store.supply.Fresh → P (call.after world).store) := by
  cases call with
  | create request =>
    exact h.perform world (fun base => (Memory.agrees_direct base).create request) h.create
  | update request =>
    exact h.perform world (fun base => (Memory.agrees_direct base).update request) h.update
  | delete note =>
    exact h.perform world (fun base => (Memory.agrees_direct base).delete note)
      fun hdeleted hm _ => h.delete hdeleted hm
  | merge request =>
    exact h.perform world (fun base => (Memory.agrees_direct base).merge request) h.merge
  | get note => exact h.observe world fun base => (Memory.agrees_direct base).noteOf note
  | newTitle user => exact h.observe world fun base => (Memory.agrees_direct base).nextUntitled user
  | setReadOnly readOnly => exact ⟨.refl _, fun hm _ => h.congr hm rfl rfl (.refl _)⟩

end Step

end Lasting

/-- A run uses the supply further. -/
lemma precedes_run (calls : List Call) (world : World) :
    world.store.supply.Precedes (run calls world).store.supply := by
  have hnothing : Lasting fun _ => True :=
    ⟨fun _ _ _ _ => trivial, fun _ _ _ => trivial, fun _ _ _ => trivial, fun _ _ => trivial⟩
  induction calls generalizing world with
  | nil => exact .refl _
  | cons call rest ih => exact (hnothing.after call world).1.trans (ih _)

/-- What lasts through every call lasts through every run. -/
theorem Lasting.run {P : Memory → Prop} (h : Lasting P) (calls : List Call) {world : World}
    (hm : P world.store) (hfresh : (run calls world).store.supply.Fresh) :
    P (run calls world).store := by
  induction calls generalizing world with
  | nil => exact hm
  | cons call rest ih =>
    -- what the supply had given after the first call was not given twice either
    have hfirst := (precedes_run rest (call.after world)).fresh hfresh
    exact ih ((h.after call world).2 hm hfirst) hfresh

/-! ## What is committed -/

/-- A memory is tidy whatever is left in the supply and whether or not the graph can be written. -/
lemma Tidy.congr {m m' : Memory} (hm : Tidy m) (hrelational : m'.relational = m.relational)
    (hgraph : m'.graph = m.graph) (hprecedes : m.supply.Precedes m'.supply) : Tidy m' := by
  have hc := hm.consistent
  constructor
  · rw [hrelational]
    exact {
      registered := hc.registered.mono hprecedes
      notes_nodup := hc.notes_nodup
      notes_drawn := fun note hnote => hprecedes.drawn (hc.notes_drawn note hnote)
      settles := hc.settles
      links_nodup := hc.links_nodup
      refers := hc.refers }
  · rw [hrelational, hgraph]
    exact hm.projection
  · rw [hrelational]
    exact hm.referenced

lemma tidy_empty (supply : Supply) : Tidy (Memory.empty supply).store where
  consistent := by
    constructor
    · exact ⟨List.nodup_nil, fun k hk => absurd hk List.not_mem_nil,
        fun k hk => absurd hk List.not_mem_nil⟩
    · exact List.nodup_nil
    · exact fun note hnote => absurd hnote List.not_mem_nil
    · exact fun note hnote => absurd hnote List.not_mem_nil
    · exact List.nodup_nil
    · exact fun link hlink => absurd hlink List.not_mem_nil
  projection := by
    refine ⟨rfl, List.nodup_nil, fun k => Iff.rfl, List.nodup_nil, fun e => ?_⟩
    refine ⟨fun he => absurd he List.not_mem_nil, ?_⟩
    intro hedge
    rcases hedge with ⟨k, hk, -⟩
    exact absurd hk List.not_mem_nil
  referenced := fun k hk => absurd hk List.not_mem_nil

lemma lasting_tidy : Lasting Tidy where
  congr := Tidy.congr
  create := tidy_of_create
  update := tidy_of_update
  delete := tidy_of_delete

/-- A run keeps what is committed tidy. -/
theorem tidy_run (calls : List Call) {world : World} (hm : Tidy world.store)
    (hfresh : (run calls world).store.supply.Fresh) : Tidy (run calls world).store :=
  lasting_tidy.run calls hm hfresh

end LinkedNotes.Store
