import LinkedNotes.Proofs.Store.Lookups
import LinkedNotes.Proofs.Store.Reworded

/-!
# An update does what was asked for

An update gives a note the title, the text and the flags that the request asks for and keeps the
rest (`Edited`), or it fails: there is no such note, the title is blank, another note has it, or the
patch does not apply, whichever comes first. With each step of an update told by its ways to end
(`RetitleEnds`, `UpdateEnds`), the whole is told by whether and how it fails (`Updating`).
-/

namespace LinkedNotes

namespace UpdateRequest

variable {request : UpdateRequest}

/-- A title is asked for that has nothing but blanks in it. -/
def AsksBlank (request : UpdateRequest) : Prop :=
  request.title.isSome = true ∧ Title.IsBlank request.title

/-- Nothing is left of a title that is blank. -/
lemma AsksBlank.normalize?_ne {title : String} (h : request.AsksBlank) :
    Title.normalize? request.title ≠ some title := by
  rw [Title.normalize?_eq_none_iff.2 h.2]
  exact nofun

/-- The patch is asked for, and there is something in it. -/
def AsksPatch (request : UpdateRequest) (patch : String) : Prop :=
  request.patch = some patch ∧ patch ≠ ""

lemma patch?_eq_some_iff {patch : String} :
    request.patch? = some patch ↔ request.AsksPatch patch := by
  simp [patch?, AsksPatch, Option.filter_eq_some_iff]

lemma patch?_eq_none_iff : request.patch? = none ↔ ∀ patch, ¬request.AsksPatch patch := by
  simp only [← patch?_eq_some_iff, Option.eq_none_iff_forall_ne_some]

end UpdateRequest

namespace Store

open Service
open Memory (World direct service)

variable {m m' : Memory} {request : UpdateRequest} {previous note : Note}

/-! ## What is asked for -/

/-- Another note of the user of the note has the title. -/
def Relational.Denies (rows : Relational) (note : Note) (title : String) : Prop :=
  ∃ other ∈ rows.notes, other.id ≠ note.id ∧ other.user = note.user ∧ other.title = title

/-- The note can have the title that the request asks for. -/
structure TitleFits (rows : Relational) (request : UpdateRequest) (note : Note) : Prop where
  not_blank : ¬request.AsksBlank
  not_denied : ∀ title, Title.normalize? request.title = some title → ¬rows.Denies note title

/-- The patch that the request asks for applies to the text of the note. -/
def PatchFits (request : UpdateRequest) (note : Note) : Prop :=
  ∀ patch, request.AsksPatch patch →
    ∃ text, Patch.apply note.body.toList patch.toList = .ok text

/-- The note has become what the request asks for. -/
structure Edited (request : UpdateRequest) (previous note : Note) (m' : Memory) : Prop where
  /-- What is told of the note is committed. -/
  committed : m'.relational.note? note.id = some note
  /-- What cannot be asked for is kept. -/
  kept : { note with
    title := previous.title, represents := previous.represents, text := previous.text
    pinned := previous.pinned, archived := previous.archived, updated := previous.updated
    links := previous.links } = previous
  /-- A title that is asked for is trimmed. -/
  title_eq : note.title = (Title.normalize? request.title).getD previous.title
  /-- The note represents the keyword of its title, which is the one from before if the title is. -/
  represents_eq : note.title = previous.title → note.represents = previous.represents
  represents : ∃ k ∈ m'.relational.keywords,
    note.represents = some k.id ∧ k.user = note.user ∧ k.name = note.title
  /-- A patch that is asked for goes before a text. -/
  text_of_patch : ∀ patch, request.AsksPatch patch → ∃ text,
    Patch.apply previous.body.toList patch.toList = .ok text ∧
      note.text = some (String.ofList text)
  text_of_not_patch : (∀ patch, ¬request.AsksPatch patch) →
    note.text = request.text.getD previous.text
  pinned_eq : note.pinned = request.pinned.getD previous.pinned
  archived_eq : note.archived = request.archived.getD previous.archived
  /-- The links recorded are those of the text as it is now. -/
  links_eq : note.links = Wikilink.intervals note.body

lemma Edited.id_eq (h : Edited request previous note m') : note.id = previous.id := by
  have hid := congrArg Note.id h.kept
  exact hid

/-! ## The title -/

/-- From one memory to the other, the note was given the title that the request asks for. -/
structure Retitled (m : Memory) (request : UpdateRequest) (previous retitled : Note)
    (m' : Memory) : Prop where
  fits : TitleFits m.relational request previous
  title_eq : retitled.title = (Title.normalize? request.title).getD previous.title
  id_eq : retitled.id = previous.id
  user_eq : retitled.user = previous.user
  created_eq : retitled.created = previous.created
  represents_eq : retitled.title = previous.title → retitled.represents = previous.represents
  notes_eq : m'.relational.notes = m.relational.notes
  readOnly_eq : m'.graphReadOnly = m.graphReadOnly

/-- How giving a note the title asked for can end. -/
inductive RetitleEnds (m : Memory) (request : UpdateRequest) (previous : Note) :
    Except Fault Note × Memory → Prop where
  | blank (h : request.AsksBlank) :
    RetitleEnds m request previous
      (.error (.invalidInput "Note title must not be blank"), m)
  | denied {title : String} (h : Title.normalize? request.title = some title)
    (hdenied : m.relational.Denies previous title) :
    RetitleEnds m request previous (.error (.titleTaken title), m)
  | retitled {retitled : Note} {m' : Memory} (h : Retitled m request previous retitled m') :
    RetitleEnds m request previous (.ok retitled, m')

lemma TitleFits.of_normalize?_eq_some {rows : Relational} {title : String}
    (h : Title.normalize? request.title = some title) (hfree : ¬rows.Denies previous title) :
    TitleFits rows request previous where
  not_blank := fun hblank => hblank.normalize?_ne h
  not_denied := by
    intro other hother
    obtain rfl := Option.some.inj (h.symm.trans hother)
    exact hfree

/-- A note that keeps its title stays as it is. -/
lemma Retitled.refl (hfits : TitleFits m.relational request previous)
    (h : previous.title = (Title.normalize? request.title).getD previous.title) :
    Retitled m request previous previous m :=
  ⟨hfits, h, rfl, rfl, rfl, fun _ => rfl, rfl, rfl⟩

/-- No other note has the title that a note has. -/
lemma Relational.WellTitled.not_denies {rows : Relational} (ht : rows.WellTitled)
    (hprevious : previous ∈ rows.notes) : ¬rows.Denies previous previous.title := by
  rintro ⟨other, hother, hne, huser, htitle⟩
  exact hne (congrArg Note.id (ht.unique other hother previous hprevious huser htitle))

lemma outcome_giveTitle_of_denies {title : String} (ht : m.relational.WellTitled)
    (h : m.relational.Denies previous title) :
    (giveTitle direct previous title).outcome m = (.error (.titleTaken title), m) := by
  obtain ⟨other, hother, hne, huser, htitle⟩ := h
  refine Action.outcome_bind_error (outcome_requireFree_error hother huser htitle ?_)
  -- the note that is found is the other one, for there is only one with the title
  intro note hnote huser' htitle' hsame
  have heq := ht.unique note hnote other hother (huser'.trans huser.symm)
    (htitle'.trans htitle.symm)
  rw [heq] at hsame
  exact hne (Option.some.inj hsame)

lemma exists_outcome_giveTitle {title : String} (h : ¬m.relational.Denies previous title) :
    ∃ (keyword : Keyword) (m' : Memory), (giveTitle direct previous title).outcome m =
        (.ok { previous with title, represents := some keyword.id }, m') ∧
      m'.relational.notes = m.relational.notes ∧ m'.graphReadOnly = m.graphReadOnly := by
  obtain ⟨keyword, m', hkeyword, hnotes, hreadOnly, -⟩ :=
    exists_outcome_titleKeyword m previous.user title
  have hfree : (requireFree direct previous.user title (some previous.id)).outcome m =
      (.ok (), m) := by
    refine outcome_requireFree_ok fun note hnote huser htitle => ?_
    by_contra hne
    exact h ⟨note, hnote, fun hid => hne (congrArg some hid), huser, htitle⟩
  refine ⟨keyword, m', ?_, hnotes, hreadOnly⟩
  rw [giveTitle, Action.outcome_bind_ok hfree, Action.outcome_bind_ok hkeyword]
  rfl

/-- Giving a note the title asked for ends in one of these ways. -/
lemma retitleEnds (request : UpdateRequest) (ht : m.relational.WellTitled)
    (hprevious : previous ∈ m.relational.notes) :
    RetitleEnds m request previous ((retitle direct previous request.title).outcome m) := by
  cases hasked : request.title with
  | none =>
    refine .retitled (.refl ⟨fun hblank => ?_, fun title htitle => ?_⟩ ?_)
    · have hsome := hblank.1
      rw [hasked] at hsome
      cases hsome
    · rw [hasked] at htitle
      cases htitle
    · rw [hasked]
      rfl
  | some asked =>
    rw [retitle]
    cases hnormal : Title.normalize? (some asked) with
    | none =>
      have hblank : request.AsksBlank := by
        rw [UpdateRequest.AsksBlank, hasked]
        exact ⟨rfl, Title.normalize?_eq_none_iff.1 hnormal⟩
      exact .blank hblank
    | some title =>
      rw [← hasked] at hnormal
      dsimp only
      split
      · next hsame =>
        have hfree := ht.not_denies hprevious
        rw [← hsame] at hfree
        exact .retitled (.refl (.of_normalize?_eq_some hnormal hfree)
          (by rw [hnormal]; exact hsame.symm))
      · next hother =>
        by_cases hdenied : m.relational.Denies previous title
        · rw [outcome_giveTitle_of_denies ht hdenied]
          exact .denied hnormal hdenied
        · obtain ⟨keyword, m', hgiven, hnotes, hreadOnly⟩ := exists_outcome_giveTitle hdenied
          rw [hgiven]
          exact .retitled ⟨.of_normalize?_eq_some hnormal hdenied, by rw [hnormal]; rfl, rfl,
            rfl, rfl, fun hsame => absurd hsame hother, hnotes, hreadOnly⟩

/-! ## The text -/

/-- A text comes of a request, or the patch does not apply. -/
lemma newText_eq (request : UpdateRequest) (previous : Note) :
    (∃ patch fault, request.AsksPatch patch ∧
      Patch.apply previous.body.toList patch.toList = .error fault ∧
      newText request previous = .error (.patchApply fault.message)) ∨
    PatchFits request previous ∧ ∃ text, newText request previous = .ok text ∧
      (∀ patch, request.AsksPatch patch → ∃ patched,
        Patch.apply previous.body.toList patch.toList = .ok patched ∧
          text = some (String.ofList patched)) ∧
      ((∀ patch, ¬request.AsksPatch patch) → text = request.text.getD previous.text) := by
  unfold newText
  cases hpatch : request.patch? with
  | none =>
    have hnone := UpdateRequest.patch?_eq_none_iff.1 hpatch
    exact .inr ⟨fun patch h => absurd h (hnone patch), _, rfl,
      fun patch h => absurd h (hnone patch), fun _ => rfl⟩
  | some patch =>
    have hasked := UpdateRequest.patch?_eq_some_iff.1 hpatch
    have honly : ∀ other, request.AsksPatch other → other = patch :=
      fun other hother => Option.some.inj (hother.1.symm.trans hasked.1)
    dsimp only
    cases happly : Patch.apply previous.body.toList patch.toList with
    | error fault => exact .inl ⟨patch, fault, hasked, happly, rfl⟩
    | ok patched =>
      refine .inr ⟨fun other hother => ?_, _, rfl, fun other hother => ?_,
        fun hnone => absurd hasked (hnone patch)⟩
      · rw [honly other hother]
        exact ⟨patched, happly⟩
      · rw [honly other hother]
        exact ⟨patched, happly, rfl⟩

/-! ## The update -/

/-- How an update can end. -/
inductive UpdateEnds (m : Memory) (request : UpdateRequest) :
    Except Fault Note × Memory → Prop where
  | missing (h : m.relational.note? request.note = none) :
    UpdateEnds m request (.error (.noteNotFound request.note), m)
  | blank {previous : Note}
    (hfound : m.relational.note? request.note = some previous) (h : request.AsksBlank) :
    UpdateEnds m request (.error (.invalidInput "Note title must not be blank"), m)
  | denied {previous : Note} {title : String}
    (hfound : m.relational.note? request.note = some previous)
    (h : Title.normalize? request.title = some title)
    (hdenied : m.relational.Denies previous title) :
    UpdateEnds m request (.error (.titleTaken title), m)
  | unpatched {previous : Note} {patch : String} {fault : Patch.Fault} {m' : Memory}
    (hfound : m.relational.note? request.note = some previous)
    (hfits : TitleFits m.relational request previous) (h : request.AsksPatch patch)
    (hfails : Patch.apply previous.body.toList patch.toList = .error fault) :
    UpdateEnds m request (.error (.patchApply fault.message), m')
  | edited {previous note : Note} {m' : Memory}
    (hfound : m.relational.note? request.note = some previous)
    (hfits : TitleFits m.relational request previous) (hpatch : PatchFits request previous)
    (h : Edited request previous note m') : UpdateEnds m request (.ok note, m')

/-- A note that was updated is committed as it is told, with the keyword of its title. -/
lemma Updated.committed (h : Updated m previous note m') (hm : Tidy m) :
    m'.relational.note? note.id = some note ∧ ∃ k ∈ m'.relational.keywords,
      note.represents = some k.id ∧ k.user = note.user ∧ k.name = note.title := by
  have hm' := h.tidy hm
  have hmem : note ∈ m'.relational.notes := (h.mem_notes hm note).2 (Or.inl rfl)
  exact ⟨Keyed.find?_key hm'.consistent.notes_nodup hmem,
    (hm'.consistent.settles note hmem).represents⟩

/-- The title that the note was given is that of no other note. -/
lemma Retitled.not_denies {retitled : Note} (h : Retitled m request previous retitled m')
    (ht : m.relational.WellTitled) (hprevious : previous ∈ m.relational.notes) :
    ¬m.relational.Denies previous retitled.title := by
  rw [h.title_eq]
  cases hnormal : Title.normalize? request.title with
  | none => exact ht.not_denies hprevious
  | some title => exact h.fits.not_denied title hnormal

/-- Once the title and the text are there, an update succeeds. -/
lemma Retitled.exists_edited {retitled : Note} {m₁ : Memory} {text : Option String}
    (h : Retitled m request previous retitled m₁) (hm : Tidy m) (ht : m.relational.WellTitled)
    (hwritable : m.graphReadOnly = false)
    (hfresh : ((update direct request).outcome m).2.supply.Fresh)
    (hfound : m.relational.note? request.note = some previous)
    (hretitled : (retitle direct previous request.title).outcome m = (.ok retitled, m₁))
    (htext : newText request previous = .ok text)
    (hpatched : ∀ patch, request.AsksPatch patch → ∃ patched,
      Patch.apply previous.body.toList patch.toList = .ok patched ∧
        text = some (String.ofList patched))
    (hgiven : (∀ patch, ¬request.AsksPatch patch) → text = request.text.getD previous.text) :
    ∃ note m', (update direct request).outcome m = (.ok note, m') ∧
      Edited request previous note m' := by
  obtain ⟨hprevious, hrequested⟩ := Keyed.of_find?_eq_some hfound
  have hthere : m₁.relational.note? retitled.id = some previous := by
    rw [Relational.note?, h.notes_eq, h.id_eq, hrequested]
    exact hfound
  have hfree : m₁.relational.isTitleTaken retitled = false := by
    rw [Relational.isTitleTaken_eq_false, h.notes_eq, h.id_eq, h.user_eq]
    intro n hn hne huser' htitle
    exact h.not_denies ht hprevious ⟨n, hn, hne, huser', htitle⟩
  obtain ⟨m', hupdate, -, -⟩ := exists_outcome_update hfound hretitled htext hthere hfree
    (h.readOnly_eq.trans hwritable)
  rw [hupdate] at hfresh
  obtain ⟨found, hfoundId, hupdated⟩ := exists_updated hupdate hm hfresh
  have hsame : found = previous := Keyed.eq_of_key_eq hm.consistent.notes_nodup hupdated.mem
    hprevious (hfoundId.trans hrequested.symm)
  rw [hsame] at hupdated
  obtain ⟨hcommitted, hrepresents⟩ := hupdated.committed hm
  refine ⟨_, m', hupdate, ?_⟩
  exact {
    committed := hcommitted
    kept := by
      show Note.mk retitled.id retitled.user _ _ _ _ _ retitled.created _ _ = previous
      rw [h.id_eq, h.user_eq, h.created_eq]
    title_eq := h.title_eq
    represents_eq := h.represents_eq
    represents := hrepresents
    text_of_patch := hpatched
    text_of_not_patch := hgiven
    pinned_eq := rfl
    archived_eq := rfl
    links_eq := rfl }

/-- While the graph can be written, an update ends in one of these ways. -/
theorem updateEnds (hm : Tidy m) (ht : m.relational.WellTitled)
    (hwritable : m.graphReadOnly = false)
    (hfresh : ((update direct request).outcome m).2.supply.Fresh) :
    UpdateEnds m request ((update direct request).outcome m) := by
  cases hfound : m.relational.note? request.note with
  | none =>
    have hlook : (direct.noteForUpdate? request.note).outcome m = (.ok none, m) := by
      rw [← hfound]
      rfl
    have hmissing : (noteToUpdate direct request.note).outcome m =
        (.error (.noteNotFound request.note), m) := by
      rw [noteToUpdate, Action.outcome_bind_ok hlook]
      rfl
    rw [update, Action.outcome_bind_error hmissing]
    exact .missing hfound
  | some previous =>
    obtain ⟨hprevious, -⟩ := Keyed.of_find?_eq_some hfound
    have hends := retitleEnds request ht hprevious
    have hstart := outcome_noteToUpdate_of_some hfound
    generalize hretitled : (retitle direct previous request.title).outcome m = outcome at hends
    cases hends with
    | blank h =>
      rw [update, Action.outcome_bind_ok hstart, Action.outcome_bind_error hretitled]
      exact .blank hfound h
    | denied h hdenied =>
      rw [update, Action.outcome_bind_ok hstart, Action.outcome_bind_error hretitled]
      exact .denied hfound h hdenied
    | @retitled retitled m₁ h =>
      rcases newText_eq request previous with
        ⟨patch, fault, hasked, hfails, htext⟩ | ⟨hpatch, text, htext, hpatched, hgiven⟩
      · let timed : Memory := { m₁ with supply := (Supply.now m₁.supply).2 }
        have htimed : direct.now.outcome m₁ = (.ok (Supply.now m₁.supply).1, timed) := rfl
        have hread : (MonadExcept.ofExcept (newText request previous) :
            Action Memory (Option String)).outcome timed =
              (.error (.patchApply fault.message), timed) := by
          rw [htext]
          rfl
        rw [update, Action.outcome_bind_ok hstart, Action.outcome_bind_ok hretitled,
          Action.outcome_bind_ok htimed, Action.outcome_bind_error hread]
        exact .unpatched hfound h.fits hasked hfails
      · obtain ⟨note, m', hupdate, hedited⟩ :=
          h.exists_edited hm ht hwritable hfresh hfound hretitled htext hpatched hgiven
        rw [hupdate]
        exact .edited hfound h.fits hpatch hedited

/-- What an update of a committed note comes to, and what is committed then. -/
structure Updating (m : Memory) (request : UpdateRequest) (result : Except Fault Note)
    (m' : Memory) : Prop where
  /-- It succeeds if and only if the note is there, and the title and the patch fit. -/
  isOk_iff : (∃ note, result = .ok note) ↔
    ∃ previous, m.relational.note? request.note = some previous ∧
      TitleFits m.relational request previous ∧ PatchFits request previous
  /-- Otherwise the first of these that applies is told: the note is not there, -/
  of_missing : m.relational.note? request.note = none →
    result = .error (.noteNotFound request.note)
  /-- the title is blank, -/
  of_blank : ∀ previous, m.relational.note? request.note = some previous → request.AsksBlank →
    result = .error (.invalidInput "Note title must not be blank")
  /-- another note has it, -/
  of_denied : ∀ previous title, m.relational.note? request.note = some previous →
    Title.normalize? request.title = some title → m.relational.Denies previous title →
    result = .error (.titleTaken title)
  /-- the patch does not apply. -/
  of_unpatched : ∀ previous patch fault, m.relational.note? request.note = some previous →
    TitleFits m.relational request previous → request.AsksPatch patch →
    Patch.apply previous.body.toList patch.toList = .error fault →
    result = .error (.patchApply fault.message)
  /-- If it succeeds, the note has become what was asked for. -/
  edited : ∀ note, result = .ok note → ∃ previous,
    m.relational.note? request.note = some previous ∧ Edited request previous note m'

/-- However an update ends, it comes to what it should. -/
lemma UpdateEnds.updating {outcome : Except Fault Note × Memory}
    (h : UpdateEnds m request outcome) :
    Updating m request outcome.1 (Memory.settled m outcome) := by
  have hfails : ∀ {fault : Fault} {note : Note},
      (.error fault : Except Fault Note) ≠ .ok note := nofun
  have hone : ∀ {a b : Note}, m.relational.note? request.note = some a →
      m.relational.note? request.note = some b → b = a :=
    fun ha hb => Option.some.inj (hb.symm.trans ha)
  have hsome : ∀ {a : Note}, m.relational.note? request.note = some a →
      m.relational.note? request.note ≠ none := fun ha hnone => by rw [ha] at hnone; cases hnone
  cases h with
  | missing h =>
    exact {
      isOk_iff := ⟨fun ⟨_, hok⟩ => absurd hok hfails, fun ⟨_, hfound, _⟩ => absurd h (hsome hfound)⟩
      of_missing := fun _ => rfl
      of_blank := fun _ hfound => absurd h (hsome hfound)
      of_denied := fun _ _ hfound => absurd h (hsome hfound)
      of_unpatched := fun _ _ _ hfound => absurd h (hsome hfound)
      edited := fun _ hok => absurd hok hfails }
  | blank hfound h =>
    exact {
      isOk_iff := ⟨fun ⟨_, hok⟩ => absurd hok hfails, fun ⟨_, _, hfits, _⟩ =>
        absurd h hfits.not_blank⟩
      of_missing := fun hnone => absurd hnone (hsome hfound)
      of_blank := fun _ _ _ => rfl
      of_denied := fun _ _ _ hnormal => absurd hnormal h.normalize?_ne
      of_unpatched := fun _ _ _ _ hfits => absurd h hfits.not_blank
      edited := fun _ hok => absurd hok hfails }
  | denied hfound h hdenied =>
    have hnot : ∀ {other : Note}, m.relational.note? request.note = some other →
        ¬TitleFits m.relational request other := by
      intro other hother hfits
      rw [hone hfound hother] at hfits
      exact hfits.not_denied _ h hdenied
    exact {
      isOk_iff := ⟨fun ⟨_, hok⟩ => absurd hok hfails, fun ⟨_, hother, hfits, _⟩ =>
        absurd hfits (hnot hother)⟩
      of_missing := fun hnone => absurd hnone (hsome hfound)
      of_blank := fun _ _ hblank => absurd h hblank.normalize?_ne
      of_denied := fun _ _ _ hnormal _ => by rw [Option.some.inj (h.symm.trans hnormal)]
      of_unpatched := fun _ _ _ hother hfits => absurd hfits (hnot hother)
      edited := fun _ hok => absurd hok hfails }
  | @unpatched previous patch fault _ hfound hfits h hpatch =>
    exact {
      isOk_iff := by
        refine ⟨fun ⟨_, hok⟩ => absurd hok hfails, fun ⟨_, hother, _, hpatches⟩ => ?_⟩
        rw [hone hfound hother] at hpatches
        obtain ⟨text, htext⟩ := hpatches _ h
        rw [hpatch] at htext
        cases htext
      of_missing := fun hnone => absurd hnone (hsome hfound)
      of_blank := fun _ _ hblank => absurd hblank hfits.not_blank
      of_denied := fun _ title hother hnormal hdenied => by
        rw [hone hfound hother] at hdenied
        exact absurd hdenied (hfits.not_denied title hnormal)
      of_unpatched := fun _ other _ hother _ hasked hfails => by
        rw [hone hfound hother, Option.some.inj (hasked.1.symm.trans h.1)] at hfails
        rw [Except.error.inj (hfails.symm.trans hpatch)]
      edited := fun _ hok => absurd hok hfails }
  | @edited previous note m' hfound hfits hpatch h =>
    exact {
      isOk_iff := ⟨fun _ => ⟨previous, hfound, hfits, hpatch⟩, fun _ => ⟨note, rfl⟩⟩
      of_missing := fun hnone => absurd hnone (hsome hfound)
      of_blank := fun _ _ hblank => absurd hblank hfits.not_blank
      of_denied := fun _ title hother hnormal hdenied => by
        rw [hone hfound hother] at hdenied
        exact absurd hdenied (hfits.not_denied title hnormal)
      of_unpatched := fun _ patch _ hother _ hasked hfails => by
        rw [hone hfound hother] at hfails
        obtain ⟨text, htext⟩ := hpatch patch hasked
        rw [htext] at hfails
        cases hfails
      edited := by
        rintro _ ⟨⟩
        exact ⟨previous, hfound, h⟩ }

/-! ## Calls -/

/-- After every run from empty stores, if the graph can be written, an update does what was asked
for, or tells the first thing that is wrong. -/
theorem updating_run (supply : Supply) (calls : List Call) (request : UpdateRequest)
    (hwritable : (run calls (Memory.empty supply)).store.graphReadOnly = false)
    (hfresh : ((service.update request).outcome
      (run calls (Memory.empty supply))).2.store.supply.Fresh) :
    Updating (run calls (Memory.empty supply)).store request
      ((service.update request).outcome (run calls (Memory.empty supply))).1
      ((service.update request).outcome (run calls (Memory.empty supply))).2.store := by
  have hbefore := ((Change.update request).precedes_call _).fresh hfresh
  obtain ⟨hm, ht⟩ := wellTitled_run supply calls hbefore
  obtain ⟨hresult, hstore⟩ :=
    (Change.update request).outcome_call (run calls (Memory.empty supply))
  have hcall : (Change.update request).call = service.update request := rfl
  rw [hcall] at hresult hstore
  rw [hstore, Memory.supply_settled] at hfresh
  rw [hresult, hstore]
  exact (updateEnds hm ht hwritable hfresh).updating

/-- A title with blanks around it, and a patch, which goes before the text. -/
def patching : UpdateRequest :=
  { note := .ofNat 1, title := some " D ", text := some none,
    patch := some "@@ -2,2 +2,2 @@\n [\n-B\n+E\n", archived := some true }

theorem updating_run_patching :
    (run sharing (Memory.empty counting)).store.graphReadOnly = false ∧
      ((service.update patching).outcome
        (run sharing (Memory.empty counting))).2.store.supply.Fresh ∧
      ((service.update patching).outcome
        (run sharing (Memory.empty counting))).1.toOption.map
          (fun note => (note.title, note.text, note.archived)) =
          some ("D", some "[[E]] [[C]]", true) ∧
      Updating (run sharing (Memory.empty counting)).store patching
        ((service.update patching).outcome (run sharing (Memory.empty counting))).1
        ((service.update patching).outcome (run sharing (Memory.empty counting))).2.store := by
  have hwritable : (run sharing (Memory.empty counting)).store.graphReadOnly = false := by
    decide +kernel
  have hfresh : ((service.update patching).outcome
      (run sharing (Memory.empty counting))).2.store.supply.Fresh :=
    (Change.update patching).fresh_of_counting sharing rfl (by decide +kernel)
  exact ⟨hwritable, hfresh, by decide +kernel,
    updating_run counting sharing patching hwritable hfresh⟩

end Store

end LinkedNotes
