import LinkedNotes.Proofs.Keyed
import LinkedNotes.Proofs.Store.Supply
import LinkedNotes.Proofs.Text.Distinct
import LinkedNotes.Store.Relational
import Mathlib.Tactic.Tauto

/-!
# Keywords of the relational store

Keywords get their identifiers from the supply. As long as that never repeats itself, they keep
identifiers of their own, and no user gets two of a name (`Registered`). Asking for keywords adds
the missing ones and no others (`Ensures`); of the keywords with given names, exactly those go that
no note refers to (`deleteUnused`).
-/

namespace LinkedNotes.Store

/-! ## Registered keywords -/

/-- The keywords have identifiers of their own, taken from the supply, and no user has two of a
name. -/
structure Registered (supply : Supply) (keywords : List Keyword) : Prop where
  nodup : (keywords.map (·.id)).Nodup
  unique : ∀ k ∈ keywords, ∀ l ∈ keywords, k.user = l.user → k.name = l.name → k = l
  drawn : ∀ k ∈ keywords, supply.Drawn k.id

namespace Registered

variable {supply later : Supply} {keywords : List Keyword}

lemma eq_of_id_eq (h : Registered supply keywords) {k l : Keyword} (hk : k ∈ keywords)
    (hl : l ∈ keywords) (hid : k.id = l.id) : k = l :=
  Keyed.eq_of_key_eq h.nodup hk hl hid

lemma mono (h : Registered supply keywords) (hlater : supply.Precedes later) :
    Registered later keywords :=
  ⟨h.nodup, h.unique, fun k hk => hlater.drawn (h.drawn k hk)⟩

/-- Fewer keywords are still registered. -/
lemma sublist (h : Registered supply keywords) {fewer : List Keyword}
    (hfewer : List.Sublist fewer keywords) : Registered supply fewer :=
  ⟨h.nodup.sublist (hfewer.map _),
    fun k hk l hl => h.unique k (hfewer.subset hk) l (hfewer.subset hl),
    fun k hk => h.drawn k (hfewer.subset hk)⟩

end Registered

namespace Relational

/-- A keyword that is found by name is the one of the user with the name. -/
lemma of_keywordNamed?_eq_some {store : Relational} {user : Identifier} {name : String}
    {keyword : Keyword} (h : store.keywordNamed? user name = some keyword) :
    keyword ∈ store.keywords ∧ keyword.user = user ∧ keyword.name = name := by
  have hmem := List.mem_of_find?_eq_some h
  have hsome := List.find?_some h
  rw [Bool.and_eq_true, decide_eq_true_eq, decide_eq_true_eq] at hsome
  exact ⟨hmem, hsome.1, hsome.2⟩

lemma keywordNamed?_eq_none {store : Relational} {user : Identifier} {name : String} :
    store.keywordNamed? user name = none ↔
      ∀ k ∈ store.keywords, k.user = user → k.name ≠ name := by
  simp [keywordNamed?, List.find?_eq_none]

/-- The keyword of a user with a name is the one that is found by it. -/
lemma keywordNamed?_eq_some {supply : Supply} {store : Relational}
    (h : Registered supply store.keywords) {user : Identifier} {name : String} {k : Keyword} :
    store.keywordNamed? user name = some k ↔
      k ∈ store.keywords ∧ k.user = user ∧ k.name = name := by
  refine ⟨of_keywordNamed?_eq_some, ?_⟩
  rintro ⟨hk, huser, hname⟩
  cases hfind : store.keywordNamed? user name with
  | none => exact absurd hname (keywordNamed?_eq_none.1 hfind k hk huser)
  | some l =>
    obtain ⟨hl, huser', hname'⟩ := of_keywordNamed?_eq_some hfind
    rw [h.unique l hl k hk (huser'.trans huser.symm) (hname'.trans hname.symm)]

/-! ## Adding missing keywords -/

/-- From one store to the other, keywords of the user with the names were asked for. They are there
now, and nothing but them is new. -/
structure Ensures (user : Identifier) (names : List String) (store : Relational)
    (supply : Supply) (keywords : List Keyword) (store' : Relational) (supply' : Supply) :
    Prop where
  notes_eq : store'.notes = store.notes
  links_eq : store'.links = store.links
  precedes : supply.Precedes supply'
  registered : Registered supply' store'.keywords
  grows : store.keywords <+: store'.keywords
  names_eq : keywords.map (·.name) = names
  of_mem : ∀ k ∈ keywords, k ∈ store'.keywords ∧ k.user = user
  new : ∀ k ∈ store'.keywords, k ∈ store.keywords ∨ k ∈ keywords

variable {user : Identifier} {store : Relational} {supply : Supply}

lemma Ensures.keeps {names : List String} {keywords : List Keyword} {store' : Relational}
    {supply' : Supply} (h : Ensures user names store supply keywords store' supply') :
    store.keywords ⊆ store'.keywords :=
  h.grows.subset

/-- The keywords that are asked for are those of the user with the names. -/
lemma Ensures.mem_iff {names : List String} {keywords : List Keyword} {store' : Relational}
    {supply' : Supply} (h : Ensures user names store supply keywords store' supply')
    (k : Keyword) : k ∈ keywords ↔ k ∈ store'.keywords ∧ k.user = user ∧ k.name ∈ names := by
  rw [← h.names_eq]
  constructor
  · intro hk
    exact ⟨(h.of_mem k hk).1, (h.of_mem k hk).2, List.mem_map_of_mem hk⟩
  · rintro ⟨hk, huser, hname⟩
    obtain ⟨l, hl, hsame⟩ := List.mem_map.1 hname
    obtain ⟨hmem, huser'⟩ := h.of_mem l hl
    rw [h.registered.unique k hk l hmem (huser.trans huser'.symm) hsame.symm]
    exact hl

/-- Keywords with names of their own have identifiers of their own. -/
lemma Ensures.nodup_ids {names : List String} {keywords : List Keyword} {store' : Relational}
    {supply' : Supply} (h : Ensures user names store supply keywords store' supply')
    (hnames : names.Nodup) : (keywords.map (·.id)).Nodup := by
  have hnodup : (keywords.map (·.name)).Nodup := by
    rw [h.names_eq]
    exact hnames
  refine (List.Nodup.of_map _ hnodup).map_on fun k hk l hl hid => ?_
  exact h.registered.eq_of_id_eq (h.of_mem k hk).1 (h.of_mem l hl).1 hid

lemma precedes_ensureKeyword (user : Identifier) (name : String) (store : Relational)
    (supply : Supply) : supply.Precedes (ensureKeyword user name store supply).2 := by
  unfold ensureKeyword
  cases store.keywordNamed? user name with
  | none => exact .draw supply
  | some keyword => exact .refl supply

lemma precedes_ensureDistinct (user : Identifier) (names : List String) (store : Relational)
    (supply : Supply) : supply.Precedes (ensureDistinct user names store supply).2 := by
  induction names generalizing store supply with
  | nil => exact .refl supply
  | cons name rest ih => exact (precedes_ensureKeyword user name store supply).trans (ih _ _)

/-- A keyword with a new identifier and a new name can be registered. -/
lemma registered_concat {keyword : Keyword} (h : Registered supply store.keywords)
    (hnew : ∀ k ∈ store.keywords, k.id ≠ keyword.id)
    (hname : ∀ k ∈ store.keywords, k.user = keyword.user → k.name ≠ keyword.name)
    (hdrawn : supply.Drawn keyword.id) : Registered supply (store.keywords ++ [keyword]) := by
  constructor
  · rw [← Keyed.put_of_forall_ne hnew]
    exact Keyed.nodup_put h.nodup keyword
  · intro k hk l hl huser hsame
    rw [List.mem_append, List.mem_singleton] at hk hl
    rcases hk with hk | rfl
    · rcases hl with hl | rfl
      · exact h.unique k hk l hl huser hsame
      · exact absurd hsame (hname k hk huser)
    · rcases hl with hl | rfl
      · exact absurd hsame.symm (hname l hl huser.symm)
      · rfl
  · intro k hk
    rcases List.mem_append.1 hk with hk | hk
    · exact h.drawn k hk
    · rw [List.mem_singleton.1 hk]
      exact hdrawn

/-- One keyword is found or added. -/
lemma ensures_ensureKeyword (name : String) (h : Registered supply store.keywords)
    (hfresh : (ensureKeyword user name store supply).2.Fresh) :
    Ensures user [name] store supply [(ensureKeyword user name store supply).1.1]
      (ensureKeyword user name store supply).1.2 (ensureKeyword user name store supply).2 := by
  unfold ensureKeyword at hfresh ⊢
  cases hfind : store.keywordNamed? user name with
  | some keyword =>
    obtain ⟨hmem, huser, hname⟩ := of_keywordNamed?_eq_some hfind
    exact {
      notes_eq := rfl
      links_eq := rfl
      precedes := .refl supply
      registered := h
      grows := ⟨[], List.append_nil _⟩
      names_eq := by
        show [keyword.name] = [name]
        rw [hname]
      of_mem := fun k hk => by
        rw [List.mem_singleton.1 hk]
        exact ⟨hmem, huser⟩
      new := fun k hk => Or.inl hk }
  | none =>
    rw [hfind] at hfresh
    -- the keyword is new, and so is its identifier, for all others were taken before
    let keyword : Keyword := ⟨(Supply.draw supply).1, user, name⟩
    have hnew : ∀ k ∈ store.keywords, k.id ≠ keyword.id := by
      intro k hk heq
      refine Supply.not_drawn_draw hfresh ?_
      have hdrawn := h.drawn k hk
      rw [heq] at hdrawn
      exact hdrawn
    have hput : Keyed.put (·.id) keyword store.keywords = store.keywords ++ [keyword] :=
      Keyed.put_of_forall_ne hnew
    have hregistered : Registered (Supply.draw supply).2 (store.keywords ++ [keyword]) :=
      registered_concat (h.mono (.draw supply)) hnew (keywordNamed?_eq_none.1 hfind)
        (Supply.drawn_draw supply)
    rw [← hput] at hregistered
    have hmem : ∀ k, k ∈ Keyed.put (·.id) keyword store.keywords ↔
        k ∈ store.keywords ∨ k = keyword := by
      intro k
      rw [hput, List.mem_append, List.mem_singleton]
    exact {
      notes_eq := rfl
      links_eq := rfl
      precedes := .draw supply
      registered := hregistered
      grows := ⟨[keyword], hput.symm⟩
      names_eq := rfl
      of_mem := fun k hk => ⟨(hmem k).2 (Or.inr (List.mem_singleton.1 hk)), by
        rw [List.mem_singleton.1 hk]
        rfl⟩
      new := fun k hk => ((hmem k).1 hk).imp_right List.mem_singleton.2 }

/-- Keywords are asked for one after the other. -/
lemma ensures_ensureDistinct (names : List String) (h : Registered supply store.keywords)
    (hfresh : (ensureDistinct user names store supply).2.Fresh) :
    Ensures user names store supply (ensureDistinct user names store supply).1.1
      (ensureDistinct user names store supply).1.2
      (ensureDistinct user names store supply).2 := by
  induction names generalizing store supply with
  | nil =>
    exact ⟨rfl, rfl, .refl supply, h, ⟨[], List.append_nil _⟩, rfl,
      fun k hk => absurd hk List.not_mem_nil, fun k hk => Or.inl hk⟩
  | cons name rest ih =>
    -- the supply had not repeated itself after the first keyword either
    have hlater : (ensureKeyword user name store supply).2.Precedes
        (ensureDistinct user (name :: rest) store supply).2 := precedes_ensureDistinct _ _ _ _
    have hfirst := ensures_ensureKeyword name h (hlater.fresh hfresh)
    have hrest := ih hfirst.registered hfresh
    exact {
      notes_eq := hrest.notes_eq.trans hfirst.notes_eq
      links_eq := hrest.links_eq.trans hfirst.links_eq
      precedes := hfirst.precedes.trans hrest.precedes
      registered := hrest.registered
      grows := hfirst.grows.trans hrest.grows
      names_eq := congrArg₂ (· ++ ·) hfirst.names_eq hrest.names_eq
      of_mem := fun k hk => by
        rcases List.mem_cons.1 hk with rfl | hk
        · obtain ⟨hmem, huser⟩ := hfirst.of_mem _ List.mem_cons_self
          exact ⟨hrest.keeps hmem, huser⟩
        · exact hrest.of_mem k hk
      new := fun k hk => by
        rcases hrest.new k hk with hk | hk
        · exact (hfirst.new k hk).imp_right fun hk =>
            List.mem_cons.2 (Or.inl (List.mem_singleton.1 hk))
        · exact Or.inr (List.mem_cons_of_mem _ hk) }

/-- Keywords are asked for, each once. -/
theorem ensures_ensureKeywords (names : List String) (h : Registered supply store.keywords)
    (hfresh : (store.ensureKeywords user names supply).2.Fresh) :
    Ensures user (Text.distinct names) store supply (store.ensureKeywords user names supply).1.1
      (store.ensureKeywords user names supply).1.2
      (store.ensureKeywords user names supply).2 :=
  ensures_ensureDistinct _ h hfresh

/-! ## Dropping unused keywords -/

/-- The keywords of the user with the names that no note refers to. -/
def isUnused (store : Relational) (user : Identifier) (names : List String)
    (keyword : Keyword) : Bool :=
  keyword.user = user && names.contains keyword.name && !store.isReferenced keyword.id

lemma isUnused_iff {names : List String} {k : Keyword} :
    store.isUnused user names k = true ↔
      k.user = user ∧ k.name ∈ names ∧ store.isReferenced k.id = false := by
  simp [isUnused, and_assoc]

/-- One more name concerns the keyword that the user has of it. -/
lemma isUnused_cons {name : String} {rest : List String} {k : Keyword} :
    store.isUnused user (name :: rest) k = true ↔
      store.isUnused user rest k = true ∨ store.isUnused user [name] k = true := by
  simp only [isUnused_iff, List.mem_cons, List.not_mem_nil, or_false]
  tauto

/-- The names that are told are those of the keywords that are dropped. -/
def DropsUnused (user : Identifier) (names : List String) (store : Relational)
    (result : List String × Relational) : Prop :=
  result.2 = { store with keywords :=
      store.keywords.filter fun keyword => !store.isUnused user names keyword } ∧
    ∀ name, name ∈ result.1 ↔
      ∃ k ∈ store.keywords, store.isUnused user names k = true ∧ k.name = name

/-- A name of which the user has no unused keyword can be passed over. -/
lemma DropsUnused.pass {name : String} {rest : List String} {result : List String × Relational}
    (h : DropsUnused user rest store result)
    (hname : ∀ k ∈ store.keywords, store.isUnused user [name] k = false) :
    DropsUnused user (name :: rest) store result := by
  have hsame : ∀ k ∈ store.keywords,
      store.isUnused user (name :: rest) k = store.isUnused user rest k := by
    intro k hk
    rw [Bool.eq_iff_iff, isUnused_cons, hname k hk]
    simp
  obtain ⟨hstore, hnames⟩ := h
  constructor
  · rw [hstore]
    congr 1
    exact List.filter_congr fun k hk => by rw [hsame k hk]
  · intro other
    rw [hnames]
    constructor
    · intro hname
      rcases hname with ⟨k, hk, hunused, rfl⟩
      exact ⟨k, hk, (hsame k hk).trans hunused, rfl⟩
    · intro hname
      rcases hname with ⟨k, hk, hunused, rfl⟩
      exact ⟨k, hk, (hsame k hk).symm.trans hunused, rfl⟩

/-- An unused keyword is dropped before those of the other names. -/
lemma DropsUnused.drop {keyword : Keyword} {rest : List String}
    {result : List String × Relational} (h : Registered supply store.keywords)
    (hmem : keyword ∈ store.keywords) (hunused : store.isUnused user [keyword.name] keyword = true)
    (hresult : DropsUnused user rest (store.eraseKeyword keyword.id) result) :
    DropsUnused user (keyword.name :: rest) store (keyword.name :: result.1, result.2) := by
  -- what the other keywords are asked does not depend on this one
  have hothers : ∀ names k, (store.eraseKeyword keyword.id).isUnused user names k =
      store.isUnused user names k := fun names k => rfl
  have hone : ∀ k ∈ store.keywords, store.isUnused user [keyword.name] k = true ↔ k = keyword := by
    intro k hk
    constructor
    · intro hk'
      obtain ⟨huser, hname, -⟩ := isUnused_iff.1 hk'
      obtain ⟨huser', -, -⟩ := isUnused_iff.1 hunused
      exact h.unique k hk keyword hmem (huser.trans huser'.symm) (List.mem_singleton.1 hname)
    · rintro rfl
      exact hunused
  have herase : ∀ k, k ∈ (store.eraseKeyword keyword.id).keywords ↔
      k ∈ store.keywords ∧ k.id ≠ keyword.id := fun k => Keyed.mem_erase
  obtain ⟨hstore, hnames⟩ := hresult
  constructor
  · rw [hstore]
    have hfilter : (store.eraseKeyword keyword.id).keywords =
        store.keywords.filter fun k => k.id ≠ keyword.id := rfl
    show { store with keywords := (store.eraseKeyword keyword.id).keywords.filter fun k =>
      !(store.eraseKeyword keyword.id).isUnused user rest k } = _
    rw [hfilter, List.filter_filter]
    congr 1
    refine List.filter_congr fun k hk => ?_
    rw [hothers, Bool.eq_iff_iff, Bool.and_eq_true, Bool.not_eq_true', Bool.not_eq_true',
      decide_eq_true_eq, ← Bool.not_eq_true, ← Bool.not_eq_true, isUnused_cons, hone k hk, not_or]
    -- among the keywords, having the identifier of this one is being this one
    refine and_congr_right fun _ => not_congr ⟨fun hid => ?_, fun heq => by rw [heq]⟩
    exact h.eq_of_id_eq hk hmem hid
  · intro name
    rw [List.mem_cons, hnames]
    constructor
    · intro hname
      rcases hname with rfl | ⟨k, hk, hk', rfl⟩
      · exact ⟨keyword, hmem, isUnused_cons.2 (Or.inr hunused), rfl⟩
      · exact ⟨k, ((herase k).1 hk).1, isUnused_cons.2 (Or.inl hk'), rfl⟩
    · intro hname
      rcases hname with ⟨k, hk, hk', rfl⟩
      by_cases heq : k = keyword
      · exact Or.inl (congrArg Keyword.name heq)
      · rcases isUnused_cons.1 hk' with hk' | hk'
        · exact Or.inr ⟨k, (herase k).2 ⟨hk, fun hid => heq (h.eq_of_id_eq hk hmem hid)⟩, hk', rfl⟩
        · exact absurd ((hone k hk).1 hk') heq

/-- Exactly the unused keywords with the names are dropped, and it is their names that are told. -/
theorem dropsUnused_deleteUnused (names : List String) (h : Registered supply store.keywords) :
    DropsUnused user names store (deleteUnused user names store) := by
  induction names generalizing store with
  | nil =>
    have hnone : ∀ k, store.isUnused user [] k = false := fun k => by simp [isUnused]
    refine ⟨?_, fun name => ?_⟩
    · simp [deleteUnused, hnone]
    · simp [deleteUnused, hnone]
  | cons name rest ih =>
    rw [deleteUnused]
    -- the user has no keyword of the name, or a used one, or one that is dropped
    cases hfind : store.keywordNamed? user name with
    | none =>
      refine (ih h).pass fun k hk => ?_
      rw [← Bool.not_eq_true, isUnused_iff]
      intro hunused
      rcases hunused with ⟨huser, hname, -⟩
      exact keywordNamed?_eq_none.1 hfind k hk huser (List.mem_singleton.1 hname)
    | some keyword =>
      obtain ⟨hmem, huser, rfl⟩ := of_keywordNamed?_eq_some hfind
      dsimp only
      cases hreferenced : store.isReferenced keyword.id with
      | true =>
        refine (ih h).pass fun k hk => ?_
        rw [← Bool.not_eq_true, isUnused_iff]
        intro hunused
        rcases hunused with ⟨huser', hname, hunreferenced⟩
        have heq := h.unique k hk keyword hmem (huser'.trans huser.symm)
          (List.mem_singleton.1 hname)
        rw [heq, hreferenced] at hunreferenced
        cases hunreferenced
      | false =>
        have herased : Registered supply (store.eraseKeyword keyword.id).keywords :=
          h.sublist List.filter_sublist
        have hunused : store.isUnused user [keyword.name] keyword = true :=
          isUnused_iff.2 ⟨huser, List.mem_singleton_self _, hreferenced⟩
        exact .drop h hmem hunused (ih herased)

end Relational

end LinkedNotes.Store
