import LinkedNotes.Note.Json
import LinkedNotes.Proofs.Identifier
import LinkedNotes.Proofs.Json.ReadBack
import LinkedNotes.Proofs.Time.Spelling
import Mathlib.Data.List.Forall2

/-!
# Notes in JSON read back

A note, keyword, edge or interval is read back from the JSON it is written as, so a text that is
read as one of these is settled by writing it once: whatever spellings it used, the text that was
written says the same and does not change again. The offsets of intervals have a limit, which no
value that was read exceeds. A note with a time in a leap second within a minute is read back with
the regular time of the same spelling, and no text is read as such a note.
-/

namespace LinkedNotes

open Json (Plain Value)
open Text (Interval)
open Time (Date Timestamp)

/-! ## Settled texts -/

namespace Json

section Settled

variable {α : Type}

/-- What is read from a text. -/
def readAs? (ofJson? : Value → Option α) (text : List Char) : Option α := (read? text).bind ofJson?

/-- The text that is written for what is read from a text. -/
def rewrite? (toJson : α → Value) (ofJson? : Value → Option α) (text : List Char) :
    Option (List Char) :=
  (readAs? ofJson? text).map fun a => write (toJson a)

/-- Writing and reading agree on the values with the property `Fits`, and no text is read as any
other value. -/
structure IsStable (toJson : α → Value) (ofJson? : Value → Option α) (Fits : α → Prop) : Prop where
  /-- A value is read back from its text exactly if it fits. -/
  kept_iff : ∀ a, readAs? ofJson? (write (toJson a)) = some a ↔ Fits a
  /-- What is read from a text fits. -/
  fits : ∀ text a, readAs? ofJson? text = some a → Fits a
  /-- A text is read as what it is rewritten to, and that is rewritten to itself. -/
  settled : ∀ text written, rewrite? toJson ofJson? text = some written →
    readAs? ofJson? written = readAs? ofJson? text ∧
      rewrite? toJson ofJson? written = some written

variable {toJson : α → Value} {ofJson? : Value → Option α} {Fits : α → Prop}

lemma readAs?_write {a : α} (h : Plain (toJson a)) :
    readAs? ofJson? (write (toJson a)) = ofJson? (toJson a) := by
  rw [readAs?, read?_write h, Option.bind_some]

/-- It is enough that the JSON values are plain and that each is read as what it was made from. -/
lemma isStable_of_plain (hplain : ∀ a, Plain (toJson a))
    (hback : ∀ a, Fits a → ofJson? (toJson a) = some a)
    (hfits : ∀ v a, ofJson? v = some a → Fits a) : IsStable toJson ofJson? Fits := by
  have hkept : ∀ a, Fits a → readAs? ofJson? (write (toJson a)) = some a := by
    intro a ha
    rw [readAs?_write (hplain a), hback a ha]
  have hread : ∀ text a, readAs? ofJson? text = some a → Fits a := by
    intro text a h
    obtain ⟨v, -, hv⟩ := Option.bind_eq_some_iff.1 h
    exact hfits v a hv
  refine ⟨fun a => ⟨hread _ a, hkept a⟩, hread, ?_⟩
  intro text written h
  obtain ⟨a, ha, rfl⟩ := Option.map_eq_some_iff.1 h
  have hagain := hkept a (hread text a ha)
  rw [rewrite?, hagain, ha]
  exact ⟨rfl, rfl⟩

end Settled

/-! ## Lists and records -/

lemma mapM_eq_some_iff {α β : Type} {f : α → Option β} {l : List α} {r : List β} :
    l.mapM f = some r ↔ List.Forall₂ (fun a b => f a = some b) l r := by
  induction l generalizing r with
  | nil =>
    rw [List.mapM_nil, List.forall₂_nil_left_iff]
    exact Option.some_inj.trans eq_comm
  | cons a l ih =>
    rw [List.mapM_cons, List.forall₂_cons_left_iff, Option.bind_eq_bind, Option.bind_eq_some_iff]
    constructor
    · rintro ⟨b, hb, h⟩
      obtain ⟨rest, hrest, heq⟩ := Option.bind_eq_some_iff.1 h
      exact ⟨b, rest, hb, ih.1 hrest, (Option.some.inj heq).symm⟩
    · rintro ⟨b, rest, hb, hrest, rfl⟩
      exact ⟨b, hb, Option.bind_eq_some_iff.2 ⟨rest, ih.2 hrest, rfl⟩⟩

section Record

variable {members : List (String × Value)}

lemma plain_record (h : ∀ m ∈ members, Plain m.2) : Plain (.record members) := by
  refine .object ?_ ?_
  · intro m hm
    obtain ⟨field, -, rfl⟩ := List.mem_map.1 hm
    rfl
  · intro m hm
    obtain ⟨field, hfield, rfl⟩ := List.mem_map.1 hm
    exact h field hfield

lemma named_record (name : String) (members : List (String × Value)) :
    named name (members.map fun m => (some m.1.toList, m.2)) =
      (members.filter fun m => m.1 == name).map (·.2) := by
  have hsame : ∀ other : String, (some other.toList == some name.toList) = (other == name) := by
    intro other
    rw [Option.some_beq_some, Bool.eq_iff_iff, beq_iff_eq, beq_iff_eq, String.toList_inj]
  simp only [named, List.filter_map, Function.comp_def, hsame, List.map_map]

/-- Only one member bears its name. -/
lemma filter_name (hnames : (members.map (·.1)).Nodup) {m : String × Value} (h : m ∈ members) :
    (members.filter fun other => other.1 == m.1) = [m] := by
  induction members with
  | nil => cases h
  | cons first rest ih =>
    rw [List.map_cons, List.nodup_cons] at hnames
    obtain ⟨hfirst, hrest⟩ := hnames
    rcases List.mem_cons.1 h with rfl | hmem
    · have hnone : (rest.filter fun other => other.1 == m.1) = [] := by
        rw [List.filter_eq_nil_iff]
        intro other hother heq
        exact hfirst (List.mem_map.2 ⟨other, hother, beq_iff_eq.1 heq⟩)
      rw [List.filter_cons, if_pos (beq_self_eq_true m.1), hnone]
    · have hne : ¬(first.1 == m.1) = true := fun heq =>
        hfirst (List.mem_map.2 ⟨m, hmem, (beq_iff_eq.1 heq).symm⟩)
      rw [List.filter_cons, if_neg hne, ih hrest hmem]

/-- The fields of a record are the values of its members in order. -/
lemma fields?_record {names : List String} (hmembers : members.map (·.1) = names)
    (hdistinct : names.Nodup) (spare : Nat) :
    fields? names spare (.record members) = some (members.map fun m => some m.2) := by
  subst hmembers
  have hnamed : (members.map fun m => (some m.1.toList, m.2)).all (fun m => m.1.isSome) = true := by
    simp
  rw [Value.record, fields?, if_pos hnamed, mapM_eq_some_iff, List.forall₂_map_left_iff,
    List.forall₂_map_right_iff, List.forall₂_same]
  intro m hm
  rw [field?, named_record, filter_name hdistinct hm]
  rfl

end Record

end Json

/-! ## Fields -/

section Fields

variable {α : Type} {f : Value → Option α} {g : α → Value}

@[simp]
lemma Json.plain_ofText (text : String) : Plain (.ofText text) := .string _

@[simp]
lemma Json.plain_ofNat (n : Nat) : Plain (.ofNat n) := .number n

@[simp]
lemma Json.plain_bool (b : Bool) : Plain (.bool b) := .bool b

lemma Json.plain_ofOption (h : ∀ a, Plain (g a)) (o : Option α) : Plain (.ofOption g o) := by
  cases o with
  | none => exact .null
  | some a => exact h a

@[simp]
lemma stringOfJson?_ofText (text : String) : stringOfJson? (.ofText text) = some text := by
  rw [stringOfJson?, Value.ofText, Value.text?, Option.map_some, String.ofList_toList]

lemma nat?_ofNat {limit n : Nat} (h : n < limit) : (Value.ofNat n).nat? limit = some n :=
  Text.readNat?_decimal h

lemma lt_of_nat?_eq_some {limit n : Nat} {v : Value} (h : v.nat? limit = some n) : n < limit := by
  cases v with
  | number spelling => exact Text.lt_of_readNat?_eq_some h
  | _ => cases h

@[simp]
lemma requiredField?_some (v : Value) : requiredField? f (some v) = f v := rfl

/-- What is written as null was missing, so nothing else may be written as null. -/
lemma optionalField?_ofOption (hback : ∀ a, f (g a) = some a) (hnull : ∀ a, g a ≠ .null)
    (o : Option α) : optionalField? f (some (.ofOption g o)) = some o := by
  cases o with
  | none => rfl
  | some a =>
    have hvalue : (g a).optional? f = (f (g a)).map some := by
      cases hvalue : g a with
      | null => exact absurd hvalue (hnull a)
      | _ => rfl
    rw [optionalField?, Value.ofOption, hvalue, hback a, Option.map_some]

@[simp]
lemma optionalField?_ofText (o : Option String) :
    optionalField? stringOfJson? (some (.ofOption .ofText o)) = some o :=
  optionalField?_ofOption stringOfJson?_ofText (fun _ h => Value.noConfusion h) o

end Fields

namespace Identifier

@[simp]
lemma plain_toJson (id : Identifier) : Plain id.toJson := .string _

@[simp]
lemma ofJson?_toJson (id : Identifier) : ofJson? id.toJson = some id := by
  rw [ofJson?, toJson, Value.text?, Option.bind_some, ofSpelling?_spell]

@[simp]
lemma optionalField?_toJson (o : Option Identifier) :
    optionalField? ofJson? (some (.ofOption toJson o)) = some o :=
  optionalField?_ofOption ofJson?_toJson (fun _ h => Value.noConfusion h) o

end Identifier

namespace Time.Timestamp

@[simp]
lemma plain_toJson (t : Timestamp) : Plain t.toJson := .string _

@[simp]
lemma ofJson?_toJson (t : Timestamp) : ofJson? t.toJson = some t.regular := by
  rw [ofJson?, toJson, Value.text?, Option.bind_some, ofSpelling?_spell]

lemma isRegular_of_ofJson?_eq_some {v : Value} {t : Timestamp} (h : ofJson? v = some t) :
    t.IsRegular := by
  obtain ⟨text, -, htext⟩ := Option.bind_eq_some_iff.1 h
  exact isRegular_of_ofSpelling?_eq_some htext

end Time.Timestamp

/-! ## Intervals -/

namespace Text.Interval

/-- Both offsets are numbers of 64 bits. -/
def Fits (i : Interval) : Prop := i.start < offsetLimit ∧ i.stop < offsetLimit

lemma plain_toJson (i : Interval) : Plain i.toJson := by
  refine Json.plain_record ?_
  simp

lemma ofJson?_toJson {i : Interval} (h : i.Fits) : ofJson? i.toJson = some i := by
  rw [ofJson?, toJson, Json.fields?_record]
  · simp [nat?_ofNat h.1, nat?_ofNat h.2]
  · rfl
  · decide

/-- An offset that was read is below the limit. -/
lemma fits_of_ofJson?_eq_some {v : Value} {i : Interval} (h : ofJson? v = some i) : i.Fits := by
  obtain ⟨fields, -, h⟩ := Option.bind_eq_some_iff.1 h
  split at h
  · next start stop =>
    obtain ⟨first, hfirst, h⟩ := Option.bind_eq_some_iff.1 h
    obtain ⟨last, hlast, h⟩ := Option.bind_eq_some_iff.1 h
    obtain ⟨value, -, hstart⟩ := Option.bind_eq_some_iff.1 hfirst
    obtain ⟨other, -, hstop⟩ := Option.bind_eq_some_iff.1 hlast
    obtain rfl := Option.some.inj h
    exact ⟨lt_of_nat?_eq_some hstart, lt_of_nat?_eq_some hstop⟩
  · cases h

/-- All offsets of the intervals are numbers of 64 bits. -/
def ListFits (l : List Interval) : Prop := ∀ i ∈ l, i.Fits

@[simp]
lemma plain_listToJson (l : List Interval) : Plain (listToJson l) := by
  refine .array ?_
  intro v hv
  obtain ⟨i, -, rfl⟩ := List.mem_map.1 hv
  exact plain_toJson i

lemma listOfJson?_listToJson {l : List Interval} (h : ListFits l) :
    listOfJson? (listToJson l) = some l := by
  rw [listToJson, listOfJson?, Json.mapM_eq_some_iff, List.forall₂_map_left_iff, List.forall₂_same]
  exact fun i hi => ofJson?_toJson (h i hi)

lemma listFits_of_listOfJson?_eq_some {v : Value} {l : List Interval}
    (h : listOfJson? v = some l) : ListFits l := by
  cases v with
  | array items =>
    have hitems := (Json.mapM_eq_some_iff.1 h).flip
    have hfits := hitems.imp fun i v hv => And.intro (fits_of_ofJson?_eq_some hv) hv
    exact ((List.forall₂_and_left _ _).1 hfits).1
  | _ => cases h

end Text.Interval

/-! ## Keywords and edges -/

namespace EdgeKind

@[simp]
lemma plain_toJson (kind : EdgeKind) : Plain kind.toJson := .string _

@[simp]
lemma ofJson?_toJson (kind : EdgeKind) : ofJson? kind.toJson = some kind := by
  rw [toJson, Value.ofText, ofJson?, String.ofList_toList]
  cases kind <;> rfl

end EdgeKind

namespace Keyword

lemma plain_toJson (k : Keyword) : Plain k.toJson := by
  refine Json.plain_record ?_
  simp

lemma ofJson?_toJson (k : Keyword) : ofJson? k.toJson = some k := by
  rw [ofJson?, toJson, Json.fields?_record]
  · simp
  · rfl
  · decide

end Keyword

namespace Edge

lemma plain_toJson (e : Edge) : Plain e.toJson := by
  refine Json.plain_record ?_
  simp

lemma ofJson?_toJson (e : Edge) : ofJson? e.toJson = some e := by
  rw [ofJson?, toJson, Json.fields?_record]
  · simp
  · rfl
  · decide

end Edge

/-! ## Notes -/

namespace Note

/-- The offsets of the links are numbers of 64 bits, and the times are regular. -/
def Fits (note : Note) : Prop :=
  Interval.ListFits note.links ∧ note.created.IsRegular ∧ note.updated.IsRegular

/-- The note with the regular times that have the same spellings. -/
def regular (note : Note) : Note :=
  { note with created := note.created.regular, updated := note.updated.regular }

lemma regular_eq_self {note : Note} (hcreated : note.created.IsRegular)
    (hupdated : note.updated.IsRegular) : note.regular = note := by
  rw [regular, Timestamp.regular_eq_self_iff.2 hcreated, Timestamp.regular_eq_self_iff.2 hupdated]

lemma plain_toJson (note : Note) : Plain note.toJson := by
  refine Json.plain_record ?_
  simp [Json.plain_ofOption]

lemma ofJson?_toJson {note : Note} (h : Interval.ListFits note.links) :
    ofJson? note.toJson = some note.regular := by
  rw [ofJson?, toJson, Json.fields?_record]
  · simp [Value.bool?, defaultField?, Interval.listOfJson?_listToJson h, regular]
  · rfl
  · decide

/-- The links are read as a list of intervals, or there are none. -/
lemma fits_of_ofJson?_eq_some {v : Value} {note : Note} (h : ofJson? v = some note) :
    note.Fits := by
  obtain ⟨fields, -, h⟩ := Option.bind_eq_some_iff.1 h
  split at h
  · next created updated links =>
    simp only [Option.bind_eq_bind, Option.bind_eq_some_iff, Option.pure_def, Option.some.injEq]
      at h
    obtain ⟨_, -, _, -, _, -, _, -, _, -, _, -, _, -, first, hcreated, last, hupdated, found,
      hlinks, rfl⟩ := h
    have hfound : Interval.ListFits found := by
      cases links with
      | none =>
        obtain rfl := Option.some.inj hlinks
        exact fun i hi => absurd hi List.not_mem_nil
      | some value => exact Interval.listFits_of_listOfJson?_eq_some hlinks
    obtain ⟨_, -, hfirst⟩ := Option.bind_eq_some_iff.1 hcreated
    obtain ⟨_, -, hlast⟩ := Option.bind_eq_some_iff.1 hupdated
    exact ⟨hfound, Timestamp.isRegular_of_ofJson?_eq_some hfirst,
      Timestamp.isRegular_of_ofJson?_eq_some hlast⟩
  · cases h

end Note

/-! ## All of them -/

/-- Notes, keywords, edges, kinds of edges, intervals and lists of intervals are read back from the
JSON they are written as, where offsets are numbers of 64 bits, and a text that is read as one of
these is settled by writing it once. The one exception are notes with a time in a leap second within
a minute, which are read back with the regular time of the same spelling. -/
theorem json_isStable :
    (Json.IsStable Note.toJson Note.ofJson? Note.Fits ∧
      ∀ note : Note, Interval.ListFits note.links →
        Json.readAs? Note.ofJson? (Json.write note.toJson) = some note.regular) ∧
      Json.IsStable Keyword.toJson Keyword.ofJson? (fun _ => True) ∧
      Json.IsStable Edge.toJson Edge.ofJson? (fun _ => True) ∧
      Json.IsStable EdgeKind.toJson EdgeKind.ofJson? (fun _ => True) ∧
      Json.IsStable Interval.toJson Interval.ofJson? Interval.Fits ∧
      Json.IsStable Interval.listToJson Interval.listOfJson? Interval.ListFits := by
  refine ⟨⟨?note, ?times⟩, ?keyword, ?edge, ?kind, ?interval, ?list⟩
  case note =>
    refine Json.isStable_of_plain Note.plain_toJson ?_ fun _ _ => Note.fits_of_ofJson?_eq_some
    rintro note ⟨hlinks, hcreated, hupdated⟩
    rw [Note.ofJson?_toJson hlinks, Note.regular_eq_self hcreated hupdated]
  case times =>
    intro note hlinks
    rw [Json.readAs?_write note.plain_toJson, Note.ofJson?_toJson hlinks]
  case keyword =>
    exact Json.isStable_of_plain Keyword.plain_toJson (fun k _ => k.ofJson?_toJson)
      fun _ _ _ => trivial
  case edge =>
    exact Json.isStable_of_plain Edge.plain_toJson (fun e _ => e.ofJson?_toJson)
      fun _ _ _ => trivial
  case kind =>
    exact Json.isStable_of_plain EdgeKind.plain_toJson (fun kind _ => kind.ofJson?_toJson)
      fun _ _ _ => trivial
  case interval =>
    exact Json.isStable_of_plain Interval.plain_toJson (fun _ => Interval.ofJson?_toJson)
      fun _ _ => Interval.fits_of_ofJson?_eq_some
  case list =>
    exact Json.isStable_of_plain Interval.plain_listToJson
      (fun _ => Interval.listOfJson?_listToJson) fun _ _ => Interval.listFits_of_listOfJson?_eq_some

/-- A note created a third of a second into the leap second behind 23:56:04. -/
def leaping : Note :=
  Note.new default default ⟨Date.epoch, 23, 56, 4, 1333333333, by decide⟩ "T" none

/-- The same note created a third of a second into 23:56:05. -/
def leapt : Note :=
  Note.new default default ⟨Date.epoch, 23, 56, 5, 333333333, by decide⟩ "T" none

/-- A note created in a leap second within a minute is read back as one of the second behind it. -/
theorem not_kept_leaping :
    Interval.ListFits leaping.links ∧
      Json.readAs? Note.ofJson? (Json.write leaping.toJson) = some leapt ∧
      Json.readAs? Note.ofJson? (Json.write leaping.toJson) ≠ some leaping := by
  have hlinks : Interval.ListFits leaping.links := fun i hi => absurd hi List.not_mem_nil
  have hregular : leaping.regular = leapt := rfl
  have hread : Json.readAs? Note.ofJson? (Json.write leaping.toJson) = some leapt := by
    rw [Json.readAs?_write leaping.plain_toJson, Note.ofJson?_toJson hlinks, hregular]
  refine ⟨hlinks, hread, ?_⟩
  rw [hread]
  decide

end LinkedNotes
