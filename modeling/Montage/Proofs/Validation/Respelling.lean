/-
  Montage.Proofs.Validation.Respelling

  Two inputs that differ in the spelling of their fields.  A model has a shape: its fields, each
  with two spellings, and how two values of a field may differ.  Any of its fields may be given
  under the other spelling, if the object has only one of the two.  Both inputs are then read as
  the same, or have the same problems at the same spots.
-/
import Mathlib.Data.List.Forall2
import Mathlib.Data.List.Pairwise
import Montage.Proofs.Json.Regular
import Montage.Validation.Checked

namespace Montage

/-! ## Values that can be shown -/

namespace Json

theorem isEncodable_arr (items : List Json) :
    (Json.arr items).isEncodable = items.all isEncodable := by
  induction items with
  | nil => rfl
  | cons item rest ih =>
      rw [List.all_cons, ← ih]
      simp only [isEncodable, hasFiniteNumbers, hasWholeTexts, itemsHaveFiniteNumbers,
        itemsHaveWholeTexts]
      ac_rfl

theorem isEncodable_obj (fields : List (String × Json)) :
    (Json.obj fields).isEncodable =
      fields.all fun field => isWholeText field.1 && field.2.isEncodable := by
  induction fields with
  | nil => rfl
  | cons field rest ih =>
      rw [List.all_cons, ← ih]
      simp only [isEncodable, hasFiniteNumbers, hasWholeTexts, fieldsHaveFiniteNumbers,
        fieldsHaveWholeTexts]
      ac_rfl

end Json

theorem all_eq_of_forall₂ {α β : Type} {related : α → β → Prop} {p : α → Bool} {q : β → Bool}
    {items : List α} {others : List β} (hsame : ∀ a b, related a b → p a = q b)
    (h : List.Forall₂ related items others) : items.all p = others.all q := by
  induction h with
  | nil => rfl
  | cons hhead _ ih => rw [List.all_cons, List.all_cons, hsame _ _ hhead, ih]

namespace Validation

variable {α β : Type}

/-! ## Spellings -/

/-- Whether a name is one of the two spellings of a field. -/
def Key.spells (key : Key) (name : String) : Bool :=
  name = key.wire || name = key.plain

/-- The other spelling of a field. -/
def Key.turn (key : Key) (name : String) : String :=
  if name = key.wire then key.plain else key.wire

/-- A name, in the other spelling if it is one of a field that is turned. -/
def respell (turned : List Key) (name : String) : String :=
  match turned.find? (·.spells name) with
  | some key => key.turn name
  | none => name

/-- Whether two fields have no spelling in common. -/
def Key.Apart (key other : Key) : Prop :=
  key.wire ≠ other.wire ∧ key.wire ≠ other.plain ∧ key.plain ≠ other.wire ∧
    key.plain ≠ other.plain

instance : DecidableRel Key.Apart :=
  fun _ _ => inferInstanceAs (Decidable (_ ∧ _))

theorem Key.spells_iff {key : Key} {name : String} :
    key.spells name = true ↔ name = key.wire ∨ name = key.plain := by
  simp [spells]

theorem Key.spells_turn (key : Key) (name : String) : key.spells (key.turn name) = true := by
  rw [spells_iff, turn]
  split
  next => exact .inr rfl
  next => exact .inl rfl

instance : Std.Symm Key.Apart where
  symm _ _ h := ⟨h.1.symm, h.2.2.1.symm, h.2.1.symm, h.2.2.2.symm⟩

theorem Key.Apart.not_spells {key other : Key} {name : String} (h : key.Apart other)
    (hkey : key.spells name = true) : ¬ other.spells name = true := by
  obtain ⟨hww, hwp, hpw, hpp⟩ := h
  rw [spells_iff] at hkey ⊢
  rcases hkey with rfl | rfl
  · exact not_or.mpr ⟨hww, hwp⟩
  · exact not_or.mpr ⟨hpw, hpp⟩

theorem Key.turn_wire (key : Key) : key.turn key.wire = key.plain :=
  if_pos rfl

theorem Key.turn_plain (key : Key) : key.turn key.plain = key.wire := by
  rw [turn]
  split
  next hsame => exact hsame
  next => rfl

theorem Key.turn_turn {key : Key} {name : String} (h : key.spells name = true) :
    key.turn (key.turn name) = name := by
  rcases spells_iff.mp h with rfl | rfl
  · rw [turn_wire, turn_plain]
  · rw [turn_plain, turn_wire]

/-! ## Shapes -/

/-- How two values that are read as the same may differ: not in whether they can be shown. -/
structure Likeness where
  alike : Json → Json → Prop
  refl : ∀ value, alike value value
  isEncodable_eq : ∀ {value other}, alike value other → value.isEncodable = other.isEncodable

/-- Only a value and itself are alike. -/
def Likeness.exact : Likeness where
  alike := Eq
  refl := Eq.refl
  isEncodable_eq := congrArg Json.isEncodable

/-- A field of a model, and how two values of it may differ. -/
structure Part where
  key : Key
  likeness : Likeness

/-- The fields of a model, no two of which share a spelling. -/
structure Shape where
  parts : List Part
  apart : (parts.map Part.key).Pairwise Key.Apart
  whole : ∀ key ∈ parts.map Part.key,
    Json.isWholeText key.wire = true ∧ Json.isWholeText key.plain = true

/-- Whether a field of an object becomes another one where some fields are turned: its name is
    respelled, and a value may differ as the model says, or not at all if the field is not one of
    the model. -/
structure Shape.FieldAlike (shape : Shape) (turned : List Key) (field other : String × Json) :
    Prop where
  name : other.1 = respell turned field.1
  known : ∀ part ∈ shape.parts, part.key.spells field.1 = true →
    part.likeness.alike field.2 other.2
  unknown : (∀ part ∈ shape.parts, ¬ part.key.spells field.1 = true) → field.2 = other.2

/-- Whether the fields of an object become others where some fields of its model are turned, of
    each of which the object has but one spelling. -/
structure Shape.Respells (shape : Shape) (turned : List Key) (fields others : List (String × Json)) :
    Prop where
  known : ∀ key ∈ turned, key ∈ shape.parts.map Part.key
  alone : ∀ key ∈ turned, key.wire ∈ fields.map Prod.fst → key.plain ∉ fields.map Prod.fst
  fields : List.Forall₂ (shape.FieldAlike turned) fields others

/-- Whether a value that is read as a model is another one but for spellings. -/
inductive Shape.Alike (shape : Shape) : Json → Json → Prop
  | same (value : Json) : Alike shape value value
  | obj {turned : List Key} {fields others : List (String × Json)}
      (respells : shape.Respells turned fields others) : Alike shape (.obj fields) (.obj others)

section

variable {shape : Shape} {turned : List Key} {fields others : List (String × Json)} {part : Part}
  {name : String}

/-- A name is a spelling of no more than one field. -/
theorem Shape.part_eq_of_spells (shape : Shape) {other : Part} (hpart : part ∈ shape.parts)
    (hother : other ∈ shape.parts) (hname : part.key.spells name = true)
    (hname' : other.key.spells name = true) : part = other := by
  by_contra hne
  have hsymm : Std.Symm fun part other : Part => part.key.Apart other.key :=
    ⟨fun _ _ h => symm h⟩
  have hapart := (List.pairwise_map.mp shape.apart).forall hpart hother hne
  exact hapart.not_spells hname hname'

theorem Shape.key_eq_of_spells (shape : Shape) {key other : Key}
    (hkey : key ∈ shape.parts.map Part.key) (hother : other ∈ shape.parts.map Part.key)
    (hname : key.spells name = true) (hname' : other.spells name = true) : key = other := by
  obtain ⟨part, hpart, rfl⟩ := List.mem_map.mp hkey
  obtain ⟨part', hpart', rfl⟩ := List.mem_map.mp hother
  rw [shape.part_eq_of_spells hpart hpart' hname hname']

/-- A spelling of a field is turned if the field is. -/
theorem Shape.respell_of_spells (shape : Shape) {key : Key} (hkey : key ∈ shape.parts.map Part.key)
    (hturned : ∀ other ∈ turned, other ∈ shape.parts.map Part.key)
    (hname : key.spells name = true) :
    respell turned name = if key ∈ turned then key.turn name else name := by
  unfold respell
  split
  next other hfind =>
    have hmem := List.mem_of_find?_eq_some hfind
    obtain rfl := shape.key_eq_of_spells hkey (hturned other hmem) hname (List.find?_some hfind :)
    rw [if_pos hmem]
  next hfind =>
    have hnot : key ∉ turned := fun hmem => List.find?_eq_none.mp hfind key hmem hname
    rw [if_neg hnot]

/-- Only spellings of a field are respelled as spellings of it. -/
theorem Shape.spells_of_respell (shape : Shape) {key : Key} (hkey : key ∈ shape.parts.map Part.key)
    (hturned : ∀ other ∈ turned, other ∈ shape.parts.map Part.key)
    (hname : key.spells (respell turned name) = true) : key.spells name = true := by
  unfold respell at hname
  split at hname
  next other hfind =>
    have hmem := hturned other (List.mem_of_find?_eq_some hfind)
    obtain rfl := shape.key_eq_of_spells hkey hmem hname (other.spells_turn name)
    exact (List.find?_some hfind :)
  next => exact hname

theorem Shape.isWholeText_respell (shape : Shape)
    (hturned : ∀ key ∈ turned, key ∈ shape.parts.map Part.key) (name : String) :
    Json.isWholeText (respell turned name) = Json.isWholeText name := by
  unfold respell
  split
  next key hfind =>
    obtain ⟨hwire, hplain⟩ := shape.whole key (hturned key (List.mem_of_find?_eq_some hfind))
    have hname : key.spells name = true := (List.find?_some hfind :)
    have hspelled : ∀ other, key.spells other = true → Json.isWholeText other = true := by
      intro other hother
      rcases Key.spells_iff.mp hother with rfl | rfl
      · exact hwire
      · exact hplain
    rw [hspelled name hname, hspelled _ (key.spells_turn name)]
  next => rfl

/-- A field whose value does not differ. -/
theorem Shape.FieldAlike.same (shape : Shape) (turned : List Key) (name : String) (value : Json) :
    shape.FieldAlike turned (name, value) (respell turned name, value) where
  name := rfl
  known part _ _ := part.likeness.refl value
  unknown _ := rfl

/-- A field of the model whose value differs as the model says. -/
theorem Shape.FieldAlike.of_part {value other : Json} (part : Part) (hpart : part ∈ shape.parts)
    (hname : part.key.spells name = true) (halike : part.likeness.alike value other) :
    shape.FieldAlike turned (name, value) (respell turned name, other) where
  name := rfl
  known part' hpart' hname' := by
    rwa [← shape.part_eq_of_spells hpart hpart' hname hname']
  unknown hnone := absurd hname (hnone part hpart)

theorem Shape.FieldAlike.isEncodable_eq {field other : String × Json}
    (hturned : ∀ key ∈ turned, key ∈ shape.parts.map Part.key)
    (h : shape.FieldAlike turned field other) :
    (Json.isWholeText field.1 && field.2.isEncodable) =
      (Json.isWholeText other.1 && other.2.isEncodable) := by
  have hvalue : field.2.isEncodable = other.2.isEncodable := by
    by_cases hknown : ∃ part ∈ shape.parts, part.key.spells field.1 = true
    · obtain ⟨part, hpart, hspells⟩ := hknown
      exact part.likeness.isEncodable_eq (h.known part hpart hspells)
    · rw [h.unknown fun part hpart hspells => hknown ⟨part, hpart, hspells⟩]
  rw [hvalue, h.name, shape.isWholeText_respell hturned]

theorem Shape.Alike.isEncodable_eq {value other : Json} (h : shape.Alike value other) :
    value.isEncodable = other.isEncodable := by
  cases h with
  | same => rfl
  | obj respells =>
      rw [Json.isEncodable_obj, Json.isEncodable_obj]
      exact all_eq_of_forall₂ (fun _ _ hfield => hfield.isEncodable_eq respells.known)
        respells.fields

end

/-! ## Models, lists and maps -/

/-- Objects of a model. -/
def Likeness.object (shape : Shape) : Likeness where
  alike := shape.Alike
  refl := .same
  isEncodable_eq := Shape.Alike.isEncodable_eq

/-- Whether two values are the same, or lists of items that are alike one by one. -/
inductive ListAlike (alike : Json → Json → Prop) : Json → Json → Prop
  | same (value : Json) : ListAlike alike value value
  | items {items others : List Json} (each : List.Forall₂ alike items others) :
      ListAlike alike (.arr items) (.arr others)

/-- Whether two values are the same, or maps with the same keys whose values are alike. -/
inductive MapAlike (alike : Json → Json → Prop) : Json → Json → Prop
  | same (value : Json) : MapAlike alike value value
  | entries {fields others : List (String × Json)}
      (each : List.Forall₂ (fun field other => field.1 = other.1 ∧ alike field.2 other.2) fields
        others) : MapAlike alike (.obj fields) (.obj others)

def Likeness.list (item : Likeness) : Likeness where
  alike := ListAlike item.alike
  refl := .same
  isEncodable_eq := by
    intro value other h
    cases h with
    | same => rfl
    | items each =>
        rw [Json.isEncodable_arr, Json.isEncodable_arr]
        exact all_eq_of_forall₂ (fun _ _ => item.isEncodable_eq) each

def Likeness.map (item : Likeness) : Likeness where
  alike := MapAlike item.alike
  refl := .same
  isEncodable_eq := by
    intro value other h
    cases h with
    | same => rfl
    | entries each =>
        rw [Json.isEncodable_obj, Json.isEncodable_obj]
        refine all_eq_of_forall₂ (fun _ _ hfield => ?_) each
        rw [hfield.1, item.isEncodable_eq hfield.2]

/-! ## Problems at the same spots -/

/-- Whether two ways lead to the same spot in two values: to items at one position, and to fields
    that stand at one place of both objects, under the name that each of them has there. -/
inductive SameSpot : Json → Json → List Step → List Step → Prop
  | same (value : Json) (path : List Step) : SameSpot value value path path
  | here (value other : Json) : SameSpot value other [] []
  | item {items others : List Json} {position : Nat} {item other : Json} {path way : List Step}
      (item_eq : items[position]? = some item) (other_eq : others[position]? = some other)
      (rest : SameSpot item other path way) :
      SameSpot (.arr items) (.arr others) (.index position :: path) (.index position :: way)
  | field {fields others : List (String × Json)} {field other : String × Json}
      {path way : List Step} (mem : (field, other) ∈ fields.zip others)
      (rest : SameSpot field.2 other.2 path way) :
      SameSpot (.obj fields) (.obj others) (.field field.1 :: path) (.field other.1 :: way)
  /-- A field that neither object has. -/
  | missing {fields others : List (String × Json)} {name : String}
      (field : Json.lookup name fields = none) (other : Json.lookup name others = none) :
      SameSpot (.obj fields) (.obj others) [.field name] [.field name]
  /-- The model that a field of both objects names. -/
  | model {fields others : List (String × Json)} {tag word : String} {path way : List Step}
      (field : Json.lookup tag fields = some (.str word))
      (other : Json.lookup tag others = some (.str word))
      (rest : SameSpot (.obj fields) (.obj others) path way) :
      SameSpot (.obj fields) (.obj others) (.field word :: path) (.field word :: way)

/-- The same problem at the same spot of two values. -/
structure Problem.Matches (value other : Json) (problem twin : Problem) : Prop where
  cause : problem.cause = twin.cause
  isQuotable : problem.isQuotable = twin.isQuotable
  spot : SameSpot value other problem.path twin.path

/-- The same result for two values, or the same problems at the same spots, in order. -/
inductive Checked.Matches (value other : Json) : Checked α → Checked α → Prop
  | valid (a : α) : Matches value other (.valid a) (.valid a)
  | invalid {problems twins : List Problem}
      (alike : List.Forall₂ (Problem.Matches value other) problems twins) :
      Matches value other (.invalid problems) (.invalid twins)

/-- The problems of a result, if it is no value. -/
def Checked.problems : Checked α → List Problem
  | .valid _ => []
  | .invalid problems => problems

/-- Whether values that are alike are read as the same. -/
def Likeness.Respects (likeness : Likeness) (read : Json → Checked α) : Prop :=
  ∀ value other, likeness.alike value other → (read value).Matches value other (read other)

namespace Checked.Matches

variable {value other : Json} {result twin : Checked α}

theorem refl (value : Json) (result : Checked α) : result.Matches value value result := by
  cases result with
  | valid a => exact .valid a
  | invalid problems =>
      exact .invalid (List.forall₂_same.mpr fun problem _ => ⟨rfl, rfl, .same value problem.path⟩)

theorem fmap (f : α → β) (h : result.Matches value other twin) :
    (f <$> result).Matches value other (f <$> twin) := by
  cases h with
  | valid a => exact .valid (f a)
  | invalid alike => exact .invalid alike

theorem ap {f g : Checked (α → β)} (hf : f.Matches value other g)
    (h : result.Matches value other twin) : (f <*> result).Matches value other (g <*> twin) := by
  cases hf with
  | valid f =>
      cases h with
      | valid a => exact .valid (f a)
      | invalid alike => exact .invalid alike
  | invalid first =>
      cases h with
      | valid a => exact .invalid first
      | invalid alike => exact .invalid (List.rel_append first alike)

/-- What matches inside two values matches in the values around them. -/
theorem under {inner twinInner : Json} {step twinStep : Step} (h : result.Matches inner twinInner twin)
    (hspot : ∀ path way, SameSpot inner twinInner path way →
      SameSpot value other (step :: path) (twinStep :: way)) :
    (result.under step).Matches value other (twin.under twinStep) := by
  cases h with
  | valid a => exact .valid a
  | invalid alike =>
      refine .invalid (List.forall₂_map_left_iff.mpr (List.forall₂_map_right_iff.mpr ?_))
      exact alike.imp fun _ _ hproblem =>
        ⟨hproblem.cause, hproblem.isQuotable, hspot _ _ hproblem.spot⟩

end Checked.Matches

theorem Likeness.Respects.exact (read : Json → Checked α) : Likeness.exact.Respects read := by
  rintro value _ rfl
  exact .refl value (read value)

/-! ## Fields of a model -/

namespace Shape.Respells

variable {shape : Shape} {turned : List Key} {fields others : List (String × Json)} {part : Part}

/-- A field is found at the same place under a name that no other field gets. -/
theorem lookup_cases (h : shape.Respells turned fields others) {name respelled : String}
    (hname : ∀ found ∈ fields.map Prod.fst, found = name ↔ respell turned found = respelled) :
    (Json.lookup name fields = none ∧ Json.lookup respelled others = none) ∨
      ∃ value other, Json.lookup name fields = some value ∧
        Json.lookup respelled others = some other ∧
        ((name, value), (respelled, other)) ∈ fields.zip others := by
  have hfields := h.fields
  clear h
  induction hfields with
  | nil => exact .inl ⟨rfl, rfl⟩
  | @cons field other rest twins hhead _ ih =>
      obtain ⟨found, value⟩ := field
      obtain ⟨twin, value'⟩ := other
      obtain rfl : twin = respell turned found := hhead.name
      have hfound := hname found List.mem_cons_self
      rw [Json.lookup, Json.lookup, List.zip_cons_cons]
      by_cases hhere : found = name
      · have hthere := hfound.mp hhere
        rw [if_pos hhere, if_pos hthere]
        refine .inr ⟨value, value', rfl, rfl, ?_⟩
        rw [← hhere, ← hthere]
        exact List.mem_cons_self
      · have hthere := fun hsame => hhere (hfound.mpr hsame)
        rw [if_neg hhere, if_neg hthere]
        rcases ih fun later hlater => hname later (List.mem_cons_of_mem _ hlater) with
          hnone | ⟨v, w, hv, hw, hmem⟩
        · exact .inl hnone
        · exact .inr ⟨v, w, hv, hw, List.mem_cons_of_mem _ hmem⟩

/-- A name of a field that keeps its spelling, which no other name becomes. -/
theorem eq_iff_respell_eq (h : shape.Respells turned fields others) (hpart : part ∈ shape.parts)
    (hkept : part.key ∉ turned) {name : String} (hname : part.key.spells name = true)
    (found : String) : found = name ↔ respell turned found = name := by
  have hkey : part.key ∈ shape.parts.map Part.key := List.mem_map_of_mem hpart
  have hsame : ∀ spelled, part.key.spells spelled = true → respell turned spelled = spelled := by
    intro spelled hspelled
    rw [shape.respell_of_spells hkey h.known hspelled, if_neg hkept]
  constructor
  · rintro rfl
    exact hsame found hname
  · intro hrespelled
    rw [← hrespelled] at hname
    rw [← hrespelled, hsame found (shape.spells_of_respell hkey h.known hname)]

/-- The other spelling of a field that is turned, which no other name becomes. -/
theorem eq_iff_respell_eq_turn (h : shape.Respells turned fields others)
    (hpart : part ∈ shape.parts) (hturned : part.key ∈ turned) {name : String}
    (hname : part.key.spells name = true) (found : String) :
    found = name ↔ respell turned found = part.key.turn name := by
  have hkey : part.key ∈ shape.parts.map Part.key := List.mem_map_of_mem hpart
  have hturn : ∀ spelled, part.key.spells spelled = true →
      respell turned spelled = part.key.turn spelled := by
    intro spelled hspelled
    rw [shape.respell_of_spells hkey h.known hspelled, if_pos hturned]
  constructor
  · rintro rfl
    exact hturn found hname
  · intro hrespelled
    have hspells : part.key.spells (respell turned found) = true := by
      rw [hrespelled]
      exact part.key.spells_turn name
    have hfound := shape.spells_of_respell hkey h.known hspells
    rw [hturn found hfound] at hrespelled
    rw [← Key.turn_turn hfound, hrespelled, Key.turn_turn hname]

/-- The values of a field at one place of both objects are alike. -/
theorem alike_of_mem (h : shape.Respells turned fields others) (hpart : part ∈ shape.parts)
    {field other : String × Json} (hmem : (field, other) ∈ fields.zip others)
    (hname : part.key.spells field.1 = true) : part.likeness.alike field.2 other.2 :=
  ((List.forall₂_iff_zip.mp h.fields).2 hmem).known part hpart hname

/-- A field of a model is in both objects at the same place, with values that are alike, or in
    neither of them. -/
theorem find?_cases (h : shape.Respells turned fields others) (hpart : part ∈ shape.parts) :
    (part.key.find? fields = none ∧ part.key.find? others = none) ∨
      ∃ found twin, part.key.find? fields = some found ∧ part.key.find? others = some twin ∧
        ((found.name, found.value), (twin.name, twin.value)) ∈ fields.zip others ∧
        part.likeness.alike found.value twin.value := by
  have hwire : part.key.spells part.key.wire = true := Key.spells_iff.mpr (.inl rfl)
  have hplain : part.key.spells part.key.plain = true := Key.spells_iff.mpr (.inr rfl)
  simp only [Key.find?]
  by_cases hturned : part.key ∈ turned
  · have hfirst := h.lookup_cases fun found _ => h.eq_iff_respell_eq_turn hpart hturned hwire found
    have hsecond := h.lookup_cases fun found _ => h.eq_iff_respell_eq_turn hpart hturned hplain found
    rw [Key.turn_wire] at hfirst
    rw [Key.turn_plain] at hsecond
    rcases hfirst with ⟨hnone, hnone'⟩ | ⟨value, other, hvalue, hother, hmem⟩
    · rcases hsecond with ⟨hnone₂, hnone₂'⟩ | ⟨value, other, hvalue, hother, hmem⟩
      · simp [hnone, hnone', hnone₂, hnone₂']
      · rw [hnone, hvalue, hother]
        exact .inr ⟨_, _, rfl, rfl, hmem, h.alike_of_mem hpart hmem hplain⟩
    · -- an object that has the wire spelling of a turned field has no other one
      have hname : part.key.wire ∈ fields.map Prod.fst :=
        List.mem_map_of_mem (Json.mem_of_lookup hvalue)
      have hnot := h.alone part.key hturned hname
      rcases hsecond with ⟨-, hnone'⟩ | ⟨value, other, hvalue, -, -⟩
      · rw [hvalue, hnone', hother]
        exact .inr ⟨_, _, rfl, rfl, hmem, h.alike_of_mem hpart hmem hwire⟩
      · exact absurd (List.mem_map_of_mem (Json.mem_of_lookup hvalue)) hnot
  · have hfirst := h.lookup_cases fun found _ => h.eq_iff_respell_eq hpart hturned hwire found
    have hsecond := h.lookup_cases fun found _ => h.eq_iff_respell_eq hpart hturned hplain found
    rcases hfirst with ⟨hnone, hnone'⟩ | ⟨value, other, hvalue, hother, hmem⟩
    · rcases hsecond with ⟨hnone₂, hnone₂'⟩ | ⟨value, other, hvalue, hother, hmem⟩
      · simp [hnone, hnone', hnone₂, hnone₂']
      · rw [hnone, hvalue, hnone', hother]
        exact .inr ⟨_, _, rfl, rfl, hmem, h.alike_of_mem hpart hmem hplain⟩
    · rw [hvalue, hother]
      exact .inr ⟨_, _, rfl, rfl, hmem, h.alike_of_mem hpart hmem hwire⟩

theorem isEncodable_eq (h : shape.Respells turned fields others) :
    (Json.obj fields).isEncodable = (Json.obj others).isEncodable :=
  (Shape.Alike.obj h).isEncodable_eq

/-- A field with a single spelling, whose values do not differ. -/
theorem lookup_eq (h : shape.Respells turned fields others) {name : String}
    (hpart : ⟨.same name, .exact⟩ ∈ shape.parts) :
    Json.lookup name fields = Json.lookup name others := by
  have hname : (Key.same name).spells name = true := Key.spells_iff.mpr (.inl rfl)
  have hturn : (Key.same name).turn name = name := Key.turn_wire (.same name)
  have hfound : ∀ found, found = name ↔ respell turned found = name := by
    intro found
    by_cases hturned : .same name ∈ turned
    · rw [h.eq_iff_respell_eq_turn hpart hturned hname, hturn]
    · exact h.eq_iff_respell_eq hpart hturned hname found
  rcases h.lookup_cases fun found _ => hfound found with
    ⟨hnone, hnone'⟩ | ⟨value, other, hvalue, hother, hmem⟩
  · rw [hnone, hnone']
  · have hsame : value = other := h.alike_of_mem hpart hmem hname
    rw [hvalue, hother, hsame]

/-- A field that is found in both objects. -/
theorem matches_found {found twin : Found} {read : Json → Checked α}
    (hmem : ((found.name, found.value), (twin.name, twin.value)) ∈ fields.zip others)
    (hread : (read found.value).Matches found.value twin.value (read twin.value)) :
    (found.check read).Matches (.obj fields) (.obj others) (twin.check read) :=
  hread.under fun _ _ => .field hmem

theorem matches_optional (h : shape.Respells turned fields others) (part : Part)
    (hpart : part ∈ shape.parts) (default : α) {read : Json → Checked α}
    (hread : part.likeness.Respects read) :
    (Validation.optional part.key default read fields).Matches (.obj fields) (.obj others)
      (Validation.optional part.key default read others) := by
  unfold Validation.optional
  rcases h.find?_cases hpart with ⟨hnone, hnone'⟩ | ⟨found, twin, hfound, htwin, hmem, halike⟩
  · rw [hnone, hnone']
    exact .valid default
  · rw [hfound, htwin]
    exact matches_found hmem (hread _ _ halike)

theorem lookup_eq_none_of_find? {key : Key} (h : key.find? fields = none) :
    Json.lookup key.wire fields = none := by
  unfold Key.find? at h
  split at h
  next => cases h
  next hnone => exact hnone

theorem matches_required (h : shape.Respells turned fields others) (part : Part)
    (hpart : part ∈ shape.parts) {read : Json → Checked α} (hread : part.likeness.Respects read) :
    (Validation.required part.key read fields).Matches (.obj fields) (.obj others)
      (Validation.required part.key read others) := by
  unfold Validation.required
  rcases h.find?_cases hpart with ⟨hnone, hnone'⟩ | ⟨found, twin, hfound, htwin, hmem, halike⟩
  · rw [hnone, hnone']
    have hspot : SameSpot (.obj fields) (.obj others) [.field part.key.wire] [.field part.key.wire] :=
      .missing (lookup_eq_none_of_find? hnone) (lookup_eq_none_of_find? hnone')
    exact .invalid (.cons ⟨rfl, h.isEncodable_eq, hspot⟩ .nil)
  · rw [hfound, htwin]
    exact matches_found hmem (hread _ _ halike)

/-- A field whose values do not differ. -/
theorem matches_optional_exact (h : shape.Respells turned fields others) {key : Key}
    (hpart : ⟨key, .exact⟩ ∈ shape.parts) (default : α) (read : Json → Checked α) :
    (Validation.optional key default read fields).Matches (.obj fields) (.obj others)
      (Validation.optional key default read others) :=
  h.matches_optional ⟨key, .exact⟩ hpart default (.exact read)

theorem matches_required_exact (h : shape.Respells turned fields others) {key : Key}
    (hpart : ⟨key, .exact⟩ ∈ shape.parts) (read : Json → Checked α) :
    (Validation.required key read fields).Matches (.obj fields) (.obj others)
      (Validation.required key read others) :=
  h.matches_required ⟨key, .exact⟩ hpart (.exact read)

end Shape.Respells

/-! ## Models, lists and maps that are read -/

theorem Likeness.Respects.list {item : Likeness} {read : Json → Checked α}
    (h : item.Respects read) : item.list.Respects (checkList read) := by
  have hitems : ∀ items others before earlier, List.Forall₂ item.alike items others →
      before.length = earlier.length →
      (checkItems read before.length items).Matches (.arr (before ++ items))
        (.arr (earlier ++ others)) (checkItems read before.length others) := by
    intro items others before earlier halike
    induction halike generalizing before earlier with
    | nil => exact fun _ => .valid []
    | @cons first twin rest twins hhead _ ih =>
        intro hlength
        have hrest := ih (before ++ [first]) (earlier ++ [twin]) (by simp [hlength])
        simp only [List.append_assoc, List.singleton_append, List.length_append,
          List.length_singleton] at hrest
        refine Checked.Matches.ap (.fmap List.cons (.under (h first twin hhead) ?_)) hrest
        exact fun path way hspot => .item (by simp) (by simp [hlength]) hspot
  intro value other halike
  cases halike with
  | same => exact .refl value _
  | items each => exact hitems _ _ [] [] each rfl

theorem Likeness.Respects.map {item : Likeness} {read : Json → Checked α}
    (h : item.Respects read) : item.map.Respects (checkMap read) := by
  intro value other halike
  cases halike with
  | same => exact .refl value _
  | @entries fields others each =>
      have hentries : ∀ rest twins, List.Forall₂
          (fun field other => field.1 = other.1 ∧ item.alike field.2 other.2) rest twins →
          (∀ pair ∈ rest.zip twins, pair ∈ fields.zip others) →
          (checkEntries read rest).Matches (.obj fields) (.obj others)
            (checkEntries read twins) := by
        intro rest twins hrest
        induction hrest with
        | nil => exact fun _ => .valid []
        | @cons field twin rest twins hhead _ ih =>
            intro hmem
            obtain ⟨key, first⟩ := field
            obtain ⟨_, second⟩ := twin
            obtain ⟨rfl, halike⟩ := hhead
            rw [List.zip_cons_cons] at hmem
            have hrest := ih fun pair hpair => hmem pair (List.mem_cons_of_mem _ hpair)
            refine Checked.Matches.ap (.fmap _ (.under (h first second halike) ?_)) hrest
            exact fun path way hspot =>
              .field (hmem ((key, first), (key, second)) List.mem_cons_self) hspot
      exact hentries fields others each fun _ hpair => hpair

end Validation

end Montage
