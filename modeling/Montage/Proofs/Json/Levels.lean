/-
  Montage.Proofs.Json.Levels

  Induction on JSON values, how many values lie inside each other, and what keeps a value
  from being stored: a half of a surrogate pair in one of its texts, or too many values
  inside each other, and nothing else.
-/
import Mathlib.Data.List.TakeWhile
import Montage.Json.Encodable

namespace Montage.Json

open Montage.Text

/-! ## Induction -/

/-- What holds of a list or an object if it holds of its parts holds of every value. -/
@[elab_as_elim]
theorem induct {motive : Json → Prop} (null : motive .null) (bool : ∀ flag, motive (.bool flag))
    (num : ∀ x, motive (.num x)) (str : ∀ text, motive (.str text))
    (arr : ∀ items, (∀ item ∈ items, motive item) → motive (.arr items))
    (obj : ∀ fields, (∀ field ∈ fields, motive field.2) → motive (.obj fields))
    (value : Json) : motive value :=
  @Json.rec motive (fun items => ∀ item ∈ items, motive item)
    (fun fields => ∀ field ∈ fields, motive field.2) (fun field => motive field.2)
    null bool num str arr obj
    nofun (fun _ _ hfirst hrest => List.forall_mem_cons.mpr ⟨hfirst, hrest⟩)
    nofun (fun _ _ hfirst hrest => List.forall_mem_cons.mpr ⟨hfirst, hrest⟩)
    (fun _ _ hvalue => hvalue) value

/-! ## Levels -/

mutual

/-- How many values lie inside each other in a value, itself included. -/
def levels : Json → Nat
  | .arr items => 1 + levelsOfItems items
  | .obj fields => 1 + levelsOfFields fields
  | _ => 1

def levelsOfItems : List Json → Nat
  | [] => 0
  | item :: rest => max (levels item) (levelsOfItems rest)

def levelsOfFields : List (String × Json) → Nat
  | [] => 0
  | (_, value) :: rest => max (levels value) (levelsOfFields rest)

end

theorem levelsOfItems_le_iff {items : List Json} {bound : Nat} :
    levelsOfItems items ≤ bound ↔ ∀ item ∈ items, item.levels ≤ bound := by
  induction items with
  | nil => simp [levelsOfItems]
  | cons item rest ih => rw [levelsOfItems, Nat.max_le, ih, List.forall_mem_cons]

theorem levelsOfFields_le_iff {fields : List (String × Json)} {bound : Nat} :
    levelsOfFields fields ≤ bound ↔ ∀ field ∈ fields, field.2.levels ≤ bound := by
  induction fields with
  | nil => simp [levelsOfFields]
  | cons field rest ih => rw [levelsOfFields, Nat.max_le, ih, List.forall_mem_cons]

/-! ## Texts -/

/-- A text fits into an encoding exactly if all of its characters do. -/
theorem refusal?_eq_none_iff {codec reason : String} {fits : Char → Bool} {text : List Char} :
    refusal? codec reason fits text = none ↔ ∀ c ∈ text, fits c = true := by
  have hdrop : text.drop (text.takeWhile fits).length = text.dropWhile fits := by
    induction text with
    | nil => rfl
    | cons c rest ih => by_cases hc : fits c = true <;> simp [hc, ih]
  unfold refusal?
  dsimp only
  rw [hdrop, Option.map_eq_none_iff, ← List.dropWhile_eq_nil_iff]
  have hfirst := List.head?_dropWhile_not fits text
  cases hrest : text.dropWhile fits with
  | nil => simp
  | cons c rest =>
      rw [hrest] at hfirst
      have hc : fits c = false := by simpa using hfirst
      cases hrun : rest.takeWhile fun c => !fits c <;> simp [hc, hrun]

/-- A text can be encoded exactly if it has no half of a surrogate pair. -/
theorem textFault?_eq_none_iff {text : String} :
    textFault? text = none ↔ isWholeText text = true := by
  rw [textFault?, Option.map_eq_none_iff, utf8Refusal?, refusal?_eq_none_iff]
  simp [isWholeText]

/-! ## Storing -/

theorem itemsStoreFault?_eq_none_iff {items : List Json} {room : Nat} :
    itemsStoreFault? room items = none ↔ ∀ item ∈ items, storeFault? room item = none := by
  induction items with
  | nil => simp [itemsStoreFault?]
  | cons item rest ih => simp [itemsStoreFault?, ih]

theorem fieldsStoreFault?_eq_none_iff {fields : List (String × Json)} {room : Nat} :
    fieldsStoreFault? room fields = none ↔
      ∀ field ∈ fields, isWholeText field.1 = true ∧ storeFault? room field.2 = none := by
  induction fields with
  | nil => simp [fieldsStoreFault?]
  | cons field rest ih => simp [fieldsStoreFault?, textFault?_eq_none_iff, ih, and_assoc]

theorem itemsHaveWholeTexts_iff {items : List Json} :
    itemsHaveWholeTexts items = true ↔ ∀ item ∈ items, item.hasWholeTexts = true := by
  induction items with
  | nil => simp [itemsHaveWholeTexts]
  | cons item rest ih => simp [itemsHaveWholeTexts, ih]

theorem fieldsHaveWholeTexts_iff {fields : List (String × Json)} :
    fieldsHaveWholeTexts fields = true ↔
      ∀ field ∈ fields, isWholeText field.1 = true ∧ field.2.hasWholeTexts = true := by
  induction fields with
  | nil => simp [fieldsHaveWholeTexts]
  | cons field rest ih => simp [fieldsHaveWholeTexts, ih, and_assoc]

/-- A value can be stored exactly if its texts are whole and it has not too many levels. -/
theorem storeFault?_eq_none_iff {value : Json} {room : Nat} :
    storeFault? room value = none ↔ value.hasWholeTexts = true ∧ value.levels ≤ room := by
  induction value using induct generalizing room with
  | null => cases room <;> simp [storeFault?, hasWholeTexts, levels]
  | bool flag => cases room <;> simp [storeFault?, hasWholeTexts, levels]
  | num x => cases room <;> simp [storeFault?, hasWholeTexts, levels]
  | str text => cases room <;> simp [storeFault?, hasWholeTexts, levels, textFault?_eq_none_iff]
  | arr items ih =>
      cases room with
      | zero => simp [storeFault?, hasWholeTexts, levels]
      | succ inside =>
          simp only [storeFault?, hasWholeTexts, levels]
          rw [if_neg (Nat.succ_ne_zero inside), Nat.add_sub_cancel, Nat.add_comm 1,
            Nat.add_le_add_iff_right, itemsStoreFault?_eq_none_iff, itemsHaveWholeTexts_iff,
            levelsOfItems_le_iff, ← forall₂_and]
          exact forall₂_congr fun item hitem => ih item hitem
  | obj fields ih =>
      cases room with
      | zero => simp [storeFault?, hasWholeTexts, levels]
      | succ inside =>
          simp only [storeFault?, hasWholeTexts, levels]
          rw [if_neg (Nat.succ_ne_zero inside), Nat.add_sub_cancel, Nat.add_comm 1,
            Nat.add_le_add_iff_right, fieldsStoreFault?_eq_none_iff, fieldsHaveWholeTexts_iff,
            levelsOfFields_le_iff, ← forall₂_and]
          refine forall₂_congr fun field hfield => ?_
          rw [ih field hfield, and_assoc]

end Montage.Json
