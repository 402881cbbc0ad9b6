/-
  Montage.Proofs.Json.Whole

  JSON text that can be sent.  The text of a value has no half of a surrogate pair if none of
  the texts in it has one: whatever else is written is plain ASCII.
-/
import Montage.Proofs.Json.Levels
import Montage.Proofs.Json.Strings
import Montage.Proofs.Json.Numerals

namespace Montage.Json

open Montage.Number Montage.Text

/-! ## Parts of texts -/

theorem isWholeText_iff {text : String} :
    isWholeText text = true ↔ ∀ c ∈ text.toList, Surrogate.isHalf c = false := by
  simp [isWholeText]

/-- A whole text is one that has a form in bytes. -/
theorem utf8Refusal?_eq_none_iff {text : String} :
    utf8Refusal? text.toList = none ↔ isWholeText text = true := by
  rw [utf8Refusal?, refusal?_eq_none_iff, isWholeText_iff]
  simp

@[simp]
theorem isWholeText_append (first second : String) :
    isWholeText (first ++ second) = (isWholeText first && isWholeText second) := by
  simp [isWholeText, String.toList_append]

theorem isHalf_of_lt {c : Char} (h : c.toNat < 128) : Surrogate.isHalf c = false := by
  have hbelow : ¬ Surrogate.firstKept ≤ c.toNat := by
    unfold Surrogate.firstKept
    omega
  rw [Surrogate.isHalf, Surrogate.half?, if_neg hbelow]
  rfl

/-! ## Numbers -/

theorem isWholeText_digits {digits : List Char} (h : AllDigits digits) :
    isWholeText (String.ofList digits) = true := by
  rw [isWholeText_iff, String.toList_ofList]
  intro c hc
  have hdigit := h c hc
  refine isHalf_of_lt ?_
  simp only [isAsciiDigit, Bool.and_eq_true, decide_eq_true_eq, Char.le_def] at hdigit
  have hlast : c.toNat ≤ '9'.toNat := hdigit.2
  exact hlast.trans_lt (by decide)

theorem isWholeText_repr (n : Nat) : isWholeText n.repr = true := by
  have hwhole := isWholeText_digits (allDigits_repr n)
  rwa [String.ofList_toList] at hwhole

theorem allDigits_padLeft (width n : Nat) : AllDigits (Decimal.padLeft width n.repr).toList := by
  rw [Decimal.padLeft, String.toList_append, String.toList_ofList]
  exact (allDigits_replicate _).append (allDigits_repr n)

theorem isWholeText_part {digits : List Char} (h : AllDigits digits) (count : Nat) :
    isWholeText (String.ofList (digits.take count)) = true ∧
      isWholeText (String.ofList (digits.drop count)) = true := by
  rw [← List.take_append_drop count digits] at h
  exact ⟨isWholeText_digits h.of_append.1, isWholeText_digits h.of_append.2⟩

theorem isWholeText_positional (keepsPoint : Bool) (d : Decimal.Scaled) :
    isWholeText (Decimal.positional keepsPoint d) = true := by
  have hpoint : isWholeText "." = true ∧ isWholeText ".0" = true := ⟨rfl, rfl⟩
  unfold Decimal.positional
  dsimp only
  split
  · have hzeros := isWholeText_digits (allDigits_replicate d.exponent.toNat)
    split <;> simp [isWholeText_repr, hzeros, hpoint]
  · have hparts := isWholeText_part
      (allDigits_padLeft ((-d.exponent).toNat + 1) d.significand)
    simp [hparts, hpoint]

theorem isWholeText_scientific (exponentDigits : Nat) (d : Decimal.Scaled) :
    isWholeText (Decimal.scientific exponentDigits d) = true := by
  have hparts := isWholeText_part (allDigits_repr d.significand) 1
  have hpower := isWholeText_digits (allDigits_padLeft exponentDigits d.leading.natAbs)
  rw [String.ofList_toList] at hpower
  have hletters : isWholeText "." = true ∧ isWholeText "e" = true := ⟨rfl, rfl⟩
  have hpoint : isWholeText (if (String.ofList (d.significand.repr.toList.drop 1)).isEmpty then ""
      else "." ++ String.ofList (d.significand.repr.toList.drop 1)) = true := by
    split
    · rfl
    · rw [isWholeText_append, hletters.1, hparts.2]
      rfl
  have hsign : isWholeText (if d.leading < 0 then "-" else "+") = true := by
    split <;> rfl
  simp only [Decimal.scientific, isWholeText_append, hparts, hpoint, hletters, hsign, hpower,
    Bool.and_self]

theorem isWholeText_finite (layout : Decimal.Layout) (negative : Bool) (units : Nat) :
    isWholeText (layout.finite negative units) = true := by
  have hsign : isWholeText (Decimal.signText negative) = true := by
    cases negative <;> rfl
  unfold Decimal.Layout.finite Decimal.Layout.render
  rw [isWholeText_append, hsign, Bool.true_and]
  split
  · exact isWholeText_positional layout.keepsPoint _
  · split
    · exact isWholeText_positional layout.keepsPoint _
    · exact isWholeText_scientific layout.exponentDigits _

theorem isWholeText_scalarText (x : Scalar) : isWholeText (scalarText x) = true := by
  have hnull : isWholeText "null" = true := rfl
  cases x with
  | int i =>
      have hsign : ∀ c ∈ signChars (decide (i < 0)), Surrogate.isHalf c = false := by
        cases decide (i < 0) <;> simp [signChars, isHalf_of_lt]
      have hdigits := isWholeText_iff.mp (isWholeText_repr i.natAbs)
      rw [scalarText, isWholeText_iff, toList_toString_int, List.forall_mem_append]
      exact ⟨hsign, hdigits⟩
  | real x =>
      cases x with
      | finite negative units => exact isWholeText_finite numberLayout negative units
      | infinite negative => exact hnull
      | nan => exact hnull

/-! ## Values -/

theorem isHalf_stringChar {c : Char} (hc : Surrogate.isHalf c = false) :
    ∀ other ∈ stringChar c, Surrogate.isHalf other = false := by
  have hescape : ∀ code < 0x20, ∀ other ∈ '\\' :: 'u' :: hexText 4 code,
      Surrogate.isHalf other = false := by
    have hall : ∀ code < 0x20,
        ('\\' :: 'u' :: hexText 4 code).all (fun other => !Surrogate.isHalf other) = true := by
      decide
    intro code hcode
    simpa only [List.all_eq_true, Bool.not_eq_true'] using hall code hcode
  have hletter : ∀ letter, letter.toNat < 128 → ∀ other ∈ ['\\', letter],
      Surrogate.isHalf other = false := by
    intro letter hletter
    simp [isHalf_of_lt hletter, isHalf_of_lt]
  unfold stringChar
  split
  · simpa [hc] using isHalf_of_lt (by decide)
  · repeat' split
    all_goals first | exact hletter _ (by decide) | exact hescape _ ‹_› | simpa using hc

theorem isWholeText_stringText {text : String} (h : isWholeText text = true) :
    isWholeText (stringText text) = true := by
  rw [isWholeText_iff] at h ⊢
  rw [toList_stringText]
  have hquote : Surrogate.isHalf '"' = false := rfl
  simp only [List.mem_cons, List.mem_append, List.mem_flatMap, List.not_mem_nil, or_false]
  rintro other (rfl | ⟨c, hc, hother⟩ | rfl)
  · exact hquote
  · exact isHalf_stringChar (h c hc) other hother
  · exact hquote

theorem isWholeText_writeItems {items : List Json}
    (h : ∀ item ∈ items, isWholeText item.write = true) :
    isWholeText (writeItems items) = true := by
  have hcomma : isWholeText "," = true := rfl
  match items with
  | [] => rfl
  | [item] => exact h item List.mem_cons_self
  | item :: next :: others =>
      obtain ⟨hitem, hrest⟩ := List.forall_mem_cons.mp h
      rw [writeItems, isWholeText_append, isWholeText_append, hitem, hcomma,
        isWholeText_writeItems hrest]
      · rfl
      · exact List.cons_ne_nil next others

theorem isWholeText_writeFields {fields : List (String × Json)}
    (h : ∀ field ∈ fields, isWholeText field.1 = true ∧ isWholeText field.2.write = true) :
    isWholeText (writeFields fields) = true := by
  have hmarks : isWholeText "," = true ∧ isWholeText ":" = true := ⟨rfl, rfl⟩
  have hfield : ∀ field ∈ fields,
      isWholeText (stringText field.1 ++ ":" ++ field.2.write) = true := by
    intro field hmem
    simp [isWholeText_stringText (h field hmem).1, (h field hmem).2, hmarks]
  match fields with
  | [] => rfl
  | [field] => exact hfield field List.mem_cons_self
  | field :: next :: others =>
      have hrest := isWholeText_writeFields (List.forall_mem_cons.mp h).2
      rw [writeFields, isWholeText_append, isWholeText_append, hfield field List.mem_cons_self,
        hmarks.1, hrest]
      · rfl
      · exact List.cons_ne_nil next others

/-- The text of a value has no half of a surrogate pair if no text in the value has one. -/
theorem isWholeText_write {value : Json} (h : value.hasWholeTexts = true) :
    isWholeText value.write = true := by
  induction value using induct with
  | null => rfl
  | bool flag => cases flag <;> rfl
  | num x => exact isWholeText_scalarText x
  | str text => exact isWholeText_stringText h
  | arr items ih =>
      have hitems := itemsHaveWholeTexts_iff.mp h
      have hwhole := isWholeText_writeItems fun item hitem => ih item hitem (hitems item hitem)
      have hbrackets : isWholeText "[" = true ∧ isWholeText "]" = true := ⟨rfl, rfl⟩
      rw [write, isWholeText_append, isWholeText_append, hbrackets.1, hwhole, hbrackets.2]
      rfl
  | obj fields ih =>
      have hfields := fieldsHaveWholeTexts_iff.mp h
      have hwhole := isWholeText_writeFields fun field hfield =>
        ⟨(hfields field hfield).1, ih field hfield (hfields field hfield).2⟩
      have hbraces : isWholeText "\x7b" = true ∧ isWholeText "\x7d" = true := ⟨rfl, rfl⟩
      rw [write, isWholeText_append, isWholeText_append, hbraces.1, hwhole, hbraces.2]
      rfl

end Montage.Json
