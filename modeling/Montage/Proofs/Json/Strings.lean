/-
  Montage.Proofs.Json.Strings

  Texts in JSON text that are read back: every character is read as itself, whether it
  stands for itself or is escaped.
-/
import Montage.Json.Reader
import Montage.Json.Writer

namespace Montage.Json

open Montage.Text

/-! ## Characters -/

/-- A control character is written with four hexadecimal digits that stand for it. -/
theorem fourHex?_hexText {code : Nat} (hcode : code < 0x20) {after : List Char}
    (hafter : after ≠ []) : fourHex? (hexText 4 code ++ after) = some (code, after) := by
  have hdigits : ∀ small < 0x20, (hexText 4 small).map hexValue? =
      [some 0, some 0, some (small / 16), some (small % 16)] := by
    decide
  have hvalues := hdigits code hcode
  obtain ⟨a, b, c, d, htext⟩ : ∃ a b c d, hexText 4 code = [a, b, c, d] := ⟨_, _, _, _, rfl⟩
  rw [htext] at hvalues ⊢
  simp only [List.map_cons, List.cons.injEq] at hvalues
  obtain ⟨ha, hb, hc, hd, -⟩ := hvalues
  simp only [List.cons_append, List.nil_append, fourHex?, ha, hb, hc, hd, List.isEmpty_iff, hafter,
    if_false]
  congr 2
  omega

/-- Only a high surrogate takes a second escape. -/
theorem pairing?_eq_none {code : Nat} (h : Surrogate.isHigh code = false) (after : List Char) :
    pairing? code after = none := by
  unfold pairing?
  split
  · split
    · rw [h]
      rfl
    · rfl
  · rfl

theorem keep_of_lt {code : Nat} (hcode : code < 0x20) :
    Surrogate.keep code = Char.ofNat code := by
  have hhalf : (Surrogate.isHigh code || Surrogate.isLow code) = false := by
    simp only [Surrogate.isHigh, Surrogate.isLow, Bool.or_eq_false_iff, Bool.and_eq_false_iff,
      decide_eq_false_iff_not]
    omega
  rw [Surrogate.keep, hhalf]
  rfl

/-- The rest of a string after one character of it. -/
def withChar (c : Char) (read : Except Refusal (List Char × List Char)) :
    Except Refusal (List Char × List Char) :=
  read.map fun (chars, left) => (c :: chars, left)

theorem stringTail_escape {start escaped after : List Char} {c : Char} (fuel : Nat)
    (h : escape start ('\\' :: escaped) escaped = .ok (c, after)) :
    stringTail start (fuel + 1) ('\\' :: escaped) = withChar c (stringTail start fuel after) := by
  rw [stringTail]
  dsimp only
  rw [if_neg (by decide), if_pos rfl, h]
  dsimp only [bind, Except.bind]
  cases stringTail start fuel after <;> rfl

theorem stringTail_plain (start after : List Char) {c : Char} (fuel : Nat) (hquote : c ≠ '"')
    (hslash : c ≠ '\\') (hcontrol : ¬c.toNat < 0x20) :
    stringTail start (fuel + 1) (c :: after) = withChar c (stringTail start fuel after) := by
  rw [stringTail]
  dsimp only
  rw [if_neg hquote, if_neg hslash, if_neg hcontrol]
  cases stringTail start fuel after <;> rfl

/-- A control character is read back from its escape. -/
theorem escape_hexText (start escaped : List Char) {c : Char} (hcontrol : c.toNat < 0x20)
    {after : List Char} (hafter : after ≠ []) :
    escape start escaped ('u' :: (hexText 4 c.toNat ++ after)) = .ok (c, after) := by
  have hhigh : Surrogate.isHigh c.toNat = false := by
    simp only [Surrogate.isHigh, Bool.and_eq_false_iff, decide_eq_false_iff_not]
    omega
  rw [escape, fourHex?_hexText hcontrol hafter]
  dsimp only
  rw [pairing?_eq_none hhigh, keep_of_lt hcontrol, Char.ofNat_toNat]

/-- A character is read back, whatever follows its text. -/
theorem stringTail_stringChar (start : List Char) (fuel : Nat) (c : Char) {after : List Char}
    (hafter : after ≠ []) :
    stringTail start (fuel + 1) (stringChar c ++ after) =
      withChar c (stringTail start fuel after) := by
  unfold stringChar
  split
  next hself => rcases hself with rfl | rfl <;> exact stringTail_escape fuel rfl
  next hself =>
    rw [not_or] at hself
    split
    next hc => exact hc ▸ stringTail_escape fuel rfl
    split
    next hc => exact hc ▸ stringTail_escape fuel rfl
    split
    next hc => exact hc ▸ stringTail_escape fuel rfl
    split
    next hc => exact hc ▸ stringTail_escape fuel rfl
    split
    next hc => exact hc ▸ stringTail_escape fuel rfl
    split
    next hcontrol => exact stringTail_escape fuel (escape_hexText start _ hcontrol hafter)
    next hcontrol => exact stringTail_plain start after fuel hself.1 hself.2 hcontrol

/-! ## Texts -/

/-- The characters of a text are read back up to its closing quote. -/
theorem stringTail_chars (start : List Char) (chars rest : List Char) {fuel : Nat}
    (hfuel : chars.length < fuel) :
    stringTail start fuel (chars.flatMap stringChar ++ '"' :: rest) = .ok (chars, rest) := by
  induction chars generalizing fuel with
  | nil =>
      obtain ⟨more, rfl⟩ : ∃ more, fuel = more + 1 := ⟨fuel - 1, by omega⟩
      rfl
  | cons c chars ih =>
      rw [List.length_cons] at hfuel
      obtain ⟨more, rfl⟩ : ∃ more, fuel = more + 1 := ⟨fuel - 1, by omega⟩
      have hafter : chars.flatMap stringChar ++ '"' :: rest ≠ [] :=
        List.append_ne_nil_of_right_ne_nil _ (List.cons_ne_nil _ _)
      rw [List.flatMap_cons, List.append_assoc, stringTail_stringChar start more c hafter,
        ih (by omega)]
      rfl

theorem toList_stringText (text : String) :
    (stringText text).toList = '"' :: (text.toList.flatMap stringChar ++ ['"']) := by
  rw [stringText, String.toList_ofList, List.cons_append]

theorem stringChar_ne_nil (c : Char) : stringChar c ≠ [] := by
  unfold stringChar
  repeat' split
  all_goals exact List.cons_ne_nil _ _

theorem length_le_flatMap_stringChar (chars : List Char) :
    chars.length ≤ (chars.flatMap stringChar).length := by
  induction chars with
  | nil => exact Nat.le_refl 0
  | cons c chars ih =>
      have hone := List.length_pos_iff.mpr (stringChar_ne_nil c)
      rw [List.flatMap_cons, List.length_append, List.length_cons]
      omega

/-- A text is read back from its JSON text. -/
theorem string_stringText (text : String) (rest : List Char) :
    string ((stringText text).toList ++ rest) = .ok (text, rest) := by
  have hlength := length_le_flatMap_stringChar text.toList
  have htext : (stringText text).toList ++ rest =
      '"' :: (text.toList.flatMap stringChar ++ '"' :: rest) := by
    rw [toList_stringText, List.cons_append, List.append_assoc]
    rfl
  have hfuel : text.toList.length <
      ('"' :: (text.toList.flatMap stringChar ++ '"' :: rest)).length := by
    rw [List.length_cons, List.length_append]
    omega
  unfold string
  rw [htext, List.drop_one, List.tail_cons, stringTail_chars _ _ _ hfuel]
  exact congrArg (fun read => Except.ok (read, rest)) String.ofList_toList

end Montage.Json
