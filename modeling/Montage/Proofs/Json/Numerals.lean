/-
  Montage.Proofs.Json.Numerals

  Numbers in JSON text that are read back.  An integer is read as itself, and a finite
  double as the same double: however its shortest digits are laid out, the decimal that is
  read has their value.
-/
import Mathlib.Data.List.TakeWhile
import Montage.Json.Reader
import Montage.Json.Writer
import Montage.Proofs.Filter.Wiring
import Montage.Proofs.Number.Shortest

namespace Montage.Json

open Montage.Number

/-! ## Digits -/

/-- Whether a text has decimal digits only. -/
def AllDigits (text : List Char) : Prop :=
  ∀ c ∈ text, isAsciiDigit c = true

/-- Whether a text does not go on with a digit. -/
def NoDigitAhead (rest : List Char) : Prop :=
  ∀ c ∈ rest.head?, isAsciiDigit c = false

theorem takeWhile_digits {digits rest : List Char} (hdigits : AllDigits digits)
    (hrest : NoDigitAhead rest) : (digits ++ rest).takeWhile isAsciiDigit = digits := by
  rw [List.takeWhile_append_of_pos hdigits]
  cases rest with
  | nil => rw [List.takeWhile_nil, List.append_nil]
  | cons c rest =>
      rw [List.takeWhile_cons_of_neg (by simp [hrest c rfl]), List.append_nil]

theorem dropWhile_digits {digits rest : List Char} (hdigits : AllDigits digits)
    (hrest : NoDigitAhead rest) : (digits ++ rest).dropWhile isAsciiDigit = rest := by
  rw [List.dropWhile_append_of_pos hdigits]
  cases rest with
  | nil => rfl
  | cons c rest => exact List.dropWhile_cons_of_neg (by simp [hrest c rfl])

/-- The number that digits stand for. -/
def digitsValue (digits : List Char) : Nat :=
  Numeral.ofDigits (digits.filterMap Numeral.asciiDigit?)

theorem digitsValue_eq {digits : List Char} (h : AllDigits digits) :
    digitsValue digits = Nat.ofDigitChars 10 digits 0 := by
  unfold digitsValue Numeral.ofDigits
  generalize 0 = start
  induction digits generalizing start with
  | nil => rfl
  | cons c rest ih =>
      have hc : '0' ≤ c ∧ c ≤ '9' := by simpa [isAsciiDigit] using h c List.mem_cons_self
      have hvalue : Numeral.asciiDigit? c = some (c.toNat - 48) := if_pos hc
      rw [List.filterMap_cons_some hvalue, List.foldl_cons, Nat.ofDigitChars_cons]
      exact ih (fun other hother => h other (List.mem_cons_of_mem c hother)) _

theorem AllDigits.append {first second : List Char} (hfirst : AllDigits first)
    (hsecond : AllDigits second) : AllDigits (first ++ second) := by
  intro c hc
  exact (List.mem_append.mp hc).elim (hfirst c) (hsecond c)

theorem AllDigits.of_append {first second : List Char} (h : AllDigits (first ++ second)) :
    AllDigits first ∧ AllDigits second :=
  ⟨fun c hc => h c (List.mem_append_left second hc),
    fun c hc => h c (List.mem_append_right first hc)⟩

theorem allDigits_replicate (count : Nat) : AllDigits (List.replicate count '0') := by
  intro c hc
  rw [List.eq_of_mem_replicate hc]
  rfl

theorem allDigits_repr (n : Nat) : AllDigits n.repr.toList := by
  intro c hc
  have hdigit := Filter.isDigit_of_mem_repr hc
  simpa [isAsciiDigit, Char.isDigit, Char.le_def] using hdigit

theorem digitsValue_repr (n : Nat) : digitsValue n.repr.toList = n := by
  rw [digitsValue_eq (allDigits_repr n), Nat.toList_repr]
  exact Nat.ofDigitChars_toDigits (by decide) (by decide)

theorem repr_toList_ne_nil (n : Nat) : n.repr.toList ≠ [] := by
  rw [Nat.toList_repr]
  exact Nat.toDigits_ne_nil

theorem digitsValue_zeros_append (count : Nat) {digits : List Char} (h : AllDigits digits) :
    digitsValue (List.replicate count '0' ++ digits) = digitsValue digits := by
  rw [digitsValue_eq ((allDigits_replicate count).append h), digitsValue_eq h,
    Nat.ofDigitChars_append, Nat.ofDigitChars_replicate_zero, Nat.mul_zero]

theorem digitsValue_append_zeros (count : Nat) {digits : List Char} (h : AllDigits digits) :
    digitsValue (digits ++ List.replicate count '0') = 10 ^ count * digitsValue digits := by
  rw [digitsValue_eq (h.append (allDigits_replicate count)), digitsValue_eq h,
    Nat.ofDigitChars_append, Nat.ofDigitChars_replicate_zero]

/-- Only zero is written with a zero in front. -/
theorem eq_zero_of_head {n : Nat} (h : n.repr.toList.head? = some '0') : n = 0 := by
  rw [Nat.toList_repr] at h
  induction n using Nat.strongRecOn with
  | ind n ih =>
      rcases Nat.lt_or_ge n 10 with hsmall | hlarge
      · rw [Nat.toDigits_of_lt_base hsmall] at h
        have hdigits : ∀ digit < 10, digit.digitChar = '0' → digit = 0 := by decide
        exact hdigits n hsmall (Option.some.inj h)
      · rw [Nat.toDigits_of_base_le (by decide) hlarge,
          List.head?_append_of_ne_nil _ Nat.toDigits_ne_nil] at h
        have hfirst := ih (n / 10) (by omega) h
        omega

/-! ## Parts of a number -/

/-- What may follow a value in compact text: nothing, a comma or a closing bracket. -/
def Closes (rest : List Char) : Prop :=
  ∀ c ∈ rest.head?, c = ',' ∨ c = ']' ∨ c = '}'

theorem closes_cons {c : Char} (h : c = ',' ∨ c = ']' ∨ c = '}') (rest : List Char) :
    Closes (c :: rest) := by
  rintro other ⟨⟩
  exact h

theorem Closes.noDigitAhead {rest : List Char} (h : Closes rest) : NoDigitAhead rest := by
  intro c hc
  rcases h c hc with rfl | rfl | rfl <;> rfl

theorem Closes.fraction {rest : List Char} (h : Closes rest) : fraction rest = ([], rest) := by
  cases rest with
  | nil => rfl
  | cons c rest => rcases h c rfl with rfl | rfl | rfl <;> rfl

theorem Closes.powerOfTen {rest : List Char} (h : Closes rest) :
    powerOfTen rest = (none, rest) := by
  cases rest with
  | nil => rfl
  | cons c rest => rcases h c rfl with rfl | rfl | rfl <;> rfl

theorem fraction_digits {places rest : List Char} (hplaces : AllDigits places)
    (hsome : places ≠ []) (hrest : NoDigitAhead rest) :
    fraction ('.' :: (places ++ rest)) = (places, rest) := by
  simp only [fraction, takeWhile_digits hplaces hrest, dropWhile_digits hplaces hrest,
    List.isEmpty_iff, hsome, if_false]

theorem powerOfTen_digits {digits rest : List Char} (negative : Bool) (hdigits : AllDigits digits)
    (hsome : digits ≠ []) (hrest : NoDigitAhead rest) :
    powerOfTen ('e' :: (if negative then '-' else '+') :: (digits ++ rest)) =
      (some (if negative then -(digitsValue digits : Int) else digitsValue digits), rest) := by
  have hsign : Numeral.takeSign ((if negative then '-' else '+') :: (digits ++ rest)) =
      (negative, digits ++ rest) := by
    cases negative <;> rfl
  unfold powerOfTen
  dsimp only
  rw [if_pos (.inl rfl), hsign]
  dsimp only
  rw [takeWhile_digits hdigits hrest, dropWhile_digits hdigits hrest, if_neg]
  · rfl
  · rwa [List.isEmpty_iff]

/-- The digits in front of a point: there are some, and no zero stands before others. -/
structure WholeDigits (whole : List Char) : Prop where
  digits : AllDigits whole
  nonempty : whole ≠ []
  zero : whole.head? = some '0' → whole.length = 1

theorem WholeDigits.repr (n : Nat) : WholeDigits n.repr.toList where
  digits := allDigits_repr n
  nonempty := repr_toList_ne_nil n
  zero := by
    intro hhead
    rw [eq_zero_of_head hhead]
    rfl

theorem WholeDigits.exists_cons {whole : List Char} (h : WholeDigits whole) :
    ∃ c rest, whole = c :: rest ∧ isAsciiDigit c = true := by
  obtain ⟨c, rest, rfl⟩ := List.exists_cons_of_ne_nil h.nonempty
  exact ⟨c, rest, rfl, h.digits c List.mem_cons_self⟩

/-- A minus in front of a number. -/
def signChars (negative : Bool) : List Char :=
  if negative then ['-'] else []

/-- A number is read from its parts. -/
theorem number_of_parts (negative : Bool) {whole after places afterPlaces left : List Char}
    {power : Option Int} (hwhole : WholeDigits whole) (hafter : NoDigitAhead after)
    (hplaces : fraction after = (places, afterPlaces))
    (hpower : powerOfTen afterPlaces = (power, left)) :
    number (signChars negative ++ (whole ++ after)) =
      if places.isEmpty && power.isNone then
        if Numeral.maxIntegerDigits < whole.length then
          refuse (.longInteger whole.length) (signChars negative ++ (whole ++ after))
        else
          .ok (.int (if negative then -(digitsValue (whole ++ places) : Int)
            else digitsValue (whole ++ places)), left)
      else
        .ok (.real (.ofDecimal negative (digitsValue (whole ++ places))
          (power.getD 0 - places.length)), left) := by
  have hrun := takeWhile_digits hwhole.digits hafter
  have hkeep : (if whole.head? = some '0' then whole.take 1 else whole) = whole := by
    split
    next hzero => exact List.take_of_length_le (hwhole.zero hzero).le
    next => rfl
  unfold digitsValue
  cases negative with
  | true =>
      simp only [number, signChars, if_true, List.cons_append, List.nil_append, hrun, hkeep,
        List.isEmpty_iff, hwhole.nonempty, if_false, List.drop_left, hplaces, hpower]
  | false =>
      have hsign : ∀ rest, whole ++ after = '-' :: rest → False := by
        intro rest heq
        obtain ⟨c, others, rfl, hc⟩ := hwhole.exists_cons
        obtain ⟨rfl, -⟩ := List.cons.inj heq
        exact Bool.false_ne_true hc
      simp only [number, signChars, Bool.false_eq_true, if_false, List.nil_append]
      simp only [hrun, hkeep, List.isEmpty_iff, hwhole.nonempty, if_false, List.drop_left,
        hplaces, hpower]

/-- Digits, a point and more digits are a double. -/
theorem number_places (negative : Bool) {whole places rest : List Char}
    (hwhole : WholeDigits whole) (hplaces : AllDigits places) (hsome : places ≠ [])
    (hrest : Closes rest) :
    number (signChars negative ++ (whole ++ '.' :: (places ++ rest))) =
      .ok (.real (.ofDecimal negative (digitsValue (whole ++ places)) (-places.length)), rest) := by
  have hafter : NoDigitAhead ('.' :: (places ++ rest)) := by
    rintro c ⟨⟩
    rfl
  have hfraction := fraction_digits hplaces hsome hrest.noDigitAhead
  rw [number_of_parts negative hwhole hafter hfraction hrest.powerOfTen, if_neg]
  · rw [Option.getD_none, Int.zero_sub]
  · simp [hsome]

/-- The point and the digits after it, if there are any. -/
def pointChars (places : List Char) : List Char :=
  if places = [] then [] else '.' :: places

/-- Digits with an exponent are a double. -/
theorem number_exponent (negative below : Bool) {whole places power rest : List Char}
    (hwhole : WholeDigits whole) (hplaces : AllDigits places) (hpower : AllDigits power)
    (hsome : power ≠ []) (hrest : Closes rest) :
    number (signChars negative ++ (whole ++ (pointChars places ++
        'e' :: (if below then '-' else '+') :: (power ++ rest)))) =
      .ok (.real (.ofDecimal negative (digitsValue (whole ++ places))
        ((if below then -(digitsValue power : Int) else digitsValue power) - places.length)),
        rest) := by
  have htail := powerOfTen_digits below hpower hsome hrest.noDigitAhead
  generalize htext : 'e' :: (if below then '-' else '+') :: (power ++ rest) = tail at *
  have hahead : NoDigitAhead tail := by
    rw [← htext]
    rintro c ⟨⟩
    rfl
  have hafter : NoDigitAhead (pointChars places ++ tail) := by
    unfold pointChars
    split
    · exact hahead
    · rintro c ⟨⟩
      rfl
  have hfraction : fraction (pointChars places ++ tail) = (places, tail) := by
    unfold pointChars
    split
    next hnone =>
      rw [hnone, ← htext]
      rfl
    next hplaced => exact fraction_digits hplaces hplaced hahead
  rw [number_of_parts negative hwhole hafter hfraction htail, if_neg]
  · rw [Option.getD_some]
  · simp

/-! ## Integers -/

/-- Whether an integer is short enough to be read. -/
def ReadableInt (i : Int) : Prop :=
  i.natAbs.repr.length ≤ Numeral.maxIntegerDigits

theorem toList_toString_int (i : Int) :
    (toString i).toList = signChars (decide (i < 0)) ++ i.natAbs.repr.toList := by
  rw [Int.toString_eq_repr, Int.repr_eq_if]
  rcases lt_or_ge i 0 with hneg | hpos
  · have habs : (-i).toNat = i.natAbs := by omega
    rw [if_neg (Int.not_le.mpr hneg), decide_eq_true hneg, habs, String.toList_append]
    rfl
  · have habs : i.toNat = i.natAbs := by omega
    rw [if_pos hpos, decide_eq_false (Int.not_lt.mpr hpos), habs]
    rfl

theorem signed_natAbs (i : Int) :
    (if decide (i < 0) = true then -(i.natAbs : Int) else i.natAbs) = i := by
  rcases lt_or_ge i 0 with hneg | hpos
  · rw [if_pos (decide_eq_true hneg)]
    omega
  · rw [decide_eq_false (Int.not_lt.mpr hpos), if_neg Bool.false_ne_true]
    omega

/-- An integer is read back from its text. -/
theorem number_int {i : Int} (hshort : ReadableInt i) {rest : List Char} (hrest : Closes rest) :
    number ((toString i).toList ++ rest) = .ok (.int i, rest) := by
  have hlength : ¬Numeral.maxIntegerDigits < i.natAbs.repr.toList.length := by
    rw [String.length_toList]
    exact Nat.not_lt.mpr hshort
  rw [toList_toString_int, List.append_assoc,
    number_of_parts _ (WholeDigits.repr _) hrest.noDigitAhead hrest.fraction hrest.powerOfTen]
  simp only [List.isEmpty_nil, Option.isNone_none, Bool.and_self, if_true, hlength, if_false,
    List.append_nil, digitsValue_repr, signed_natAbs]

/-! ## Doubles -/

/-- Whether digits around a point are those of a decimal, up to a power of ten. -/
structure Denotes (whole places : List Char) (power : Int) (d : Decimal.Scaled) : Prop where
  wholeDigits : WholeDigits whole
  placeDigits : AllDigits places
  value : Decimal.Scaled.value ⟨digitsValue (whole ++ places), power - places.length⟩ = d.value

theorem denotes_zeros {d : Decimal.Scaled} (hd : d.significand = 0 → d.exponent = 0)
    (hexponent : 0 ≤ d.exponent) :
    Denotes (d.significand.repr.toList ++ List.replicate d.exponent.toNat '0') ['0'] 0 d where
  wholeDigits := by
    refine ⟨(allDigits_repr _).append (allDigits_replicate _), ?_, fun hhead => ?_⟩
    · exact List.append_ne_nil_of_left_ne_nil (repr_toList_ne_nil _) _
    · rw [List.head?_append_of_ne_nil _ (repr_toList_ne_nil _)] at hhead
      have hzero := eq_zero_of_head hhead
      rw [hzero, hd hzero]
      rfl
  placeDigits := allDigits_replicate 1
  value := by
    have hdigits := digitsValue_append_zeros 1
      ((allDigits_repr d.significand).append (allDigits_replicate d.exponent.toNat))
    rw [digitsValue_append_zeros _ (allDigits_repr _), digitsValue_repr] at hdigits
    have hpower : (10 : ℚ) ^ d.exponent.toNat = 10 ^ d.exponent := by
      rw [← zpow_natCast, Int.toNat_of_nonneg hexponent]
    rw [Decimal.Scaled.value, Decimal.Scaled.value, show ['0'] = List.replicate 1 '0' from rfl,
      hdigits]
    push_cast
    rw [hpower]
    norm_num
    ring

/-- A number with zeros in front, cut before its last digits. -/
theorem padLeft_cut {count places : Nat} {padded : List Char}
    (hpadded : padded = (Decimal.padLeft (places + 1) count.repr).toList) :
    AllDigits (padded.take (padded.length - places)) ∧
      padded.take (padded.length - places) ≠ [] ∧
      AllDigits (padded.drop (padded.length - places)) ∧
      (padded.drop (padded.length - places)).length = places ∧ digitsValue padded = count := by
  rw [Decimal.padLeft, String.toList_append, String.toList_ofList] at hpadded
  have hdigits : AllDigits padded := by
    rw [hpadded]
    exact (allDigits_replicate _).append (allDigits_repr _)
  have hvalue : digitsValue padded = count := by
    rw [hpadded, digitsValue_zeros_append _ (allDigits_repr _), digitsValue_repr]
  have hlength : places + 1 ≤ padded.length := by
    rw [hpadded, List.length_append, List.length_replicate, String.length_toList]
    omega
  rw [← List.take_append_drop (padded.length - places) padded] at hdigits
  obtain ⟨hwhole, hfraction⟩ := hdigits.of_append
  refine ⟨hwhole, ?_, hfraction, ?_, hvalue⟩
  · rw [Ne, List.take_eq_nil_iff, ← List.length_eq_zero_iff]
    omega
  · rw [List.length_drop]
    omega

theorem denotes_padded {d : Decimal.Scaled} (hpositive : 0 < d.significand) {padded : List Char}
    {places : Nat} (hplaces : d.exponent = -places)
    (hpadded : padded = (Decimal.padLeft (places + 1) d.significand.repr).toList) :
    Denotes (padded.take (padded.length - places)) (padded.drop (padded.length - places)) 0 d := by
  obtain ⟨hwhole, hne, hfraction, hcount, hvalue⟩ := padLeft_cut hpadded
  rw [Decimal.padLeft, String.toList_append, String.toList_ofList] at hpadded
  refine ⟨⟨hwhole, hne, fun hhead => ?_⟩, hfraction, ?_⟩
  · rw [List.length_take]
    rcases Nat.lt_or_ge places d.significand.repr.length with hlong | hshort
    · have hlength : 0 < padded.length - places :=
        Nat.pos_of_ne_zero fun hzero => hne (by rw [hzero, List.take_zero])
      rw [List.head?_take, if_neg (by omega), hpadded, Nat.sub_eq_zero_of_le hlong,
        List.replicate_zero, List.nil_append] at hhead
      exact absurd (eq_zero_of_head hhead) (Nat.ne_of_gt hpositive)
    · have hexact : padded.length = places + 1 := by
        rw [hpadded, List.length_append, List.length_replicate, String.length_toList]
        omega
      omega
  · rw [List.take_append_drop, hvalue, hcount, Decimal.Scaled.value, Decimal.Scaled.value, hplaces,
      Int.zero_sub]

theorem toList_positional {d : Decimal.Scaled} (hd : d.significand = 0 → d.exponent = 0) :
    ∃ whole places, (Decimal.positional true d).toList = whole ++ '.' :: places ∧
      places ≠ [] ∧ Denotes whole places 0 d := by
  unfold Decimal.positional
  dsimp only
  split
  next hexponent =>
    refine ⟨_, _, ?_, List.cons_ne_nil _ _, denotes_zeros hd hexponent⟩
    rw [if_pos rfl, String.toList_append, String.toList_append, String.toList_ofList]
    rfl
  next hexponent =>
    have hpositive : 0 < d.significand := by
      refine Nat.pos_of_ne_zero fun hzero => ?_
      rw [hd hzero] at hexponent
      exact hexponent (Int.le_refl 0)
    generalize hpadded : (Decimal.padLeft _ _).toList = padded
    refine ⟨_, _, ?_, ?_, denotes_padded hpositive (by omega) hpadded.symm⟩
    · simp only [String.toList_append, String.toList_ofList, List.append_assoc]
      rfl
    · rw [Ne, List.drop_eq_nil_iff]
      have : 0 < padded.length := by
        rw [← hpadded, Decimal.padLeft, String.toList_append, List.length_append,
          String.toList_ofList, List.length_replicate, String.length_toList]
        omega
      omega

theorem toList_pointText (places : List Char) :
    (if (String.ofList places).isEmpty then "" else "." ++ String.ofList places).toList =
      pointChars places := by
  cases places with
  | nil => rfl
  | cons c rest =>
      rw [if_neg (by simp)]
      simp only [String.toList_append, String.toList_ofList]
      rfl

theorem toList_padLeft_one (n : Nat) : (Decimal.padLeft 1 n.repr).toList = n.repr.toList := by
  have hlength : 1 ≤ n.repr.length := Decimal.decimalLength_pos n
  rw [Decimal.padLeft, Nat.sub_eq_zero_of_le hlength, String.toList_append, String.toList_ofList]
  rfl

theorem toList_scientific (d : Decimal.Scaled) :
    ∃ whole places, ∃ below : Bool, ∃ power,
      (Decimal.scientific 1 d).toList =
        whole ++ (pointChars places ++ 'e' :: (if below then '-' else '+') :: power) ∧
      AllDigits power ∧ power ≠ [] ∧
      Denotes whole places (if below then -(digitsValue power : Int) else digitsValue power) d := by
  have hparts := List.take_append_drop 1 d.significand.repr.toList
  have hsides : AllDigits (d.significand.repr.toList.take 1) ∧
      AllDigits (d.significand.repr.toList.drop 1) := by
    have hdigits := allDigits_repr d.significand
    rw [← hparts] at hdigits
    exact hdigits.of_append
  have hlength : (d.significand.repr.toList.drop 1).length = decimalLength d.significand - 1 := by
    rw [List.length_drop, String.length_toList, decimalLength]
  have hpos := Decimal.decimalLength_pos d.significand
  refine ⟨d.significand.repr.toList.take 1, d.significand.repr.toList.drop 1, d.leading < 0,
    d.leading.natAbs.repr.toList, ?_, allDigits_repr _, repr_toList_ne_nil _,
    ⟨hsides.1, ?_, fun _ => ?_⟩, hsides.2, ?_⟩
  · unfold Decimal.scientific
    simp only [String.toList_append, String.toList_ofList, toList_pointText, toList_padLeft_one,
      List.append_assoc, decide_eq_true_eq]
    split <;> rfl
  · rw [Ne, List.take_eq_nil_iff]
    exact fun h => h.elim Nat.one_ne_zero (repr_toList_ne_nil _)
  · rw [List.length_take, String.length_toList]
    exact Nat.min_eq_left hpos
  · rw [hparts, digitsValue_repr, digitsValue_repr, signed_natAbs, hlength, Decimal.Scaled.value,
      Decimal.Scaled.value, Decimal.Scaled.leading]
    congr 2
    dsimp only
    omega

/-- A positive decimal in the layout of JSON is read as a decimal with the same value. -/
theorem number_render (negative : Bool) {d : Decimal.Scaled} (hpositive : 0 < d.significand)
    {rest : List Char} (hrest : Closes rest) :
    ∃ read : Decimal.Scaled, read.value = d.value ∧
      number (signChars negative ++ ((numberLayout.render d).toList ++ rest)) =
        .ok (.real (.ofDecimal negative read.significand read.exponent), rest) := by
  unfold Decimal.Layout.render
  split
  · obtain ⟨whole, places, htext, hsome, hdenotes⟩ :=
      toList_positional (d := d) fun hzero => absurd hzero (Nat.ne_of_gt hpositive)
    refine ⟨_, hdenotes.value, ?_⟩
    rw [show numberLayout.keepsPoint = true from rfl, htext, List.append_assoc, List.cons_append,
      number_places negative hdenotes.wholeDigits hdenotes.placeDigits hsome hrest, Int.zero_sub]
  · obtain ⟨whole, places, below, power, htext, hpower, hsome, hdenotes⟩ := toList_scientific d
    refine ⟨_, hdenotes.value, ?_⟩
    rw [show numberLayout.exponentDigits = 1 from rfl, htext, List.append_assoc, List.append_assoc]
    exact number_exponent negative below hdenotes.wholeDigits hdenotes.placeDigits hpower hsome
      hrest

theorem toList_signText (negative : Bool) :
    (Decimal.signText negative).toList = signChars negative := by
  cases negative <;> rfl

/-- A finite double is written with a digit in front, or with a minus and a digit. -/
theorem toList_finite (negative : Bool) {units : Nat} (hgrid : Binary64.OnGrid units) :
    ∃ c rest, (numberLayout.finite negative units).toList = signChars negative ++ c :: rest ∧
      isAsciiDigit c = true := by
  unfold Decimal.Layout.finite Decimal.Layout.render
  rw [String.toList_append, toList_signText]
  rcases Nat.eq_zero_or_pos units with rfl | hunits
  · exact ⟨'0', ['.', '0'], rfl, rfl⟩
  · have hpositive := Decimal.shortest_significand_pos hgrid hunits
    rw [if_neg (Nat.ne_of_gt hunits)]
    split
    · obtain ⟨whole, places, htext, -, hdenotes⟩ :=
        toList_positional (d := Decimal.shortest units) fun hzero => absurd hzero hpositive.ne'
      obtain ⟨c, rest, rfl, hc⟩ := hdenotes.wholeDigits.exists_cons
      exact ⟨c, _, congrArg (signChars negative ++ ·) htext, hc⟩
    · obtain ⟨whole, places, below, power, htext, -, -, hdenotes⟩ :=
        toList_scientific (Decimal.shortest units)
      obtain ⟨c, rest, rfl, hc⟩ := hdenotes.wholeDigits.exists_cons
      exact ⟨c, _, congrArg (signChars negative ++ ·) htext, hc⟩

/-- A finite double is read back from its text. -/
theorem number_finite (negative : Bool) {units : Nat} (hgrid : Binary64.OnGrid units)
    {rest : List Char} (hrest : Closes rest) :
    number ((numberLayout.finite negative units).toList ++ rest) =
      .ok (.real (.finite negative units), rest) := by
  unfold Decimal.Layout.finite
  rw [String.toList_append, toList_signText, List.append_assoc]
  rcases Nat.eq_zero_or_pos units with rfl | hunits
  · have hzero : WholeDigits ['0'] := WholeDigits.repr 0
    exact number_places negative hzero (allDigits_replicate 1) (List.cons_ne_nil _ _) hrest
  · obtain ⟨read, hvalue, hread⟩ :=
      number_render negative (Decimal.shortest_significand_pos hgrid hunits) hrest
    rw [if_neg (Nat.ne_of_gt hunits), hread,
      Decimal.ofDecimal_of_value negative hgrid hunits hvalue]

end Montage.Json
