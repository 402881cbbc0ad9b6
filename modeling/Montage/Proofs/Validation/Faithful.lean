/-
  Montage.Proofs.Validation.Faithful

  Values that are read, written and read again.  A reader is faithful if whatever it
  makes of a regular value is written as a regular value, and is read back from there as
  the same.  Readers of options, lists, maps and fields are faithful if those of their
  parts are: of whatever could be read, each part could be read by the reader of that part.
-/
import Montage.Proofs.Json.Levels
import Montage.Proofs.Json.Regular
import Montage.Validation.Checked
import Montage.Validation.Scalars

namespace Montage.Validation

variable {α β : Type}

/-! ## Parts side by side -/

theorem Checked.fmap_eq_valid {f : α → β} {a : Checked α} {b : β} :
    (f <$> a) = .valid b ↔ ∃ x, a = .valid x ∧ f x = b :=
  Checked.map_eq_valid

theorem Checked.ap_eq_valid {f : Checked (α → β)} {a : Checked α} {b : β} :
    (f <*> a) = .valid b ↔ ∃ g x, f = .valid g ∧ a = .valid x ∧ g x = b :=
  Checked.seq_eq_valid

theorem Checked.andThen_eq_valid {a : Checked α} {test : α → Checked β} {b : β} :
    a.andThen test = .valid b ↔ ∃ x, a = .valid x ∧ test x = .valid b := by
  cases a <;> simp [Checked.andThen]

/-- Whether there is a value, and it passes a test. -/
def Checked.all (test : α → Bool) : Checked α → Bool
  | .valid a => test a
  | .invalid _ => false

theorem Checked.all_eq_true {test : α → Bool} {result : Checked α} :
    result.all test = true ↔ ∃ a, result = .valid a ∧ test a = true := by
  cases result <;> simp [all]

theorem Checked.eq_valid_of_all [DecidableEq α] {a : α} {result : Checked α}
    (h : result.all (· = a) = true) : result = .valid a := by
  obtain ⟨b, hb, hsame⟩ := Checked.all_eq_true.mp h
  rw [hb, of_decide_eq_true hsame]

/-! ## Fields that were read -/

theorem exists_of_required {key : Key} {read : Json → Checked α}
    {fields : List (String × Json)} {a : α} (h : required key read fields = .valid a) :
    ∃ value, read value = .valid a := by
  unfold required at h
  split at h
  · exact ⟨_, Checked.under_eq_valid.mp h⟩
  · cases h

theorem eq_default_or_exists {key : Key} {default : α} {read : Json → Checked α}
    {fields : List (String × Json)} {a : α}
    (h : Validation.optional key default read fields = .valid a) :
    a = default ∨ ∃ value, read value = .valid a := by
  unfold Validation.optional at h
  split at h
  · exact .inr ⟨_, Checked.under_eq_valid.mp h⟩
  · cases h
    exact .inl rfl

/-! ## Lists that were read -/

theorem exists_of_mem_checkItems {read : Json → Checked α} {position : Nat}
    {items : List Json} {list : List α} (h : checkItems read position items = .valid list)
    {a : α} (ha : a ∈ list) : ∃ value, read value = .valid a := by
  induction items generalizing position list with
  | nil =>
      cases h
      cases ha
  | cons item rest ih =>
      obtain ⟨_, others, hfirst, hrest, rfl⟩ := Checked.seq_eq_valid.mp h
      obtain ⟨first, hread, rfl⟩ := Checked.map_eq_valid.mp hfirst
      rcases List.mem_cons.mp ha with rfl | hother
      · exact ⟨item, Checked.under_eq_valid.mp hread⟩
      · exact ih hrest hother

theorem exists_of_mem_checkList {read : Json → Checked α} {value : Json} {list : List α}
    (h : checkList read value = .valid list) {a : α} (ha : a ∈ list) :
    ∃ item, read item = .valid a := by
  unfold checkList at h
  split at h
  · exact exists_of_mem_checkItems h ha
  · cases h

open Montage.Number

/-! ## Faithful readers -/

/-- Whether a value is written as a regular one, and read again as the same, if all of its
    numbers are finite. -/
structure Kept (reread : Json → Checked α) (write : α → Json) (same : α → α → Prop) (a : α) :
    Prop where
  regular : (write a).Regular
  again : (write a).hasFiniteNumbers = true → ∃ b, reread (write a) = .valid b ∧ same a b

/-- Whether all that is made of regular values is kept. -/
def Faithful (read reread : Json → Checked α) (write : α → Json) (same : α → α → Prop) : Prop :=
  ∀ value a, value.Regular → read value = .valid a → Kept reread write same a

theorem Kept.exact {reread : Json → Checked α} {write : α → Json} {a : α}
    (hregular : (write a).Regular) (hagain : reread (write a) = .valid a) :
    Kept reread write Eq a :=
  ⟨hregular, fun _ => ⟨a, hagain, rfl⟩⟩

theorem Kept.eq {reread : Json → Checked α} {write : α → Json} {a : α}
    (h : Kept reread write Eq a) (hfinite : (write a).hasFiniteNumbers = true) :
    reread (write a) = .valid a := by
  obtain ⟨_, hread, rfl⟩ := h.again hfinite
  exact hread

/-- A reader is faithful if every value is read back from its writing. -/
theorem Faithful.of_total {read reread : Json → Checked α} {write : α → Json}
    (hregular : ∀ a, (write a).Regular) (hagain : ∀ a, reread (write a) = .valid a) :
    Faithful read reread write Eq :=
  fun _ a _ _ => .exact (hregular a) (hagain a)

theorem faithful_text : Faithful checkText checkText .str Eq :=
  .of_total (fun _ => trivial) fun _ => rfl

/-! ## Integers -/

theorem readableInt_of_lt {i : Int} (h : i.natAbs < wordLimit) : Json.ReadableInt i := by
  have hdigits : i.natAbs < 10 ^ 19 := h.trans (by decide +kernel)
  rw [Json.ReadableInt, ← String.length_toList, Nat.toList_repr]
  exact ((Nat.length_toDigits_le_iff (by decide) (by decide)).mpr hdigits).trans (by decide)

theorem isSome_asciiDigit? (c : Char) :
    (Numeral.asciiDigit? c).isSome = Json.isAsciiDigit c := by
  unfold Numeral.asciiDigit? Json.isAsciiDigit
  split <;> simp_all

/-- All that reading an integer in the plain spelling can do. -/
theorem plainInteger_form (text : List Char) :
    ∃ negative partly : Bool, ∃ digits, Json.AllDigits digits ∧ plainInteger text =
      if maxIntegerText < digits.length then .tooLong
      else if partly then .malformed
      else
        .value (if negative then -(Json.digitsValue digits : Int) else Json.digitsValue digits) := by
  let sign := Json.takeMinus text
  let run := sign.2.takeWhile fun c => (Numeral.asciiDigit? c).isSome
  let digits := if run.head? = some '0' then run.take 1 else run
  have hrun : Json.AllDigits run := by
    intro c hc
    have hdigit := List.mem_takeWhile_imp hc
    rwa [isSome_asciiDigit?] at hdigit
  have hdigits : Json.AllDigits digits := by
    unfold digits
    split
    next => exact fun c hc => hrun c (List.mem_of_mem_take hc)
    next => exact hrun
  exact ⟨sign.1, digits.isEmpty || digits.length < sign.2.length, digits, hdigits, rfl⟩

theorem readableInt_of_plainInteger {text : List Char} {i : Int}
    (h : plainInteger text = .value i) : Json.ReadableInt i := by
  obtain ⟨negative, partly, digits, hdigits, hform⟩ := plainInteger_form text
  rw [hform] at h
  split at h
  · cases h
  next hshort =>
    split at h
    · cases h
    · cases h
      refine Json.readableInt_of_digits hdigits (Nat.not_lt.mp hshort) ?_
      split <;> simp

theorem readableInt_of_integerText {text : List Char} {i : Int}
    (h : integerText text = .value i) : Json.ReadableInt i := by
  unfold integerText at h
  split at h
  next hplain =>
    cases h
    exact readableInt_of_plainInteger hplain
  next => cases h
  next =>
    split at h
    next hcleaned =>
      cases h
      obtain ⟨cleaned, -, hplain⟩ := Option.map_eq_some_iff.mp hcleaned
      exact readableInt_of_plainInteger hplain
    next => cases h

theorem readableInt_of_integerOfReal {x : Binary64} {i : Int}
    (h : integerOfReal x = .valid i) : Json.ReadableInt i := by
  unfold integerOfReal at h
  dsimp only at h
  split at h
  · cases h
  · split at h
    · cases h
    · split at h
      next hlimit =>
        cases h
        exact readableInt_of_lt hlimit
      next => cases h

theorem exists_of_checkWhole {text : String} {read : String → Checked α} {a : α}
    (h : checkWhole text read = .valid a) : read text = .valid a := by
  unfold checkWhole at h
  split at h
  · exact h
  · cases h

/-- An integer that was read has no more digits than can be read. -/
theorem readableInt_of_checkInteger {value : Json} {i : Int} (hvalue : value.Regular)
    (h : checkInteger value = .valid i) : Json.ReadableInt i := by
  unfold checkInteger at h
  split at h
  next =>
    cases h
    exact hvalue
  next => exact readableInt_of_integerOfReal h
  next flag =>
    cases h
    cases flag <;> exact readableInt_of_lt (by decide +kernel)
  next =>
    have hread := exists_of_checkWhole h
    unfold integerOfText at hread
    split at hread
    next hvalue =>
      cases hread
      exact readableInt_of_integerText hvalue
    next => cases hread
    next => cases hread
  next => cases h

theorem kept_positive {i : Int} (hshort : Json.ReadableInt i) (hpositive : 0 < i) :
    Kept checkPositive .int Eq i :=
  .exact hshort (if_pos hpositive)

theorem faithful_positive : Faithful checkPositive checkPositive .int Eq := by
  intro value i hvalue h
  obtain ⟨j, hread, htest⟩ := Checked.andThen_eq_valid.mp h
  split at htest
  next hpositive =>
    cases htest
    exact kept_positive (readableInt_of_checkInteger hvalue hread) hpositive
  next => cases htest

/-! ## Doubles -/

theorem eq_ofInt_of_ofInt? {i : Int} {x : Binary64} (h : Binary64.ofInt? i = .ok x) :
    x = .ofInt i := by
  -- opened as a function, so that the conversion of an integer is not computed
  generalize hopened : Binary64.ofInt? = opened at h
  delta Binary64.ofInt? at hopened
  rw [← hopened] at h
  dsimp only at h
  cases hy : Binary64.ofInt i with
  | finite negative units =>
      rw [hy] at h
      exact (Except.ok.inj h).symm
  | infinite negative =>
      rw [hy] at h
      exact nomatch h
  | nan =>
      rw [hy] at h
      exact (Except.ok.inj h).symm

theorem isDouble_of_realOfInteger {i : Int} {x : Binary64} (h : realOfInteger i = .valid x) :
    x.IsDouble := by
  generalize hopened : realOfInteger = opened at h
  delta realOfInteger at hopened
  rw [← hopened] at h
  dsimp only at h
  cases hread : Binary64.ofInt? i with
  | error fault =>
      rw [hread] at h
      exact nomatch h
  | ok y =>
      rw [hread] at h
      rw [← Checked.valid.inj h, eq_ofInt_of_ofInt? hread]
      exact Binary64.isDouble_ofInt i

theorem isDouble_of_word? {negative : Bool} {text : List Char} {x : Binary64}
    (h : Numeral.word? negative text = some x) : x.IsDouble := by
  unfold Numeral.word? at h
  dsimp only at h
  split_ifs at h
  · cases h
    exact Binary64.isDouble_infinite negative
  · cases h
    exact Binary64.isDouble_nan

theorem isDouble_of_double? {digit? : Char → Option Nat} {text : List Char} {x : Binary64}
    (h : Numeral.double? digit? text = some x) : x.IsDouble := by
  unfold Numeral.double? at h
  dsimp only at h
  split at h
  all_goals
    split at h
    · exact isDouble_of_word? h
    · obtain ⟨power, -, rfl⟩ := Option.map_eq_some_iff.mp h
      exact Binary64.isDouble_ofDecimal _ _ _

theorem isDouble_of_plainReal? {text : List Char} {x : Binary64}
    (h : plainReal? text = some x) : x.IsDouble := by
  unfold plainReal? at h
  split at h
  · cases h
  · exact isDouble_of_double? h

/-- A double that was read is one. -/
theorem isDouble_of_checkReal {value : Json} {x : Binary64} (hvalue : value.Regular)
    (h : checkReal value = .valid x) : x.IsDouble := by
  unfold checkReal at h
  split at h
  next => exact isDouble_of_realOfInteger h
  next =>
    cases h
    exact hvalue
  next =>
    rw [← Checked.valid.inj h]
    exact Binary64.isDouble_ofNat _
  next =>
    have hread := exists_of_checkWhole h
    unfold realOfText at hread
    split at hread
    next y hsome =>
      cases hread
      rcases Option.or_eq_some_iff.mp hsome with hplain | ⟨-, hgrouped⟩
      · exact isDouble_of_plainReal? hplain
      · obtain ⟨ungrouped, -, hplain⟩ := Option.bind_eq_some_iff.mp hgrouped
        exact isDouble_of_plainReal? hplain
    next => cases hread
  next => cases h

theorem faithful_real : Faithful checkReal checkReal (.num <| .real ·) Eq :=
  fun _ _ hvalue h => .exact (isDouble_of_checkReal hvalue h) rfl

theorem kept_nonnegativeReal {x : Binary64} (hdouble : x.IsDouble)
    (hle : Binary64.le .zero x = true) : Kept checkNonnegativeReal (.num <| .real ·) Eq x :=
  .exact hdouble (if_pos hle)

theorem faithful_nonnegativeReal :
    Faithful checkNonnegativeReal checkNonnegativeReal (.num <| .real ·) Eq := by
  intro value x hvalue h
  obtain ⟨y, hread, htest⟩ := Checked.andThen_eq_valid.mp h
  split at htest
  next hle =>
    cases htest
    exact kept_nonnegativeReal (isDouble_of_checkReal hvalue hread) hle
  next => cases htest

theorem faithful_positiveReal : Faithful checkPositiveReal checkPositiveReal (.num <| .real ·) Eq := by
  intro value x hvalue h
  obtain ⟨y, hread, htest⟩ := Checked.andThen_eq_valid.mp h
  split at htest
  next hlt =>
    cases htest
    exact .exact (isDouble_of_checkReal hvalue hread) (if_pos hlt)
  next => cases htest

/-! ## Options -/

theorem kept_none {reread : Json → Checked α} {write : α → Json} :
    Kept (checkOption reread) (Json.ofOption write) Eq none :=
  .exact trivial rfl

/-- An option is kept if its value is, which is not written as null. -/
theorem Faithful.option {read reread : Json → Checked α} {write : α → Json}
    (h : Faithful read reread write Eq) (hnull : ∀ a, write a ≠ .null) :
    Faithful (checkOption read) (checkOption reread) (Json.ofOption write) Eq := by
  intro value a hvalue hread
  unfold checkOption at hread
  split at hread
  next =>
    cases hread
    exact kept_none
  next =>
    obtain ⟨b, hb, rfl⟩ := Checked.map_eq_valid.mp hread
    have hkept := h _ b hvalue hb
    refine ⟨hkept.regular, fun hfinite => ⟨some b, ?_, rfl⟩⟩
    change checkOption reread (write b) = .valid (some b)
    unfold checkOption
    split
    next heq => exact absurd heq (hnull b)
    next => exact Checked.map_eq_valid.mpr ⟨b, hkept.eq hfinite, rfl⟩

/-! ## Lists and maps -/

section

variable {read reread : Json → Checked α} {write : α → Json} {same : α → α → Prop}

theorem checkItems_cons_eq_valid {position : Nat} {item : Json} {rest : List Json}
    {list : List α} : checkItems read position (item :: rest) = .valid list ↔
      ∃ a others, read item = .valid a ∧ checkItems read (position + 1) rest = .valid others ∧
        list = a :: others := by
  rw [checkItems, Checked.seq_eq_valid]
  constructor
  · rintro ⟨_, others, hfirst, hrest, rfl⟩
    obtain ⟨a, hread, rfl⟩ := Checked.map_eq_valid.mp hfirst
    exact ⟨a, others, Checked.under_eq_valid.mp hread, hrest, rfl⟩
  · rintro ⟨a, others, hread, hrest, rfl⟩
    exact ⟨_, others, Checked.map_eq_valid.mpr ⟨a, Checked.under_eq_valid.mpr hread, rfl⟩, hrest, rfl⟩

theorem checkEntries_cons_eq_valid {key : String} {value : Json} {rest : List (String × Json)}
    {entries : List (String × α)} : checkEntries read ((key, value) :: rest) = .valid entries ↔
      ∃ a others, read value = .valid a ∧ checkEntries read rest = .valid others ∧
        entries = (key, a) :: others := by
  rw [checkEntries, Checked.seq_eq_valid]
  constructor
  · rintro ⟨_, others, hfirst, hrest, rfl⟩
    obtain ⟨a, hread, rfl⟩ := Checked.map_eq_valid.mp hfirst
    exact ⟨a, others, Checked.under_eq_valid.mp hread, hrest, rfl⟩
  · rintro ⟨a, others, hread, hrest, rfl⟩
    exact ⟨_, others, Checked.map_eq_valid.mpr ⟨a, Checked.under_eq_valid.mpr hread, rfl⟩, hrest, rfl⟩

theorem Faithful.items (h : Faithful read reread write same) {position : Nat} {items : List Json}
    {list : List α} (hitems : Json.RegularItems items)
    (hread : checkItems read position items = .valid list) :
    Json.RegularItems (list.map write) ∧
      (Json.itemsHaveFiniteNumbers (list.map write) = true →
        ∃ back, checkItems reread position (list.map write) = .valid back ∧
          List.Forall₂ same list back) := by
  induction items generalizing position list with
  | nil =>
      cases hread
      exact ⟨trivial, fun _ => ⟨[], rfl, .nil⟩⟩
  | cons item rest ih =>
      obtain ⟨a, others, hfirst, hrest, rfl⟩ := checkItems_cons_eq_valid.mp hread
      have hkept := h item a hitems.1 hfirst
      obtain ⟨hregular, hagain⟩ := ih hitems.2 hrest
      refine ⟨⟨hkept.regular, hregular⟩, fun hfinite => ?_⟩
      rw [List.map_cons, Json.itemsHaveFiniteNumbers, Bool.and_eq_true] at hfinite
      obtain ⟨b, hb, hsame⟩ := hkept.again hfinite.1
      obtain ⟨back, hback, hall⟩ := hagain hfinite.2
      exact ⟨b :: back, checkItems_cons_eq_valid.mpr ⟨b, back, hb, hback, rfl⟩, .cons hsame hall⟩

theorem Faithful.list (h : Faithful read reread write same) :
    Faithful (checkList read) (checkList reread) (fun list => .arr (list.map write))
      (List.Forall₂ same) := by
  intro value list hvalue hread
  unfold checkList at hread
  split at hread
  next items =>
    obtain ⟨hregular, hagain⟩ := h.items hvalue hread
    exact ⟨hregular, hagain⟩
  next => cases hread

/-- The entries of a map as they are written. -/
def writeEntries (write : α → Json) (entries : List (String × α)) : List (String × Json) :=
  entries.map fun (key, a) => (key, write a)

theorem Faithful.entries (h : Faithful read reread write Eq) {fields : List (String × Json)}
    {entries : List (String × α)} (hfields : Json.RegularFields fields)
    (hread : checkEntries read fields = .valid entries) :
    entries.map Prod.fst = fields.map Prod.fst ∧ Json.RegularFields (writeEntries write entries) ∧
      (Json.fieldsHaveFiniteNumbers (writeEntries write entries) = true →
        checkEntries reread (writeEntries write entries) = .valid entries) := by
  induction fields generalizing entries with
  | nil =>
      cases hread
      exact ⟨rfl, trivial, fun _ => rfl⟩
  | cons field rest ih =>
      obtain ⟨key, value⟩ := field
      obtain ⟨a, others, hfirst, hrest, rfl⟩ := checkEntries_cons_eq_valid.mp hread
      have hkept := h value a hfields.1 hfirst
      obtain ⟨hkeys, hregular, hagain⟩ := ih hfields.2 hrest
      refine ⟨congrArg (key :: ·) hkeys, ⟨hkept.regular, hregular⟩, fun hfinite => ?_⟩
      rw [writeEntries, List.map_cons, Json.fieldsHaveFiniteNumbers, Bool.and_eq_true] at hfinite
      exact checkEntries_cons_eq_valid.mpr
        ⟨a, others, hkept.eq hfinite.1, hagain hfinite.2, rfl⟩

theorem Faithful.map (h : Faithful read reread write Eq) :
    Faithful (checkMap read) (checkMap reread) (fun entries => .obj (writeEntries write entries))
      Eq := by
  intro value entries hvalue hread
  unfold checkMap at hread
  split at hread
  next fields =>
    obtain ⟨hkeys, hregular, hagain⟩ := h.entries hvalue.2 hread
    have hwritten : (writeEntries write entries).map Prod.fst = entries.map Prod.fst := by
      simp [writeEntries]
    refine ⟨⟨?_, hregular⟩, fun hfinite => ⟨entries, hagain hfinite, rfl⟩⟩
    rw [hwritten, hkeys]
    exact hvalue.1
  next => cases hread

end

/-! ## Fields -/

section

variable {key : Key} {default : α} {read reread : Json → Checked α} {write : α → Json}
  {same : α → α → Prop} {fields : List (String × Json)} {a b : α}

theorem regular_of_find? (hfields : (Json.obj fields).Regular) {found : Found}
    (h : key.find? fields = some found) : found.value.Regular := by
  unfold Key.find? at h
  split at h
  next value hwire =>
    cases h
    exact hfields.of_lookup hwire
  next =>
    obtain ⟨value, hplain, rfl⟩ := Option.map_eq_some_iff.mp h
    exact hfields.of_lookup hplain

theorem Faithful.required (h : Faithful read reread write same)
    (hfields : (Json.obj fields).Regular)
    (hread : Validation.required key read fields = .valid a) : Kept reread write same a := by
  unfold Validation.required at hread
  split at hread
  next found hfound =>
    exact h _ a (regular_of_find? hfields hfound) (Checked.under_eq_valid.mp hread)
  next => cases hread

theorem Faithful.optional (h : Faithful read reread write same)
    (hdefault : Kept reread write same default) (hfields : (Json.obj fields).Regular)
    (hread : Validation.optional key default read fields = .valid a) :
    Kept reread write same a := by
  unfold Validation.optional at hread
  split at hread
  next found hfound =>
    exact h _ a (regular_of_find? hfields hfound) (Checked.under_eq_valid.mp hread)
  next =>
    cases hread
    exact hdefault

/-- A field that is there is read. -/
theorem required_eq_valid {value : Json} (hvalue : Json.lookup key.wire fields = some value)
    (hread : read value = .valid a) : Validation.required key read fields = .valid a := by
  unfold Validation.required Key.find?
  rw [hvalue]
  exact Checked.under_eq_valid.mpr hread

theorem optional_eq_valid {value : Json} (hvalue : Json.lookup key.wire fields = some value)
    (hread : read value = .valid a) : Validation.optional key default read fields = .valid a := by
  unfold Validation.optional Key.find?
  rw [hvalue]
  exact Checked.under_eq_valid.mpr hread

end

end Montage.Validation
