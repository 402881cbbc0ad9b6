/-
  Montage.Proofs.Json.Regular

  Values as JSON text can stand for them: the keys of an object differ, an integer has no
  more digits than can be read, and a double is one.  Whatever is read is such a value.
-/
import Mathlib.Data.List.Nodup
import Montage.Json.Encodable
import Montage.Proofs.Fault
import Montage.Proofs.Json.Numerals

namespace Montage.Json

open Montage.Number

/-! ## Regular values -/

/-- Whether a number can be written and read. -/
def RegularNumber : Scalar → Prop
  | .int i => ReadableInt i
  | .real x => x.IsDouble

mutual

/-- Whether a value can stand for a text: its keys differ and its numbers are regular. -/
def Regular : Json → Prop
  | .num x => RegularNumber x
  | .arr items => RegularItems items
  | .obj fields => (fields.map Prod.fst).Nodup ∧ RegularFields fields
  | _ => True

def RegularItems : List Json → Prop
  | [] => True
  | item :: rest => Regular item ∧ RegularItems rest

def RegularFields : List (String × Json) → Prop
  | [] => True
  | (_, value) :: rest => Regular value ∧ RegularFields rest

end

theorem regularItems_iff {items : List Json} :
    RegularItems items ↔ ∀ item ∈ items, item.Regular := by
  induction items with
  | nil => simp [RegularItems]
  | cons item rest ih => simp [RegularItems, ih]

theorem regularFields_iff {fields : List (String × Json)} :
    RegularFields fields ↔ ∀ field ∈ fields, field.2.Regular := by
  induction fields with
  | nil => simp [RegularFields]
  | cons field rest ih => simp [RegularFields, ih]

theorem regularFields_append {first second : List (String × Json)} :
    RegularFields (first ++ second) ↔ RegularFields first ∧ RegularFields second := by
  simp only [regularFields_iff, List.forall_mem_append]

theorem itemsHaveFiniteNumbers_iff {list : List Json} :
    itemsHaveFiniteNumbers list = true ↔ ∀ item ∈ list, item.hasFiniteNumbers = true := by
  induction list with
  | nil => simp [itemsHaveFiniteNumbers]
  | cons item rest ih => simp [itemsHaveFiniteNumbers, ih]

theorem fieldsHaveFiniteNumbers_iff {list : List (String × Json)} :
    fieldsHaveFiniteNumbers list = true ↔ ∀ field ∈ list, field.2.hasFiniteNumbers = true := by
  induction list with
  | nil => simp [fieldsHaveFiniteNumbers]
  | cons field rest ih => simp [fieldsHaveFiniteNumbers, ih]

theorem fieldsHaveFiniteNumbers_append {first second : List (String × Json)} :
    fieldsHaveFiniteNumbers (first ++ second) = true ↔
      fieldsHaveFiniteNumbers first = true ∧ fieldsHaveFiniteNumbers second = true := by
  simp only [fieldsHaveFiniteNumbers_iff, List.forall_mem_append]

/-- A field of an object that is found is one of its fields. -/
theorem mem_of_lookup {key : String} {fields : List (String × Json)} {value : Json}
    (h : lookup key fields = some value) : (key, value) ∈ fields := by
  induction fields with
  | nil => cases h
  | cons field rest ih =>
      obtain ⟨name, first⟩ := field
      rw [lookup] at h
      split at h
      next hname =>
        cases h
        rw [hname]
        exact List.mem_cons_self
      next => exact List.mem_cons_of_mem _ (ih h)

theorem Regular.of_lookup {key : String} {fields : List (String × Json)} {value : Json}
    (h : (Json.obj fields).Regular) (hfound : lookup key fields = some value) : value.Regular :=
  regularFields_iff.mp h.2 _ (mem_of_lookup hfound)

/-! ## Repeated keys -/

theorem put_of_notMem {key : String} {fields : List (String × Json)}
    (h : key ∉ fields.map Prod.fst) (value : Json) : put key value fields = fields ++ [(key, value)] := by
  induction fields with
  | nil => rfl
  | cons field rest ih =>
      obtain ⟨name, old⟩ := field
      rw [List.map_cons, List.mem_cons, not_or] at h
      rw [put, if_neg (Ne.symm h.1), ih h.2, List.cons_append]

/-- Fields whose keys differ stay as they are. -/
theorem ofFields_eq_self {fields : List (String × Json)} (h : (fields.map Prod.fst).Nodup) :
    ofFields fields = fields := by
  have hall : ∀ done, ((done ++ fields).map Prod.fst).Nodup →
      fields.foldl (fun done field => put field.1 field.2 done) done = done ++ fields := by
    clear h
    induction fields with
    | nil => exact fun done _ => (List.append_nil done).symm
    | cons field rest ih =>
        intro done hnodup
        obtain ⟨key, value⟩ := field
        have hnew : key ∉ done.map Prod.fst := by
          rw [List.map_append, List.map_cons] at hnodup
          exact fun hmem => List.disjoint_of_nodup_append hnodup hmem List.mem_cons_self
        rw [List.foldl_cons]
        dsimp only
        rw [put_of_notMem hnew, ih _ (by simpa using hnodup), List.append_assoc]
        rfl
  exact hall [] h

theorem nodup_put {key : String} {fields : List (String × Json)} (value : Json)
    (h : (fields.map Prod.fst).Nodup) : ((put key value fields).map Prod.fst).Nodup := by
  rw [map_fst_put]
  split
  next => exact h
  next hnew => exact List.nodup_append.mpr ⟨h, List.nodup_singleton key, by
      rintro name hname other hother rfl
      exact hnew (List.mem_singleton.mp hother ▸ hname)⟩

theorem mem_put {key : String} {value : Json} {fields : List (String × Json)}
    {field : String × Json} (h : field ∈ put key value fields) :
    field ∈ fields ∨ field = (key, value) := by
  induction fields with
  | nil => exact .inr (List.mem_singleton.mp h)
  | cons first rest ih =>
      obtain ⟨name, old⟩ := first
      rw [put] at h
      split at h
      next hname =>
        rcases List.mem_cons.mp h with rfl | hrest
        · exact .inr (by rw [hname])
        · exact .inl (List.mem_cons_of_mem _ hrest)
      next =>
        rcases List.mem_cons.mp h with rfl | hrest
        · exact .inl List.mem_cons_self
        · exact (ih hrest).imp_left (List.mem_cons_of_mem _)

/-- An object that is made of regular fields is regular. -/
theorem regular_ofFields {fields : List (String × Json)} (h : RegularFields fields) :
    (Json.obj (ofFields fields)).Regular := by
  have hall : ∀ done, (Json.obj done).Regular → (Json.obj
      (fields.foldl (fun done field => put field.1 field.2 done) done)).Regular := by
    induction fields with
    | nil => exact fun done hdone => hdone
    | cons field rest ih =>
        intro done hdone
        obtain ⟨key, value⟩ := field
        refine ih h.2 _ ⟨nodup_put value hdone.1, regularFields_iff.mpr fun other hother => ?_⟩
        rcases mem_put hother with hold | rfl
        · exact regularFields_iff.mp hdone.2 other hold
        · exact h.1
  exact hall [] ⟨List.nodup_nil, trivial⟩

/-! ## What is read -/

theorem digitsValue_lt {digits : List Char} (h : AllDigits digits) :
    digitsValue digits < 10 ^ digits.length := by
  have hall : ∀ start, Nat.ofDigitChars 10 digits start < (start + 1) * 10 ^ digits.length := by
    induction digits with
    | nil => exact fun start => by simp [Nat.ofDigitChars]
    | cons c rest ih =>
        intro start
        have hc : '0' ≤ c ∧ c ≤ '9' := by simpa [isAsciiDigit] using h c List.mem_cons_self
        have hvalue : c.toNat - '0'.toNat ≤ 9 := by
          have hnine : c.toNat ≤ '9'.toNat := hc.2
          change c.toNat - 48 ≤ 9
          change c.toNat ≤ 57 at hnine
          omega
        rw [Nat.ofDigitChars_cons, List.length_cons, Nat.pow_succ]
        calc Nat.ofDigitChars 10 rest (10 * start + (c.toNat - '0'.toNat))
            < (10 * start + (c.toNat - '0'.toNat) + 1) * 10 ^ rest.length :=
              ih (fun other hother => h other (List.mem_cons_of_mem c hother)) _
          _ ≤ 10 * (start + 1) * 10 ^ rest.length := Nat.mul_le_mul_right _ (by omega)
          _ = (start + 1) * (10 ^ rest.length * 10) := by ring
  rw [digitsValue_eq h]
  simpa using hall 0

/-- What is read from few digits is short enough. -/
theorem readableInt_of_digits {whole : List Char} (hwhole : AllDigits whole)
    (hshort : whole.length ≤ Numeral.maxIntegerDigits) {i : Int}
    (hi : i.natAbs = digitsValue whole) : ReadableInt i := by
  rw [ReadableInt, hi, ← String.length_toList, Nat.toList_repr]
  have hlimit : 0 < Numeral.maxIntegerDigits := by decide
  exact (Nat.length_toDigits_le_iff (by decide) hlimit).mpr
    ((digitsValue_lt hwhole).trans_le (Nat.pow_le_pow_right (by decide) hshort))

/-- A minus in front of a numeral, and what follows it. -/
def takeMinus (text : List Char) : Bool × List Char :=
  match text with
  | '-' :: rest => (true, rest)
  | _ => (false, text)

/-- All that reading a number can do. -/
theorem number_form (text : List Char) :
    ∃ negative whole places power left, AllDigits whole ∧ number text =
      if whole.isEmpty then refuse .value text
      else if places.isEmpty && Option.isNone power then
        if Numeral.maxIntegerDigits < whole.length then refuse (.longInteger whole.length) text
        else
          .ok (.int (if negative then -(digitsValue (whole ++ places) : Int)
            else digitsValue (whole ++ places)), left)
      else
        .ok (.real (.ofDecimal negative (digitsValue (whole ++ places))
          (power.getD 0 - places.length)), left) := by
  let sign := takeMinus text
  let run := sign.2.takeWhile isAsciiDigit
  let whole := if run.head? = some '0' then run.take 1 else run
  let places := fraction (sign.2.drop whole.length)
  let power := powerOfTen places.2
  have hrun : AllDigits run := fun c hc => List.mem_takeWhile_imp hc
  have hwhole : AllDigits whole := by
    unfold whole
    split
    next => exact fun c hc => hrun c (List.mem_of_mem_take hc)
    next => exact hrun
  exact ⟨sign.1, whole, places.1, power.1, power.2, hwhole, rfl⟩

theorem regularNumber_of_number {text left : List Char} {x : Scalar}
    (h : number text = .ok (x, left)) : RegularNumber x := by
  obtain ⟨negative, whole, places, power, rest, hwhole, hform⟩ := number_form text
  rw [hform] at h
  split at h
  · cases h
  next hsome =>
    split at h
    next hint =>
      rw [Bool.and_eq_true, List.isEmpty_iff] at hint
      rw [hint.1, List.append_nil] at h
      split at h
      · cases h
      next hshort =>
        cases h
        refine readableInt_of_digits hwhole (Nat.not_lt.mp hshort) ?_
        split <;> simp
    next =>
      cases h
      exact Binary64.isDouble_ofDecimal _ _ _

theorem regular_of_atom {text left : List Char} {v : Json} (h : atom text = .ok (v, left)) :
    v.Regular := by
  unfold atom at h
  dsimp only at h
  split at h
  next found hfound =>
    cases h
    obtain ⟨⟨word, meant⟩, hmem, hword⟩ := List.exists_of_findSome?_eq_some hfound
    obtain ⟨rest, -, hmeant⟩ := Option.map_eq_some_iff.mp hword
    obtain rfl : meant = v := congrArg Prod.fst hmeant
    have hwords : ∀ entry ∈ [("null", Json.null), ("true", .bool true), ("false", .bool false),
        ("NaN", .num (.real .nan)), ("Infinity", .num (.real (.infinite false))),
        ("-Infinity", .num (.real (.infinite true)))], Regular (Prod.snd entry) := by
      simp [Regular, RegularNumber, Binary64.isDouble_nan, Binary64.isDouble_infinite]
    exact hwords _ hmem
  next =>
    obtain ⟨⟨x, after⟩, hnumber, hv⟩ := exists_of_bind_eq_ok h
    cases hv
    exact regularNumber_of_number hnumber

theorem regular_of_value (fuel : Nat) :
    (∀ room text v left, value room fuel text = .ok (v, left) → v.Regular) ∧
      (∀ room text list left, items room fuel text = .ok (list, left) → RegularItems list) ∧
      ∀ room text list left, fields room fuel text = .ok (list, left) → RegularFields list := by
  induction fuel with
  | zero =>
      refine ⟨fun room text v left h => ?_, fun room text list left h => ?_,
        fun room text list left h => ?_⟩ <;> cases h
  | succ fuel ih =>
      obtain ⟨hvalue, hitems, hfields⟩ := ih
      refine ⟨fun room text v left h => ?_, fun room text list left h => ?_,
        fun room text list left h => ?_⟩
      · unfold value at h
        split at h
        · obtain ⟨⟨x, after⟩, -, hv⟩ := exists_of_bind_eq_ok h
          cases hv
          trivial
        · split at h
          · cases h
          · split at h
            · cases h
              trivial
            · obtain ⟨⟨list, after⟩, hlist, hv⟩ := exists_of_bind_eq_ok h
              cases hv
              exact hitems _ _ _ _ hlist
        · split at h
          · cases h
          · split at h
            · cases h
              exact ⟨List.nodup_nil, trivial⟩
            · obtain ⟨⟨list, after⟩, hlist, hv⟩ := exists_of_bind_eq_ok h
              cases hv
              exact regular_ofFields (hfields _ _ _ _ hlist)
        · exact regular_of_atom h
      · unfold items at h
        obtain ⟨⟨first, after⟩, hfirst, h⟩ := exists_of_bind_eq_ok h
        dsimp only at h
        split at h
        · cases h
          exact ⟨hvalue _ _ _ _ hfirst, trivial⟩
        · obtain ⟨⟨others, rest⟩, hothers, hv⟩ := exists_of_bind_eq_ok h
          cases hv
          exact ⟨hvalue _ _ _ _ hfirst, hitems _ _ _ _ hothers⟩
        · cases h
      · unfold fields at h
        split at h
        · obtain ⟨⟨key, after⟩, -, h⟩ := exists_of_bind_eq_ok h
          dsimp only at h
          split at h
          · obtain ⟨⟨first, after⟩, hfirst, h⟩ := exists_of_bind_eq_ok h
            dsimp only at h
            split at h
            · cases h
              exact ⟨hvalue _ _ _ _ hfirst, trivial⟩
            · obtain ⟨⟨others, rest⟩, hothers, hv⟩ := exists_of_bind_eq_ok h
              cases hv
              exact ⟨hvalue _ _ _ _ hfirst, hfields _ _ _ _ hothers⟩
            · cases h
          · cases h
        · cases h

/-- Whatever is read is a regular value. -/
theorem regular_of_read {text : String} {v : Json} (h : read text = .ok v) : v.Regular := by
  unfold read at h
  dsimp only at h
  split at h
  next found hattempt =>
    cases h
    split at hattempt
    · cases hattempt
    · obtain ⟨⟨read, after⟩, hread, hrest⟩ := exists_of_bind_eq_ok hattempt
      dsimp only at hrest
      split at hrest
      · cases hrest
        exact (regular_of_value _).1 _ _ _ _ hread
      · cases hrest
  next => cases h

end Montage.Json
