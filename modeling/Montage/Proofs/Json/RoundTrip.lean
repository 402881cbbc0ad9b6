/-
  Montage.Proofs.Json.RoundTrip

  JSON text that is read back.  A regular value with finite numbers is read from its
  compact text as the same value, if it does not lie deeper inside itself than can be read.
  A number that is not finite is written as `null`, so the text is that of the value with
  `null` in place of all such numbers, and this is the value that is read back.
-/
import Montage.Proofs.Json.Levels
import Montage.Proofs.Json.Regular
import Montage.Proofs.Json.Strings

namespace Montage.Json

open Montage.Number

/-! ## Beginnings -/

/-- Whether a text begins as a value does: with no blank, no closing bracket and no mark of
    a byte order. -/
def Opens (text : List Char) : Prop :=
  ∃ c rest, text = c :: rest ∧ isJsonBlank c = false ∧ c ≠ ']' ∧ c ≠ '\ufeff'

theorem Opens.skipBlanks {text : List Char} (h : Opens text) : skipBlanks text = text := by
  obtain ⟨c, rest, rfl, hblank, -⟩ := h
  exact List.dropWhile_cons_of_neg (by simp [hblank])

/-- A number begins with a digit, or with a minus and a digit. -/
theorem toList_scalarText {x : Scalar} (hregular : RegularNumber x)
    (hfinite : (Json.num x).hasFiniteNumbers = true) :
    ∃ negative c rest, (scalarText x).toList = signChars negative ++ c :: rest ∧
      isAsciiDigit c = true := by
  cases x with
  | int i =>
      obtain ⟨c, rest, hdigits, hc⟩ := (WholeDigits.repr i.natAbs).exists_cons
      exact ⟨_, c, rest, hdigits ▸ toList_toString_int i, hc⟩
  | real x =>
      cases x with
      | finite negative units => exact ⟨negative, toList_finite negative (hregular _ _ rfl)⟩
      | infinite negative => cases hfinite
      | nan => cases hfinite

theorem ne_of_digit {c other : Char} (hc : isAsciiDigit c = true)
    (hother : isAsciiDigit other = false) : c ≠ other := by
  rintro rfl
  rw [hc] at hother
  cases hother

theorem opens_of_digit {c : Char} (hc : isAsciiDigit c = true) (negative : Bool)
    (rest : List Char) : Opens (signChars negative ++ c :: rest) := by
  cases negative with
  | true => exact ⟨'-', c :: rest, rfl, rfl, by decide, by decide⟩
  | false =>
      have hne : ∀ other, isAsciiDigit other = false → c ≠ other := fun _ => ne_of_digit hc
      refine ⟨c, rest, rfl, ?_, hne _ rfl, hne _ rfl⟩
      have hblanks : c ≠ ' ' ∧ c ≠ '\t' ∧ c ≠ '\n' ∧ c ≠ '\r' :=
        ⟨hne _ rfl, hne _ rfl, hne _ rfl, hne _ rfl⟩
      simp [isJsonBlank, hblanks]

/-- Every value begins as one. -/
theorem opens_write {v : Json} (hregular : v.Regular) (hfinite : v.hasFiniteNumbers = true)
    (rest : List Char) : Opens (v.write.toList ++ rest) := by
  cases v with
  | null => exact ⟨'n', _, rfl, rfl, by decide, by decide⟩
  | bool flag => cases flag <;> exact ⟨_, _, rfl, rfl, by decide, by decide⟩
  | num x =>
      obtain ⟨negative, c, digits, htext, hc⟩ := toList_scalarText hregular hfinite
      rw [write, htext, List.append_assoc]
      exact opens_of_digit hc negative _
  | str text =>
      rw [write, toList_stringText]
      exact ⟨'"', _, rfl, rfl, by decide, by decide⟩
  | arr items =>
      rw [write, String.append_assoc, String.toList_append]
      exact ⟨'[', _, rfl, rfl, by decide, by decide⟩
  | obj fields =>
      rw [write, String.append_assoc, String.toList_append]
      exact ⟨'\x7b', _, rfl, rfl, by decide, by decide⟩

/-! ## Words and numbers -/

/-- No word stands where a number does. -/
theorem word?_number {c : Char} (hc : isAsciiDigit c = true) (negative : Bool) (rest : List Char)
    {word : String} (hword : word ∈ ["null", "true", "false", "NaN", "Infinity", "-Infinity"]) :
    word? word.toList (signChars negative ++ c :: rest) = none := by
  have hne : ∀ other, isAsciiDigit other = false → c ≠ other := fun _ => ne_of_digit hc
  have hletters : c ≠ 'n' ∧ c ≠ 't' ∧ c ≠ 'f' ∧ c ≠ 'N' ∧ c ≠ 'I' ∧ c ≠ '-' :=
    ⟨hne _ rfl, hne _ rfl, hne _ rfl, hne _ rfl, hne _ rfl, hne _ rfl⟩
  simp only [List.mem_cons, List.not_mem_nil, or_false] at hword
  rcases hword with rfl | rfl | rfl | rfl | rfl | rfl <;> cases negative <;>
    simp [word?, signChars, hletters]

/-- A number with its text. -/
theorem atom_number {x : Scalar} (hregular : RegularNumber x)
    (hfinite : (Json.num x).hasFiniteNumbers = true) {rest : List Char} (hrest : Closes rest) :
    atom ((scalarText x).toList ++ rest) = .ok (.num x, rest) := by
  have hnumber : number ((scalarText x).toList ++ rest) = .ok (x, rest) := by
    cases x with
    | int i => exact number_int hregular hrest
    | real x =>
        cases x with
        | finite negative units => exact number_finite negative (hregular _ _ rfl) hrest
        | infinite negative => cases hfinite
        | nan => cases hfinite
  obtain ⟨negative, c, digits, htext, hc⟩ := toList_scalarText hregular hfinite
  unfold atom
  dsimp only
  split
  next found hfound =>
    obtain ⟨⟨word, meant⟩, hmem, hword⟩ := List.exists_of_findSome?_eq_some hfound
    have hnames := List.mem_map_of_mem (f := Prod.fst) hmem
    rw [htext, List.append_assoc, List.cons_append, word?_number hc negative _ hnames] at hword
    cases hword
  next =>
    rw [hnumber]
    rfl

/-! ## Lists and objects -/

theorem toList_writeItems_cons (item next : Json) (others : List Json) :
    (writeItems (item :: next :: others)).toList =
      item.write.toList ++ ',' :: (writeItems (next :: others)).toList := by
  rw [writeItems, String.toList_append, String.toList_append, List.append_assoc]
  · rfl
  · exact List.cons_ne_nil _ _

theorem opens_writeItems {list : List Json}
    (hopens : ∀ item ∈ list, ∀ rest, Opens (item.write.toList ++ rest)) (hsome : list ≠ [])
    (rest : List Char) : Opens ((writeItems list).toList ++ rest) := by
  match list with
  | [] => exact absurd rfl hsome
  | [item] => exact hopens item List.mem_cons_self rest
  | item :: next :: others =>
      rw [toList_writeItems_cons, List.append_assoc]
      exact hopens item List.mem_cons_self _

/-- A field as it is written. -/
def fieldChars (field : String × Json) : List Char :=
  (stringText field.1).toList ++ ':' :: field.2.write.toList

theorem toList_writeFields_singleton (field : String × Json) :
    (writeFields [field]).toList = fieldChars field := by
  rw [writeFields, String.toList_append, String.toList_append, List.append_assoc]
  rfl

theorem toList_writeFields_cons (field next : String × Json) (others : List (String × Json)) :
    (writeFields (field :: next :: others)).toList =
      fieldChars field ++ ',' :: (writeFields (next :: others)).toList := by
  rw [writeFields]
  · simp only [String.toList_append, fieldChars, List.append_assoc]
    rfl
  · exact List.cons_ne_nil _ _

/-! ## Values -/

/-- Whether a value is read from its text, whatever follows, with so much room. -/
def ReadsBack (room : Nat) (v : Json) : Prop :=
  ∀ fuel, v.write.toList.length < fuel → ∀ rest, Closes rest →
    value room fuel (v.write.toList ++ rest) = .ok (v, rest)

theorem ReadsBack.of_succ {room : Nat} {v : Json}
    (h : ∀ fuel, v.write.toList.length ≤ fuel → ∀ rest, Closes rest →
      value room (fuel + 1) (v.write.toList ++ rest) = .ok (v, rest)) : ReadsBack room v := by
  intro fuel hfuel rest hrest
  obtain ⟨more, rfl⟩ : ∃ more, fuel = more + 1 := ⟨fuel - 1, by omega⟩
  exact h more (by omega) rest hrest

/-- Items that are read back one by one are read back together. -/
theorem items_write {room : Nat} {list : List Json} (hall : ∀ item ∈ list, ReadsBack room item)
    (hopens : ∀ item ∈ list, ∀ rest, Opens (item.write.toList ++ rest)) (hsome : list ≠ [])
    {fuel : Nat} (hfuel : (writeItems list).toList.length + 1 < fuel) (rest : List Char) :
    items room fuel ((writeItems list).toList ++ ']' :: rest) = .ok (list, rest) := by
  induction list generalizing fuel with
  | nil => exact absurd rfl hsome
  | cons item others ih =>
      obtain ⟨more, rfl⟩ : ∃ more, fuel = more + 1 := ⟨fuel - 1, by omega⟩
      obtain ⟨hitem, hothers⟩ := List.forall_mem_cons.mp hall
      obtain ⟨-, hopenings⟩ := List.forall_mem_cons.mp hopens
      cases others with
      | nil =>
          rw [writeItems] at hfuel ⊢
          unfold items
          rw [hitem more (by omega) _ (closes_cons (by decide) rest)]
          rfl
      | cons next others =>
          rw [toList_writeItems_cons, List.length_append, List.length_cons] at hfuel
          have hrest : items room more ((writeItems (next :: others)).toList ++ ']' :: rest) =
              .ok (next :: others, rest) :=
            ih hothers hopenings (List.cons_ne_nil _ _) (by omega)
          have hblank := (opens_writeItems hopenings (List.cons_ne_nil next others)
            (']' :: rest)).skipBlanks
          rw [toList_writeItems_cons, List.append_assoc, List.cons_append]
          unfold items
          rw [hitem more (by omega) _ (closes_cons (by decide) _)]
          change (items room more (skipBlanks _) >>= fun parts =>
            .ok (item :: parts.1, parts.2)) = _
          rw [hblank, hrest]
          rfl

/-- Fields begin with the quote of a key. -/
theorem exists_quote_writeFields {list : List (String × Json)} (hsome : list ≠ [])
    (rest : List Char) : ∃ tail, (writeFields list).toList ++ rest = '"' :: tail := by
  match list with
  | [] => exact absurd rfl hsome
  | [field] =>
      rw [toList_writeFields_singleton, fieldChars, toList_stringText]
      exact ⟨_, rfl⟩
  | field :: next :: others =>
      rw [toList_writeFields_cons, fieldChars, toList_stringText]
      exact ⟨_, rfl⟩

/-- After a key and a colon, a value and then a comma or the closing brace. -/
theorem fields_key (room more : Nat) (key : String) (tail : List Char) :
    fields room (more + 1) ((stringText key).toList ++ ':' :: tail) = (do
      let (first, after) ← value room more (skipBlanks tail)
      match skipBlanks after with
      | '\x7d' :: left => return ([(key, first)], left)
      | ',' :: rest =>
        let (others, left) ← fields room more (skipBlanks rest)
        return ((key, first) :: others, left)
      | other => refuse .comma other) := by
  have hstring := string_stringText key (':' :: tail)
  rw [toList_stringText, List.cons_append] at hstring ⊢
  rw [fields]
  dsimp only
  rw [hstring]
  rfl

/-- Fields whose values are read back one by one are read back together. -/
theorem fields_write {room : Nat} {list : List (String × Json)}
    (hall : ∀ field ∈ list, ReadsBack room field.2)
    (hopens : ∀ field ∈ list, ∀ rest, Opens (field.2.write.toList ++ rest)) (hsome : list ≠ [])
    {fuel : Nat} (hfuel : (writeFields list).toList.length + 1 < fuel) (rest : List Char) :
    fields room fuel ((writeFields list).toList ++ '\x7d' :: rest) = .ok (list, rest) := by
  induction list generalizing fuel with
  | nil => exact absurd rfl hsome
  | cons field others ih =>
      obtain ⟨key, v⟩ := field
      obtain ⟨more, rfl⟩ : ∃ more, fuel = more + 1 := ⟨fuel - 1, by omega⟩
      obtain ⟨hfield, hothers⟩ := List.forall_mem_cons.mp hall
      obtain ⟨hopening, hopenings⟩ := List.forall_mem_cons.mp hopens
      cases others with
      | nil =>
          rw [toList_writeFields_singleton, fieldChars, List.length_append, List.length_cons] at hfuel
          rw [toList_writeFields_singleton, fieldChars, List.append_assoc, List.cons_append,
            fields_key, (hopening _).skipBlanks,
            hfield more (by omega) _ (closes_cons (by decide) rest)]
          rfl
      | cons next others =>
          rw [toList_writeFields_cons, fieldChars, List.length_append, List.length_append,
            List.length_cons, List.length_cons] at hfuel
          have hrest : fields room more ((writeFields (next :: others)).toList ++ '\x7d' :: rest) =
              .ok (next :: others, rest) :=
            ih hothers hopenings (List.cons_ne_nil _ _) (by omega)
          rw [toList_writeFields_cons, fieldChars]
          simp only [List.append_assoc, List.cons_append]
          rw [fields_key, (hopening _).skipBlanks,
            hfield more (by omega) _ (closes_cons (by decide) _)]
          change (do
            let (others, left) ← fields room more (skipBlanks _)
            return ((key, v) :: others, left)) = _
          obtain ⟨tail, htail⟩ :=
            exists_quote_writeFields (List.cons_ne_nil next others) ('\x7d' :: rest)
          have hblank : skipBlanks ('"' :: tail) = '"' :: tail := rfl
          rw [htail, hblank, ← htail, hrest]
          rfl

theorem value_number (room fuel : Nat) {c : Char} (hc : isAsciiDigit c = true) (negative : Bool)
    (rest : List Char) :
    value room (fuel + 1) (signChars negative ++ c :: rest) =
      atom (signChars negative ++ c :: rest) := by
  cases negative with
  | true => rfl
  | false =>
      change value room (fuel + 1) (c :: rest) = atom (c :: rest)
      unfold value
      split
      next heq => cases heq; cases hc
      next heq => cases heq; cases hc
      next heq => cases heq; cases hc
      next => rfl

theorem value_string (room fuel : Nat) (text : String) (rest : List Char) :
    value room (fuel + 1) ((stringText text).toList ++ rest) = .ok (.str text, rest) := by
  have hstring := string_stringText text rest
  rw [toList_stringText, List.cons_append] at hstring ⊢
  rw [value, hstring]
  rfl

theorem value_list {room : Nat} (hroom : 0 < room) (fuel : Nat) {inside : List Char}
    (hopens : Opens inside) :
    value room (fuel + 1) ('[' :: inside) =
      (items (room - 1) fuel inside).map fun (list, left) => (.arr list, left) := by
  have hskip := hopens.skipBlanks
  obtain ⟨c, rest, rfl, -, hbracket, -⟩ := hopens
  rw [value, if_neg (Nat.ne_of_gt hroom), hskip]
  split
  next heq => exact absurd (List.cons.inj heq).1 hbracket
  next => cases items (room - 1) fuel (c :: rest) <;> rfl

theorem value_object {room : Nat} (hroom : 0 < room) (fuel : Nat) (tail : List Char) :
    value room (fuel + 1) ('\x7b' :: '"' :: tail) =
      (fields (room - 1) fuel ('"' :: tail)).map fun (list, left) => (.obj (ofFields list), left) := by
  have hskip : skipBlanks ('"' :: tail) = '"' :: tail := rfl
  rw [value, if_neg (Nat.ne_of_gt hroom), hskip]
  split
  next heq => cases heq
  next => cases fields (room - 1) fuel ('"' :: tail) <;> rfl

/-- A list whose items are read back is read back. -/
theorem readsBack_arr {room : Nat} {list : List Json} (hroom : 0 < room)
    (hall : ∀ item ∈ list, ReadsBack (room - 1) item)
    (hopens : ∀ item ∈ list, ∀ rest, Opens (item.write.toList ++ rest)) :
    ReadsBack room (.arr list) := by
  refine .of_succ fun fuel hfuel rest _ => ?_
  have htext : ∀ after, (Json.arr list).write.toList ++ after =
      '[' :: ((writeItems list).toList ++ ']' :: after) := by
    intro after
    rw [write]
    simp only [String.toList_append, List.append_assoc]
    rfl
  have hlength : (writeItems list).toList.length + 2 ≤ fuel := by
    have hwhole := congrArg List.length (htext [])
    simp only [List.length_append, List.length_cons, List.length_nil] at hwhole
    omega
  rw [htext]
  by_cases hsome : list = []
  · subst hsome
    rw [value, if_neg (Nat.ne_of_gt hroom)]
    rfl
  · rw [value_list hroom fuel (opens_writeItems hopens hsome _),
      items_write hall hopens hsome (by omega)]
    rfl

/-- An object with different keys whose values are read back is read back. -/
theorem readsBack_obj {room : Nat} {list : List (String × Json)} (hroom : 0 < room)
    (hnodup : (list.map Prod.fst).Nodup) (hall : ∀ field ∈ list, ReadsBack (room - 1) field.2)
    (hopens : ∀ field ∈ list, ∀ rest, Opens (field.2.write.toList ++ rest)) :
    ReadsBack room (.obj list) := by
  refine .of_succ fun fuel hfuel rest _ => ?_
  have htext : ∀ after, (Json.obj list).write.toList ++ after =
      '\x7b' :: ((writeFields list).toList ++ '\x7d' :: after) := by
    intro after
    rw [write]
    simp only [String.toList_append, List.append_assoc]
    rfl
  have hlength : (writeFields list).toList.length + 2 ≤ fuel := by
    have hwhole := congrArg List.length (htext [])
    simp only [List.length_append, List.length_cons, List.length_nil] at hwhole
    omega
  rw [htext]
  by_cases hsome : list = []
  · subst hsome
    rw [value, if_neg (Nat.ne_of_gt hroom)]
    rfl
  · obtain ⟨tail, htail⟩ := exists_quote_writeFields hsome ('\x7d' :: rest)
    rw [htail, value_object hroom fuel tail, ← htail, fields_write hall hopens hsome (by omega)]
    exact congrArg (fun fields => Except.ok (Json.obj fields, rest)) (ofFields_eq_self hnodup)

/-- A value is read back from its text. -/
theorem readsBack {v : Json} (hregular : v.Regular) (hfinite : v.hasFiniteNumbers = true)
    {room : Nat} (hroom : v.levels ≤ room) : ReadsBack room v := by
  induction v using induct generalizing room with
  | null => exact .of_succ fun _ _ _ _ => rfl
  | bool flag => cases flag <;> exact .of_succ fun _ _ _ _ => rfl
  | num x =>
      refine .of_succ fun fuel hfuel rest hrest => ?_
      have hatom := atom_number hregular hfinite hrest
      obtain ⟨negative, c, digits, htext, hc⟩ := toList_scalarText hregular hfinite
      rw [htext, List.append_assoc, List.cons_append] at hatom
      rw [write, htext, List.append_assoc, List.cons_append, value_number room fuel hc, hatom]
  | str text => exact .of_succ fun fuel _ rest _ => value_string room fuel text rest
  | arr items ih =>
      rw [levels] at hroom
      have hinside : levelsOfItems items ≤ room - 1 := by omega
      have hregularItems := regularItems_iff.mp hregular
      have hfiniteItems := itemsHaveFiniteNumbers_iff.mp hfinite
      refine readsBack_arr (by omega) (fun item hitem => ?_) fun item hitem => ?_
      · exact ih item hitem (hregularItems item hitem) (hfiniteItems item hitem)
          (levelsOfItems_le_iff.mp hinside item hitem)
      · exact opens_write (hregularItems item hitem) (hfiniteItems item hitem)
  | obj fields ih =>
      rw [levels] at hroom
      have hinside : levelsOfFields fields ≤ room - 1 := by omega
      have hregularFields := regularFields_iff.mp hregular.2
      have hfiniteFields := fieldsHaveFiniteNumbers_iff.mp hfinite
      refine readsBack_obj (by omega) hregular.1 (fun field hfield => ?_) fun field hfield => ?_
      · exact ih field hfield (hregularFields field hfield) (hfiniteFields field hfield)
          (levelsOfFields_le_iff.mp hinside field hfield)
      · exact opens_write (hregularFields field hfield) (hfiniteFields field hfield)

/-- A value is read back from its text. -/
theorem read_write {v : Json} (hregular : v.Regular) (hfinite : v.hasFiniteNumbers = true)
    (hlevels : v.levels ≤ nestingLimit) : read v.write = .ok v := by
  have hopens := opens_write hregular hfinite []
  rw [List.append_nil] at hopens
  have hmark : ¬v.write.toList.head? = some '\ufeff' := by
    obtain ⟨c, rest, htext, -, -, hne⟩ := hopens
    rw [htext]
    exact fun heq => hne (Option.some.inj heq)
  have hvalue := readsBack hregular hfinite hlevels (v.write.toList.length + 1) (by omega) []
    (fun c hc => nomatch hc)
  rw [List.append_nil] at hvalue
  unfold read
  dsimp only
  rw [if_neg hmark, hopens.skipBlanks, hvalue]
  rfl

/-! ## Values as they are written -/

mutual

/-- A value with `null` in place of every number that is not finite. -/
def asWritten : Json → Json
  | .num (.real x) => if x.isFinite then .num (.real x) else .null
  | .arr items => .arr (itemsAsWritten items)
  | .obj fields => .obj (fieldsAsWritten fields)
  | value => value

def itemsAsWritten : List Json → List Json
  | [] => []
  | item :: rest => asWritten item :: itemsAsWritten rest

def fieldsAsWritten : List (String × Json) → List (String × Json)
  | [] => []
  | (key, value) :: rest => (key, asWritten value) :: fieldsAsWritten rest

end

theorem itemsAsWritten_eq_map (items : List Json) :
    itemsAsWritten items = items.map asWritten := by
  induction items with
  | nil => rfl
  | cons item rest ih => rw [itemsAsWritten, ih, List.map_cons]

theorem fieldsAsWritten_eq_map (fields : List (String × Json)) :
    fieldsAsWritten fields = fields.map fun field => (field.1, field.2.asWritten) := by
  induction fields with
  | nil => rfl
  | cons field rest ih => rw [fieldsAsWritten, ih, List.map_cons]

/-! ## What they have in common -/

theorem hasFiniteNumbers_asWritten (value : Json) : value.asWritten.hasFiniteNumbers = true := by
  induction value using induct with
  | null => rfl
  | bool flag => rfl
  | num x =>
      cases x with
      | int i => rfl
      | real x =>
          rw [asWritten]
          split
          next hfinite => exact hfinite
          next => rfl
  | str text => rfl
  | arr items ih =>
      rw [asWritten, hasFiniteNumbers, itemsHaveFiniteNumbers_iff, itemsAsWritten_eq_map,
        List.forall_mem_map]
      exact ih
  | obj fields ih =>
      rw [asWritten, hasFiniteNumbers, fieldsHaveFiniteNumbers_iff, fieldsAsWritten_eq_map,
        List.forall_mem_map]
      exact ih

/-- Only numbers that are not finite change. -/
theorem asWritten_of_hasFiniteNumbers {value : Json} (h : value.hasFiniteNumbers = true) :
    value.asWritten = value := by
  induction value using induct with
  | null => rfl
  | bool flag => rfl
  | num x =>
      cases x with
      | int i => rfl
      | real x => exact if_pos h
  | str text => rfl
  | arr items ih =>
      have hitems := itemsHaveFiniteNumbers_iff.mp h
      rw [asWritten, itemsAsWritten_eq_map,
        List.map_congr_left fun item hitem => ih item hitem (hitems item hitem), List.map_id']
  | obj fields ih =>
      have hfields := fieldsHaveFiniteNumbers_iff.mp h
      have hsame : ∀ field ∈ fields, (field.1, field.2.asWritten) = field :=
        fun field hfield => by rw [ih field hfield (hfields field hfield)]
      rw [asWritten, fieldsAsWritten_eq_map, List.map_congr_left hsame, List.map_id']

theorem regular_asWritten {value : Json} (h : value.Regular) : value.asWritten.Regular := by
  induction value using induct with
  | null => exact trivial
  | bool flag => exact trivial
  | num x =>
      cases x with
      | int i => exact h
      | real x =>
          rw [asWritten]
          split
          next => exact h
          next => exact trivial
  | str text => exact trivial
  | arr items ih =>
      have hitems := regularItems_iff.mp h
      rw [asWritten, Regular, regularItems_iff, itemsAsWritten_eq_map, List.forall_mem_map]
      exact fun item hitem => ih item hitem (hitems item hitem)
  | obj fields ih =>
      have hfields := regularFields_iff.mp h.2
      rw [asWritten, Regular, regularFields_iff, fieldsAsWritten_eq_map, List.forall_mem_map,
        List.map_map]
      exact ⟨h.1, fun field hfield => ih field hfield (hfields field hfield)⟩

theorem levelsOfItems_asWritten {items : List Json}
    (h : ∀ item ∈ items, item.asWritten.levels = item.levels) :
    levelsOfItems (itemsAsWritten items) = levelsOfItems items := by
  induction items with
  | nil => rfl
  | cons item rest ih =>
      obtain ⟨hitem, hrest⟩ := List.forall_mem_cons.mp h
      rw [itemsAsWritten, levelsOfItems, levelsOfItems, hitem, ih hrest]

theorem levelsOfFields_asWritten {fields : List (String × Json)}
    (h : ∀ field ∈ fields, field.2.asWritten.levels = field.2.levels) :
    levelsOfFields (fieldsAsWritten fields) = levelsOfFields fields := by
  induction fields with
  | nil => rfl
  | cons field rest ih =>
      obtain ⟨hfield, hrest⟩ := List.forall_mem_cons.mp h
      rw [fieldsAsWritten, levelsOfFields, levelsOfFields, hfield, ih hrest]

theorem levels_asWritten (value : Json) : value.asWritten.levels = value.levels := by
  induction value using induct with
  | null => rfl
  | bool flag => rfl
  | num x =>
      cases x with
      | int i => rfl
      | real x =>
          rw [asWritten]
          split <;> rfl
  | str text => rfl
  | arr items ih => rw [asWritten, levels, levels, levelsOfItems_asWritten ih]
  | obj fields ih => rw [asWritten, levels, levels, levelsOfFields_asWritten ih]

theorem writeItems_asWritten {items : List Json}
    (h : ∀ item ∈ items, item.asWritten.write = item.write) :
    writeItems (itemsAsWritten items) = writeItems items := by
  match items with
  | [] => rfl
  | [item] => exact h item List.mem_cons_self
  | item :: next :: others =>
      obtain ⟨hitem, hrest⟩ := List.forall_mem_cons.mp h
      show item.asWritten.write ++ "," ++ writeItems (itemsAsWritten (next :: others)) =
        item.write ++ "," ++ writeItems (next :: others)
      rw [hitem, writeItems_asWritten hrest]

theorem writeFields_asWritten {fields : List (String × Json)}
    (h : ∀ field ∈ fields, field.2.asWritten.write = field.2.write) :
    writeFields (fieldsAsWritten fields) = writeFields fields := by
  match fields with
  | [] => rfl
  | [(key, value)] =>
      have hvalue := h (key, value) List.mem_cons_self
      simp only [fieldsAsWritten, writeFields, hvalue]
  | (key, value) :: next :: others =>
      obtain ⟨hvalue, hrest⟩ := List.forall_mem_cons.mp h
      show stringText key ++ ":" ++ value.asWritten.write ++ "," ++
          writeFields (fieldsAsWritten (next :: others)) =
        stringText key ++ ":" ++ value.write ++ "," ++ writeFields (next :: others)
      rw [hvalue, writeFields_asWritten hrest]

/-- The text does not tell which values were `null` before. -/
theorem write_asWritten (value : Json) : value.asWritten.write = value.write := by
  induction value using induct with
  | null => rfl
  | bool flag => rfl
  | num x =>
      cases x with
      | int i => rfl
      | real x => cases x <;> rfl
  | str text => rfl
  | arr items ih => rw [asWritten, write, write, writeItems_asWritten ih]
  | obj fields ih => rw [asWritten, write, write, writeFields_asWritten ih]

/-! ## Reading -/

/-- The text of a value is read as what is left of the value. -/
theorem read_write_asWritten {value : Json} (hregular : value.Regular)
    (hlevels : value.levels ≤ nestingLimit) : read value.write = .ok value.asWritten := by
  rw [← write_asWritten]
  exact read_write (regular_asWritten hregular) (hasFiniteNumbers_asWritten value)
    ((levels_asWritten value).trans_le hlevels)

end Montage.Json
