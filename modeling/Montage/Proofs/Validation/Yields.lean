/-
  Montage.Proofs.Validation.Yields

  Values that are read from their texts.  What is read again is valid under a condition on
  the value, such as that a number is finite, and it is then a certain value; this is said
  of readers of options, lists and fields if it is said of those of their parts.
-/
import Montage.Proofs.Json.RoundTrip
import Montage.Proofs.Validation.Faithful

namespace Montage.Validation

open Montage.Number

variable {α β : Type}

/-! ## Results -/

namespace Checked

/-- Whether a result is valid exactly under a condition, and then with this value. -/
def Yields (result : Checked α) (condition : Prop) (a : α) : Prop :=
  ∀ b, result = .valid b ↔ condition ∧ b = a

variable {result : Checked α} {condition other : Prop} {a : α}

theorem Yields.of_valid (h : result = .valid a) : result.Yields True a := by
  intro b
  rw [h, valid.injEq, true_and]
  exact eq_comm

theorem Yields.congr (h : result.Yields condition a) (hsame : condition ↔ other) :
    result.Yields other a :=
  fun b => (h b).trans (and_congr_left fun _ => hsame)

theorem Yields.map (h : result.Yields condition a) (f : α → β) :
    (result.map f).Yields condition (f a) := by
  intro b
  rw [map_eq_valid]
  constructor
  · rintro ⟨x, hx, rfl⟩
    obtain ⟨hcondition, rfl⟩ := (h x).mp hx
    exact ⟨hcondition, rfl⟩
  · rintro ⟨hcondition, rfl⟩
    exact ⟨a, (h a).mpr ⟨hcondition, rfl⟩, rfl⟩

theorem Yields.seq {function : Checked (α → β)} {f : α → β} (hf : function.Yields other f)
    (h : result.Yields condition a) : (function.seq result).Yields (other ∧ condition) (f a) := by
  intro b
  rw [seq_eq_valid]
  constructor
  · rintro ⟨g, x, hg, hx, rfl⟩
    obtain ⟨hother, rfl⟩ := (hf g).mp hg
    obtain ⟨hcondition, rfl⟩ := (h x).mp hx
    exact ⟨⟨hother, hcondition⟩, rfl⟩
  · rintro ⟨⟨hother, hcondition⟩, rfl⟩
    exact ⟨f, a, (hf f).mpr ⟨hother, rfl⟩, (h a).mpr ⟨hcondition, rfl⟩, rfl⟩

theorem Yields.under (h : result.Yields condition a) (step : Step) :
    (result.under step).Yields condition a :=
  fun b => under_eq_valid.trans (h b)

/-- A further test that the value passes changes nothing. -/
theorem Yields.andThen {test : α → Checked β} {c : β} (h : result.Yields condition a)
    (htest : test a = .valid c) : (result.andThen test).Yields condition c := by
  intro b
  rw [andThen_eq_valid]
  constructor
  · rintro ⟨x, hx, hb⟩
    obtain ⟨hcondition, rfl⟩ := (h x).mp hx
    exact ⟨hcondition, (valid.inj (htest.symm.trans hb)).symm⟩
  · rintro ⟨hcondition, rfl⟩
    exact ⟨a, (h a).mpr ⟨hcondition, rfl⟩, htest⟩

end Checked

/-! ## Readers -/

/-- Whether all that is made of regular values is read again from its text exactly if it is
    intact, and then as what it is restored to. -/
def Restores (read reread : Json → Checked α) (write : α → Json) (intact : α → Prop)
    (restore : α → α) : Prop :=
  ∀ value a, value.Regular → read value = .valid a →
    (reread (write a).asWritten).Yields (intact a) (restore a)

/-- What is written without numbers that are not finite is read again as it is. -/
theorem Faithful.restores {read reread : Json → Checked α} {write : α → Json}
    (h : Faithful read reread write Eq) (hfinite : ∀ a, (write a).hasFiniteNumbers = true) :
    Restores read reread write (fun _ => True) id := by
  intro value a hvalue hread
  rw [Json.asWritten_of_hasFiniteNumbers (hfinite a)]
  exact .of_valid ((h value a hvalue hread).eq (hfinite a))

/-! ## Lists -/

section

variable {read reread : Json → Checked α} {write : α → Json} {intact : α → Prop}
  {restore : α → α}

theorem Restores.items (h : Restores read reread write intact restore) {position : Nat}
    {items : List Json} {list : List α} (hitems : Json.RegularItems items)
    (hread : checkItems read position items = .valid list) :
    (checkItems reread position (Json.itemsAsWritten (list.map write))).Yields
      (∀ a ∈ list, intact a) (list.map restore) := by
  induction items generalizing position list with
  | nil =>
      cases hread
      exact (Checked.Yields.of_valid rfl).congr (by simp)
  | cons item rest ih =>
      obtain ⟨a, others, hfirst, hrest, rfl⟩ := checkItems_cons_eq_valid.mp hread
      have hitem := (h item a hitems.1 hfirst).under (.index position)
      exact ((hitem.map List.cons).seq (ih hitems.2 hrest)).congr List.forall_mem_cons.symm

theorem yields_nil :
    (checkList reread (Json.arr (List.map write [])).asWritten).Yields
      (∀ a ∈ ([] : List α), intact a) (List.map restore []) :=
  (Checked.Yields.of_valid rfl).congr (by simp)

theorem Restores.list (h : Restores read reread write intact restore) :
    Restores (checkList read) (checkList reread) (fun list => .arr (list.map write))
      (fun list => ∀ a ∈ list, intact a) (List.map restore) := by
  intro value list hvalue hread
  unfold checkList at hread
  split at hread
  next items => exact h.items hvalue hread
  next => cases hread

end

/-! ## Fields -/

section

variable {key : Key} {default : α} {read reread : Json → Checked α} {write : α → Json}
  {intact : α → Prop} {restore : α → α} {fields : List (String × Json)} {a : α}
  {condition : Prop}

theorem Restores.required (h : Restores read reread write intact restore)
    (hfields : (Json.obj fields).Regular)
    (hread : Validation.required key read fields = .valid a) :
    (reread (write a).asWritten).Yields (intact a) (restore a) := by
  unfold Validation.required at hread
  split at hread
  next found hfound =>
    exact h _ a (regular_of_find? hfields hfound) (Checked.under_eq_valid.mp hread)
  next => cases hread

theorem Restores.optional (h : Restores read reread write intact restore)
    (hdefault : (reread (write default).asWritten).Yields (intact default) (restore default))
    (hfields : (Json.obj fields).Regular)
    (hread : Validation.optional key default read fields = .valid a) :
    (reread (write a).asWritten).Yields (intact a) (restore a) := by
  unfold Validation.optional at hread
  split at hread
  next found hfound =>
    exact h _ a (regular_of_find? hfields hfound) (Checked.under_eq_valid.mp hread)
  next =>
    cases hread
    exact hdefault

/-- A field that is there yields what its value yields. -/
theorem yields_required {value : Json} (h : (read value).Yields condition a)
    (hvalue : Json.lookup key.wire fields = some value) :
    (Validation.required key read fields).Yields condition a := by
  unfold Validation.required Key.find?
  rw [hvalue]
  exact h.under _

theorem yields_optional {value : Json} (h : (read value).Yields condition a)
    (hvalue : Json.lookup key.wire fields = some value) :
    (Validation.optional key default read fields).Yields condition a := by
  unfold Validation.optional Key.find?
  rw [hvalue]
  exact h.under _

end

end Montage.Validation
