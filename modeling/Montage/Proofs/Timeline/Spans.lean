/-
  Montage.Proofs.Timeline.Spans

  The length of a timeline and the spans of its elements.  The length is the latest end of an
  element: no element ends later, and one ends then.  Elements of documents that were checked
  start no earlier than zero and last for some time, so they end after zero; and of times after
  zero, the latest does not depend on the order in which they are compared.
-/
import Montage.Proofs.Number.Grid
import Montage.Proofs.Timeline.Order

namespace Montage.Number.Binary64

theorem lt_nan (x : Binary64) : x.lt .nan = false := by
  cases x <;> rfl

theorem ne_nan_of_lt {x y : Binary64} (h : x.lt y = true) : y ≠ .nan := by
  rintro rfl
  rw [lt_nan] at h
  cases h

theorem noLater_refl (x : Binary64) : x.noLater x = true :=
  noLater_iff.mpr (.inr ⟨rfl, Int.le_refl _⟩)

theorem signed_of_eq_zero {x : Binary64} (h : x.eq .zero = true) :
    ∃ negative units, x = .finite negative units ∧ signed negative units = 0 := by
  cases x with
  | nan => cases h
  | infinite negative => cases h
  | finite negative units => exact ⟨negative, units, rfl, of_decide_eq_true h⟩

theorem zero_lt_of_eq {x : Binary64} (h : x.eq .zero = true) (y : Binary64) :
    zero.lt y = x.lt y := by
  obtain ⟨negative, units, rfl, hzero⟩ := signed_of_eq_zero h
  cases y with
  | nan => rfl
  | infinite other => rfl
  | finite other more =>
      rw [zero, lt, lt, hzero]
      rfl

theorem eq_zero_of_eq {x : Binary64} (h : x.eq .zero = true) (y : Binary64) :
    y.eq .zero = y.eq x := by
  obtain ⟨negative, units, rfl, hzero⟩ := signed_of_eq_zero h
  cases y with
  | nan => rfl
  | infinite other => rfl
  | finite other more =>
      rw [zero, eq, eq, hzero]
      rfl

/-- A number that is no NaN comes no later than one that is not below it. -/
theorem lt_eq_false_iff {x y : Binary64} (hx : x ≠ .nan) (hy : y ≠ .nan) :
    y.lt x = false ↔ x.noLater y = true := by
  rw [noLater_eq_not_lt hx hy, Bool.not_eq_true']

end Montage.Number.Binary64

namespace Montage.Timeline

open Montage.Number

/-! ## The latest of several times -/

theorem later_ne_nan {first : Binary64} (h : first ≠ .nan) (second : Binary64) :
    later first second ≠ .nan := by
  unfold later
  split
  next hlt => exact Binary64.ne_nan_of_lt hlt
  next => exact h

theorem later_mem (first second : Binary64) : later first second ∈ [first, second] := by
  unfold later
  split <;> simp

theorem noLater_later {first : Binary64} (h : first ≠ .nan) (second : Binary64) :
    first.noLater (later first second) = true ∧ (later first second).lt second = false := by
  unfold later
  split
  next hlt =>
    have hsecond := Binary64.ne_nan_of_lt hlt
    have htotal := Binary64.noLater_total first second
    rw [Binary64.noLater_eq_not_lt hsecond h, hlt, Bool.not_true, Bool.or_false] at htotal
    exact ⟨htotal, (Binary64.lt_eq_false_iff hsecond hsecond).mpr (Binary64.noLater_refl second)⟩
  next hlt => exact ⟨Binary64.noLater_refl first, Bool.eq_false_iff.mpr hlt⟩

/-- The latest of some times, the first of which is a number, is one of them, and none is
later. -/
theorem foldl_later {first : Binary64} (h : first ≠ .nan) (rest : List Binary64) :
    rest.foldl later first ≠ .nan ∧ rest.foldl later first ∈ first :: rest ∧
      ∀ time ∈ first :: rest, (rest.foldl later first).lt time = false := by
  induction rest generalizing first with
  | nil =>
      refine ⟨h, List.mem_cons_self, fun time htime => ?_⟩
      obtain rfl := List.mem_singleton.mp htime
      exact (Binary64.lt_eq_false_iff h h).mpr (Binary64.noLater_refl time)
  | cons second rest ih =>
      have hlater := later_ne_nan h second
      obtain ⟨hnumber, hmem, hnone⟩ := ih hlater
      obtain ⟨hfirst, hsecond⟩ := noLater_later h second
      rw [List.foldl_cons]
      -- what is not below the later of two times is below neither
      have hrank := (Binary64.lt_eq_false_iff hlater hnumber).mp (hnone _ List.mem_cons_self)
      have hbound : ∀ time, (later first second).lt time = false →
          (rest.foldl later (later first second)).lt time = false := by
        intro time hlt
        by_cases htime : time = .nan
        · rw [htime]
          exact Binary64.lt_nan _
        · rw [Binary64.lt_eq_false_iff htime hnumber]
          rw [Binary64.lt_eq_false_iff htime hlater] at hlt
          exact Binary64.noLater_trans hlt hrank
      refine ⟨hnumber, ?_, fun time htime => ?_⟩
      · rcases List.mem_cons.mp hmem with hsame | hrest
        · rw [hsame]
          have hpair := later_mem first second
          simp only [List.mem_cons, List.not_mem_nil, or_false] at hpair ⊢
          exact hpair.imp_right .inl
        · exact List.mem_cons_of_mem _ (List.mem_cons_of_mem _ hrest)
      · rcases List.mem_cons.mp htime with rfl | hmore
        · exact hbound time ((Binary64.lt_eq_false_iff h hlater).mpr hfirst)
        · rcases List.mem_cons.mp hmore with rfl | hrest
          · exact hbound time hsecond
          · exact hnone time (List.mem_cons_of_mem _ hrest)

theorem foldl_later_nan (rest : List Binary64) : rest.foldl later .nan = .nan := by
  induction rest with
  | nil => rfl
  | cons second rest ih => exact ih

/-! ## The length of a timeline -/

/-- Whether a time is the latest end of an element: no element ends later, and one ends then;
without elements, it is zero. -/
structure IsLatestEnd (tracks : List Track) (time : Binary64) : Prop where
  noneLater : ∀ track ∈ tracks, ∀ element ∈ track.elements, time.lt element.endTime = false
  reached : (∃ track ∈ tracks, ∃ element ∈ track.elements, element.endTime.eq time = true) ∨
    (∀ track ∈ tracks, track.elements = []) ∧ time = .zero

theorem isLatestEnd_duration {tracks : List Track} (h : duration tracks ≠ .nan) :
    IsLatestEnd tracks (duration tracks) := by
  have hends : ∀ time, time ∈ tracks.flatMap (fun track => track.elements.map Element.endTime) ↔
      ∃ track ∈ tracks, ∃ element ∈ track.elements, element.endTime = time := by
    intro time
    simp only [List.mem_flatMap, List.mem_map]
  unfold duration at h ⊢
  cases hall : tracks.flatMap fun track => track.elements.map Element.endTime with
  | nil =>
      have hnone : ∀ track ∈ tracks, track.elements = [] := fun track htrack =>
        List.map_eq_nil_iff.mp (List.flatMap_eq_nil_iff.mp hall track htrack)
      refine ⟨fun track htrack element helement => ?_, .inr ⟨hnone, rfl⟩⟩
      rw [hnone track htrack] at helement
      cases helement
  | cons first rest =>
      rw [hall] at h hends
      have hfirst : first ≠ .nan := by
        rintro rfl
        exact h (foldl_later_nan rest)
      obtain ⟨hnumber, hmem, hnone⟩ := foldl_later hfirst rest
      refine ⟨fun track htrack element helement => ?_, .inl ?_⟩
      · exact hnone _ ((hends _).mpr ⟨track, htrack, element, helement, rfl⟩)
      · obtain ⟨track, htrack, element, helement, hend⟩ := (hends _).mp hmem
        refine ⟨track, htrack, element, helement, ?_⟩
        rw [hend]
        exact Binary64.eq_self hnumber

/-- The sign of a zero does not matter. -/
theorem IsLatestEnd.zero {tracks : List Track} {time : Binary64} (h : IsLatestEnd tracks time)
    (hzero : time.eq .zero = true) : IsLatestEnd tracks .zero := by
  refine ⟨fun track htrack element helement => ?_, ?_⟩
  · rw [Binary64.zero_lt_of_eq hzero]
    exact h.noneLater track htrack element helement
  · refine h.reached.imp ?_ fun hnone => ⟨hnone.1, rfl⟩
    rintro ⟨track, htrack, element, helement, hend⟩
    exact ⟨track, htrack, element, helement, (Binary64.eq_zero_of_eq hzero _).trans hend⟩

end Montage.Timeline

namespace Montage.Number

/-- Rounding does not make a number vanish. -/
theorem roundToPrecision_one_ne_zero {precision whole : Nat} (hprecision : 0 < precision)
    (h : whole ≠ 0) : roundToPrecision precision whole 1 ≠ 0 := by
  have hfits : 2 ^ excessBits precision whole ≤ whole := by
    refine Nat.le_trans (Nat.pow_le_pow_right (by decide) ?_) (Nat.log2_self_le h)
    show whole.log2 + 1 - precision ≤ whole.log2
    omega
  have hone : 1 ≤ whole / 2 ^ excessBits precision whole :=
    (Nat.le_div_iff_mul_le (Nat.two_pow_pos _)).mpr (by rw [Nat.one_mul]; exact hfits)
  have hround := Nat.le_trans hone (div_le_roundDiv whole (2 ^ excessBits precision whole))
  rw [roundToPrecision, Nat.div_one, Nat.one_mul, Nat.pow_eq]
  exact Nat.mul_ne_zero (Nat.ne_of_gt hround) (Nat.ne_of_gt (Nat.two_pow_pos _))

namespace Binary64

/-! ## Times after zero -/

theorem zero_lt_ofUnits {units : Nat} (h : units ≠ 0) : zero.lt (ofUnits false units) = true := by
  unfold ofUnits
  split
  · show decide ((0 : Int) < (units : Int)) = true
    exact decide_eq_true (by omega)
  · rfl

theorem zero_le_finite {negative : Bool} {units : Nat} :
    zero.le (.finite negative units) = true ↔ 0 ≤ signed negative units := by
  simp only [le, lt, eq, zero, signed, Bool.or_eq_true]
  split <;> simp <;> omega

theorem zero_lt_finite {negative : Bool} {units : Nat} :
    zero.lt (.finite negative units) = true ↔ 0 < signed negative units := by
  simp [lt, zero, signed]

/-- What starts at zero or later and lasts for some time ends after zero. -/
theorem zero_lt_add {x y : Binary64} (hx : zero.le x = true) (hy : zero.lt y = true) :
    zero.lt (x.add y) = true := by
  cases x with
  | nan => cases hx
  | infinite negative =>
      cases negative with
      | true => cases hx
      | false =>
          cases y with
          | nan => cases hy
          | infinite other =>
              cases other with
              | true => cases hy
              | false => rfl
          | finite other more => rfl
  | finite negative units =>
      cases y with
      | nan => cases hy
      | infinite other => exact hy
      | finite other more =>
          have hsum : 0 < signed negative units + signed other more := by
            have := zero_le_finite.mp hx
            have := zero_lt_finite.mp hy
            omega
          have hne : signed negative units + signed other more ≠ 0 := by omega
          have hpositive : decide (signed negative units + signed other more < 0) = false :=
            decide_eq_false (by omega)
          show zero.lt (if signed negative units + signed other more = 0 then _ else _) = true
          rw [if_neg hne, hpositive, ofQuotient]
          exact zero_lt_ofUnits
            (roundToPrecision_one_ne_zero (by decide) (Int.natAbs_ne_zero.mpr hne))

/-- Times after zero of which neither is earlier are the same. -/
theorem eq_of_lt_eq_false {x y : Binary64} (hx : zero.lt x = true) (hy : zero.lt y = true)
    (h : x.lt y = false) (h' : y.lt x = false) : x = y := by
  cases x with
  | nan => cases hx
  | infinite negative =>
      cases negative with
      | true => cases hx
      | false =>
          cases y with
          | nan => cases hy
          | infinite other =>
              cases other with
              | true => cases hy
              | false => rfl
          | finite other more => cases h'
  | finite negative units =>
      cases y with
      | nan => cases hy
      | infinite other =>
          cases other with
          | true => cases hy
          | false => cases h
      | finite other more =>
          have hxpos := zero_lt_finite.mp hx
          have hypos := zero_lt_finite.mp hy
          have hle := of_decide_eq_false h
          have hle' := of_decide_eq_false h'
          cases negative <;> cases other <;> simp only [signed] at * <;> grind

end Binary64

end Montage.Number

namespace Montage.Timeline

open Montage.Number Montage.Validation

/-! ## Elements that were checked -/

/-- Whether an element starts at zero or later and lasts for some time. -/
structure Slot.IsSpan (slot : Slot) : Prop where
  starts : Binary64.zero.le slot.startTime = true
  lasts : Binary64.zero.lt slot.duration = true

/-- Whether all elements of some tracks are spans. -/
def AreSpanned (tracks : List Track) : Prop :=
  ∀ track ∈ tracks, ∀ element ∈ track.elements, element.slot.IsSpan

theorem Slot.IsSpan.zero_lt_endTime {slot : Slot} (h : slot.IsSpan) :
    Binary64.zero.lt slot.endTime = true :=
  Binary64.zero_lt_add h.starts h.lasts

theorem zero_le_of_checkNonnegativeReal {value : Json} {x : Binary64}
    (h : checkNonnegativeReal value = .valid x) : Binary64.zero.le x = true := by
  obtain ⟨y, -, htest⟩ := Checked.andThen_eq_valid.mp h
  split at htest
  next hle =>
    cases htest
    exact hle
  next => cases htest

theorem zero_lt_of_checkPositiveReal {value : Json} {x : Binary64}
    (h : checkPositiveReal value = .valid x) : Binary64.zero.lt x = true := by
  obtain ⟨y, -, htest⟩ := Checked.andThen_eq_valid.mp h
  split at htest
  next hlt =>
    cases htest
    exact hlt
  next => cases htest

theorem isSpan_of_checkSlot {fields : List (String × Json)} {slot : Slot}
    (h : checkSlot fields = .valid slot) : slot.IsSpan := by
  simp only [checkSlot, Checked.ap_eq_valid, Checked.fmap_eq_valid, ↓existsAndEq, and_true] at h
  obtain ⟨_, _, _, _, _, ⟨⟨-, hstart⟩, hduration⟩, -, rfl⟩ := h
  obtain ⟨_, hstart⟩ := exists_of_required hstart
  obtain ⟨_, hduration⟩ := exists_of_required hduration
  exact ⟨zero_le_of_checkNonnegativeReal hstart, zero_lt_of_checkPositiveReal hduration⟩

/-- The elements of a document that was checked are spans. -/
theorem areSpanned_of_checkDocument {rule : ObjectRule} {value : Json} {document : Document}
    (h : checkDocument rule value = .valid document) : AreSpanned document.tracks := by
  intro track htrack element helement
  obtain ⟨_, hslot⟩ := exists_slot_of_checkDocument h track htrack element helement
  exact isSpan_of_checkSlot hslot

/-! ## The latest end -/

/-- The latest of times after zero does not depend on their order. -/
theorem latest_eq_of_perm {times others : List Binary64}
    (hafter : ∀ time ∈ times, Binary64.zero.lt time = true) (h : times.Perm others) :
    latest times = latest others := by
  have hafter' : ∀ time ∈ others, Binary64.zero.lt time = true :=
    fun time hmem => hafter time (h.mem_iff.mpr hmem)
  cases times with
  | nil =>
      rw [h.nil_eq]
  | cons first rest =>
      cases others with
      | nil => cases h.eq_nil
      | cons second more =>
          have hfirst := Binary64.ne_nan_of_lt (hafter first List.mem_cons_self)
          have hsecond := Binary64.ne_nan_of_lt (hafter' second List.mem_cons_self)
          obtain ⟨-, hmem, hnone⟩ := foldl_later hfirst rest
          obtain ⟨-, hmem', hnone'⟩ := foldl_later hsecond more
          -- each of the two latest times is among the times that the other is compared with
          exact Binary64.eq_of_lt_eq_false (hafter _ hmem) (hafter' _ hmem')
            (hnone _ (h.mem_iff.mpr hmem')) (hnone' _ (h.mem_iff.mp hmem))

theorem zero_lt_of_mem_ends {tracks : List Track} (h : AreSpanned tracks) :
    ∀ time ∈ tracks.flatMap (fun track => track.elements.map Element.endTime),
      Binary64.zero.lt time = true := by
  intro time hmem
  obtain ⟨track, htrack, hend⟩ := List.mem_flatMap.mp hmem
  obtain ⟨element, helement, rfl⟩ := List.mem_map.mp hend
  exact (h track htrack element helement).zero_lt_endTime

end Montage.Timeline
