/-
  Montage.Proofs.Timeline.Order

  Timeline order.  The elements of a track are visited by start time, and those that
  start together in the order of the track, as long as every start time is a number; the
  start times of documents that were checked are numbers.
-/
import Mathlib.Tactic.Simproc.ExistsAndEq
import Montage.Proofs.Validation.Faithful
import Montage.Timeline.Reader
import Montage.Timeline.Schedule

namespace Montage.Number.Binary64

/-! ## Numbers in order -/

/-- The place of a number in the order of numbers, first by whether it is below, among or
above the finite ones; a NaN, which has none, is put last. -/
def rank : Binary64 → Int × Int
  | .finite negative units => (0, signed negative units)
  | .infinite true => (-1, 0)
  | .infinite false => (1, 0)
  | .nan => (1, 0)

/-- The order of numbers by rank, which is total even where one of them is a NaN. -/
def noLater (x y : Binary64) : Bool :=
  decide (x.rank.1 < y.rank.1 ∨ x.rank.1 = y.rank.1 ∧ x.rank.2 ≤ y.rank.2)

theorem noLater_iff {x y : Binary64} : x.noLater y = true ↔
    x.rank.1 < y.rank.1 ∨ x.rank.1 = y.rank.1 ∧ x.rank.2 ≤ y.rank.2 :=
  decide_eq_true_iff

theorem noLater_trans {x y z : Binary64} (h : x.noLater y = true) (h' : y.noLater z = true) :
    x.noLater z = true := by
  rw [noLater_iff] at h h' ⊢
  omega

theorem noLater_total (x y : Binary64) : (x.noLater y || y.noLater x) = true := by
  rw [Bool.or_eq_true, noLater_iff, noLater_iff]
  omega

/-- Between two numbers, neither of which is a NaN, the order by rank is the order. -/
theorem noLater_eq_not_lt {x y : Binary64} (hx : x ≠ .nan) (hy : y ≠ .nan) :
    x.noLater y = !y.lt x := by
  cases x with
  | nan => exact absurd rfl hx
  | infinite negative =>
      cases y with
      | nan => exact absurd rfl hy
      | infinite other => cases negative <;> cases other <;> rfl
      | finite other units => cases negative <;> simp [lt, noLater, rank]
  | finite negative units =>
      cases y with
      | nan => exact absurd rfl hy
      | infinite other => cases other <;> simp [lt, noLater, rank]
      | finite other more =>
          rw [Bool.eq_iff_iff]
          simp [lt, noLater, rank]

theorem rank_eq_of_eq {x y : Binary64} (h : x.eq y = true) : x.rank = y.rank := by
  cases x <;> cases y <;> simp_all [eq, rank]

theorem eq_self {x : Binary64} (h : x ≠ .nan) : x.eq x = true := by
  cases x with
  | nan => exact absurd rfl h
  | infinite negative => simp [eq]
  | finite negative units => simp [eq]

theorem not_lt_self (x : Binary64) : ¬ x.lt x = true := by
  cases x <;> simp [lt]

/-- Two numbers of which neither is smaller are equal. -/
theorem eq_of_not_lt {x y : Binary64} (hx : x ≠ .nan) (hy : y ≠ .nan) (h : ¬ x.lt y = true)
    (h' : ¬ y.lt x = true) : x.eq y = true := by
  cases x with
  | nan => exact absurd rfl hx
  | infinite negative =>
      cases y with
      | nan => exact absurd rfl hy
      | infinite other => cases negative <;> cases other <;> simp_all [lt, eq]
      | finite other more => cases negative <;> simp_all [lt]
  | finite negative units =>
      cases y with
      | nan => exact absurd rfl hy
      | infinite other => cases other <;> simp_all [lt]
      | finite other more =>
          simp only [lt, eq, decide_eq_true_eq] at *
          omega

theorem ne_nan_of_le {x y : Binary64} (h : x.le y = true) : y ≠ .nan := by
  rintro rfl
  cases x <;> simp [le, lt, eq] at h

end Montage.Number.Binary64

namespace Montage.Timeline

open Montage.Number Montage.Validation

/-! ## Order of elements -/

/-- Whether an element starts at a time. -/
def Element.startsAt (time : Binary64) (element : Element) : Bool :=
  element.slot.startTime.eq time

/-- Elements by start time; those that start together stand as they stood before. -/
structure InStartOrder (elements sorted : List Element) : Prop where
  perm : sorted.Perm elements
  ordered : sorted.Pairwise fun first second =>
    ¬ second.slot.startTime.lt first.slot.startTime = true
  stable : ∀ time, sorted.filter (Element.startsAt time) = elements.filter (Element.startsAt time)

/-- Whether all elements of a document start at times that are numbers. -/
def Document.Timed (document : Document) : Prop :=
  ∀ track ∈ document.tracks, ∀ element ∈ track.elements, element.slot.startTime ≠ .nan

/-- The order of elements by the rank of their start times. -/
def ranksNoLater (first second : Element) : Bool :=
  first.slot.startTime.noLater second.slot.startTime

theorem ranksNoLater_trans (first second third : Element) (h : ranksNoLater first second = true)
    (h' : ranksNoLater second third = true) : ranksNoLater first third = true :=
  Binary64.noLater_trans h h'

theorem ranksNoLater_total (first second : Element) :
    (ranksNoLater first second || ranksNoLater second first) = true :=
  Binary64.noLater_total _ _

/-- Without NaN, elements are sorted by rank. -/
theorem sortedElements_eq_mergeSort {track : Track}
    (h : ∀ element ∈ track.elements, element.slot.startTime ≠ .nan) :
    track.sortedElements = track.elements.mergeSort ranksNoLater := by
  have hsame : ∀ first ∈ track.elements, ∀ second ∈ track.elements,
      startsNoLater first second = ranksNoLater (id first) (id second) :=
    fun first hfirst second hsecond =>
      (Binary64.noLater_eq_not_lt (h first hfirst) (h second hsecond)).symm
  have hsorted := List.map_mergeSort hsame
  simpa [Track.sortedElements] using hsorted

theorem filter_startsAt_sublist {track : Track}
    (h : ∀ element ∈ track.elements, element.slot.startTime ≠ .nan) (time : Binary64) :
    (track.elements.filter (Element.startsAt time)).Sublist track.sortedElements := by
  rw [sortedElements_eq_mergeSort h]
  refine List.sublist_mergeSort ranksNoLater_trans ranksNoLater_total ?_ List.filter_sublist
  -- elements that start at one time do not start one after the other
  refine List.pairwise_of_forall_mem_list fun first hfirst second hsecond => ?_
  have hrank := Binary64.rank_eq_of_eq (List.mem_filter.mp hfirst).2
  have hrank' := Binary64.rank_eq_of_eq (List.mem_filter.mp hsecond).2
  simp [ranksNoLater, Binary64.noLater, hrank, hrank']

/-- The elements of a track are visited in the order in which they start. -/
theorem inStartOrder_sortedElements {track : Track}
    (h : ∀ element ∈ track.elements, element.slot.startTime ≠ .nan) :
    InStartOrder track.elements track.sortedElements := by
  have hperm := sortedElements_perm track
  refine ⟨hperm, ?_, fun time => ?_⟩
  · have hsorted : track.sortedElements.Pairwise (ranksNoLater · ·) := by
      rw [sortedElements_eq_mergeSort h]
      exact List.pairwise_mergeSort ranksNoLater_trans ranksNoLater_total track.elements
    refine hsorted.imp_of_mem fun hfirst hsecond hle hlt => ?_
    have hfirst' := h _ (hperm.mem_iff.mp hfirst)
    have hsecond' := h _ (hperm.mem_iff.mp hsecond)
    rw [ranksNoLater, Binary64.noLater_eq_not_lt hfirst' hsecond', hlt] at hle
    cases hle
  · -- a sublist of the same length is the list itself
    have hsub := (filter_startsAt_sublist h time).filter (Element.startsAt time)
    rw [List.filter_filter] at hsub
    simp only [Bool.and_self] at hsub
    exact (hsub.eq_of_length (hperm.filter _).length_eq.symm).symm

/-! ## One order -/

section Unique

variable {sorted other : List Element}

theorem mem_of_filter_startsAt_eq {element : Element}
    (h : ∀ time, sorted.filter (Element.startsAt time) = other.filter (Element.startsAt time))
    (hnumber : element.slot.startTime ≠ .nan) (hmem : element ∈ sorted) : element ∈ other := by
  have hself : element ∈ sorted.filter (Element.startsAt element.slot.startTime) :=
    List.mem_filter.mpr ⟨hmem, Binary64.eq_self hnumber⟩
  rw [h] at hself
  exact (List.mem_filter.mp hself).1

/-- A list in the order of start times is determined by the lists of its elements that start
together. -/
theorem eq_of_filter_startsAt_eq
    (hnumber : ∀ element ∈ sorted, element.slot.startTime ≠ .nan)
    (hnumber' : ∀ element ∈ other, element.slot.startTime ≠ .nan)
    (hsorted : sorted.Pairwise fun first second =>
      ¬ second.slot.startTime.lt first.slot.startTime = true)
    (hother : other.Pairwise fun first second =>
      ¬ second.slot.startTime.lt first.slot.startTime = true)
    (h : ∀ time, sorted.filter (Element.startsAt time) = other.filter (Element.startsAt time)) :
    sorted = other := by
  induction sorted generalizing other with
  | nil =>
      cases other with
      | nil => rfl
      | cons second rest =>
          cases mem_of_filter_startsAt_eq (fun time => (h time).symm)
            (hnumber' second List.mem_cons_self) List.mem_cons_self
  | cons first rest ih =>
      have hfirst := hnumber first List.mem_cons_self
      cases other with
      | nil => cases mem_of_filter_startsAt_eq h hfirst List.mem_cons_self
      | cons second others =>
          have hsecond := hnumber' second List.mem_cons_self
          have hmem := mem_of_filter_startsAt_eq h hfirst List.mem_cons_self
          have hmem' := mem_of_filter_startsAt_eq (fun time => (h time).symm) hsecond
            List.mem_cons_self
          -- each of the two heads is in the other list, so neither starts before the other
          have hnot : ¬ first.slot.startTime.lt second.slot.startTime = true := by
            rcases List.mem_cons.mp hmem with rfl | hin
            · exact Binary64.not_lt_self _
            · exact List.rel_of_pairwise_cons hother hin
          have hnot' : ¬ second.slot.startTime.lt first.slot.startTime = true := by
            rcases List.mem_cons.mp hmem' with rfl | hin
            · exact Binary64.not_lt_self _
            · exact List.rel_of_pairwise_cons hsorted hin
          have htogether : first.startsAt second.slot.startTime = true :=
            Binary64.eq_of_not_lt hfirst hsecond hnot hnot'
          have hself : second.startsAt second.slot.startTime = true := Binary64.eq_self hsecond
          have hheads := h second.slot.startTime
          rw [List.filter_cons_of_pos htogether, List.filter_cons_of_pos hself] at hheads
          obtain ⟨rfl, -⟩ := List.cons.inj hheads
          refine congrArg (first :: ·) (ih (fun element hin => hnumber element (.tail _ hin))
            (fun element hin => hnumber' element (.tail _ hin)) hsorted.tail hother.tail ?_)
          intro time
          have hlists := h time
          rw [List.filter_cons, List.filter_cons] at hlists
          split at hlists
          · exact (List.cons.inj hlists).2
          · exact hlists

end Unique

/-- Elements in another order, in which those that start together stand as they stood before. -/
structure Rearranged (elements others : List Element) : Prop where
  perm : others.Perm elements
  stable : ∀ time, others.filter (Element.startsAt time) = elements.filter (Element.startsAt time)

/-- Elements that stand next to each other and do not start together may change places. -/
theorem rearranged_swap {first second : Element} (rest : List Element)
    (h : first.slot.startTime.rank ≠ second.slot.startTime.rank) :
    Rearranged (first :: second :: rest) (second :: first :: rest) := by
  refine ⟨.swap _ _ _, fun time => ?_⟩
  by_cases hfirst : first.startsAt time = true
  · have hsecond : ¬ second.startsAt time = true := fun hboth =>
      h ((Binary64.rank_eq_of_eq hfirst).trans (Binary64.rank_eq_of_eq hboth).symm)
    rw [List.filter_cons_of_neg hsecond, List.filter_cons_of_pos hfirst,
      List.filter_cons_of_pos hfirst, List.filter_cons_of_neg hsecond]
  · simp only [List.filter_cons, hfirst]
    rfl

/-- The order in which the elements of a track are visited does not depend on the order in which
the track lists those that do not start together. -/
theorem sortedElements_eq_of_rearranged {track other : Track}
    (hnumber : ∀ element ∈ track.elements, element.slot.startTime ≠ .nan)
    (h : Rearranged track.elements other.elements) :
    other.sortedElements = track.sortedElements := by
  have hother : ∀ element ∈ other.elements, element.slot.startTime ≠ .nan :=
    fun element hmem => hnumber element (h.perm.mem_iff.mp hmem)
  have hsorted := inStartOrder_sortedElements hnumber
  have hsorted' := inStartOrder_sortedElements hother
  refine eq_of_filter_startsAt_eq (fun element hmem => hother element (hsorted'.perm.mem_iff.mp hmem))
    (fun element hmem => hnumber element (hsorted.perm.mem_iff.mp hmem)) hsorted'.ordered
    hsorted.ordered fun time => ?_
  rw [hsorted'.stable, hsorted.stable, h.stable]

/-! ## Documents that were checked -/

theorem checkObject_eq_valid {α : Type} {rule : ObjectRule} {model : String}
    {read : List (String × Json) → Checked α} {value : Json} {a : α}
    (h : checkObject rule model read value = .valid a) :
    ∃ fields, read fields = .valid a := by
  unfold checkObject at h
  split at h
  · exact ⟨_, h⟩
  · cases h

theorem ne_nan_of_checkNonnegativeReal {value : Json} {x : Binary64}
    (h : checkNonnegativeReal value = .valid x) : x ≠ .nan := by
  obtain ⟨y, -, htest⟩ := Checked.andThen_eq_valid.mp h
  split at htest
  next hle =>
    cases htest
    exact Binary64.ne_nan_of_le hle
  next => cases htest

theorem ne_nan_of_checkSlot {fields : List (String × Json)} {slot : Slot}
    (h : checkSlot fields = .valid slot) : slot.startTime ≠ .nan := by
  simp only [checkSlot, Checked.ap_eq_valid, Checked.fmap_eq_valid, ↓existsAndEq, and_true] at h
  obtain ⟨_, _, startTime, _, _, ⟨⟨-, hstart⟩, -⟩, -, rfl⟩ := h
  obtain ⟨_, hread⟩ := exists_of_required hstart
  exact ne_nan_of_checkNonnegativeReal hread

/-- The slot of an element was read from the fields of the element. -/
theorem exists_slot_of_checkElement {rule : ObjectRule} {value : Json} {element : Element}
    (h : checkElement rule value = .valid element) :
    ∃ fields, checkSlot fields = .valid element.slot := by
  unfold checkElement at h
  split at h
  · split at h
    · cases h
    · split at h
      · obtain ⟨media, hread, rfl⟩ := Checked.map_eq_valid.mp (Checked.under_eq_valid.mp h)
        obtain ⟨fields, hfields⟩ := checkObject_eq_valid hread
        simp only [Checked.ap_eq_valid, Checked.fmap_eq_valid, ↓existsAndEq, and_true] at hfields
        obtain ⟨_, _, _, _, _, _, slot, ⟨⟨⟨⟨⟨hslot, -⟩, -⟩, -⟩, -⟩, -⟩, -, rfl⟩ := hfields
        exact ⟨fields, hslot⟩
      · obtain ⟨text, hread, rfl⟩ := Checked.map_eq_valid.mp (Checked.under_eq_valid.mp h)
        obtain ⟨fields, hfields⟩ := checkObject_eq_valid hread
        simp only [Checked.ap_eq_valid, Checked.fmap_eq_valid, ↓existsAndEq, and_true] at hfields
        obtain ⟨_, _, _, _, _, _, _, _, slot, ⟨⟨⟨⟨⟨⟨⟨hslot, -⟩, -⟩, -⟩, -⟩, -⟩, -⟩, -⟩, -, rfl⟩ :=
          hfields
        exact ⟨fields, hslot⟩
      · cases h
  · cases h

theorem exists_slot_of_checkTrack {rule : ObjectRule} {value : Json} {track : Track}
    (h : checkTrack rule value = .valid track) :
    ∀ element ∈ track.elements, ∃ fields, checkSlot fields = .valid element.slot := by
  obtain ⟨_, hfields⟩ := checkObject_eq_valid h
  simp only [Checked.ap_eq_valid, Checked.fmap_eq_valid, ↓existsAndEq, and_true] at hfields
  obtain ⟨elements, _, _, _, -, helements, rfl⟩ := hfields
  intro element helement
  rcases eq_default_or_exists helements with rfl | ⟨_, hread⟩
  · cases helement
  · obtain ⟨_, hitem⟩ := exists_of_mem_checkList hread helement
    exact exists_slot_of_checkElement hitem

/-- The slots of all elements of a document that was checked were checked. -/
theorem exists_slot_of_checkDocument {rule : ObjectRule} {value : Json} {document : Document}
    (h : checkDocument rule value = .valid document) :
    ∀ track ∈ document.tracks, ∀ element ∈ track.elements,
      ∃ fields, checkSlot fields = .valid element.slot := by
  obtain ⟨_, hfields⟩ := checkObject_eq_valid h
  simp only [Checked.ap_eq_valid, Checked.fmap_eq_valid, ↓existsAndEq, and_true] at hfields
  obtain ⟨_, tracks, _, ⟨-, htracks⟩, -, rfl⟩ := hfields
  intro track htrack
  rcases eq_default_or_exists htracks with rfl | ⟨_, hread⟩
  · cases htrack
  · obtain ⟨_, hitem⟩ := exists_of_mem_checkList hread htrack
    exact exists_slot_of_checkTrack hitem

/-- The elements of a document that was checked start at times that are numbers. -/
theorem timed_of_checkDocument {rule : ObjectRule} {value : Json} {document : Document}
    (h : checkDocument rule value = .valid document) : document.Timed := by
  intro track htrack element helement
  obtain ⟨_, hslot⟩ := exists_slot_of_checkDocument h track htrack element helement
  exact ne_nan_of_checkSlot hslot

end Montage.Timeline
