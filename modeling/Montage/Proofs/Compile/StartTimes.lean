/-
  Montage.Proofs.Compile.StartTimes

  The start of a clip in the picture and in the sound.  The picture is moved by the start
  itself, rounded to milliseconds; the sound is delayed by a thousand times the start, which is
  rounded to a double first and then to a whole number.  The two agree unless the first of
  these roundings carries the number over a half millisecond, or onto one from its wrong side.
-/
import Montage.Proofs.Compile.Totality
import Montage.Proofs.Compile.Windows
import Montage.Proofs.Number.Halves

namespace Montage.Number.Binary64

/-! ## Whole milliseconds -/

/-- The double nearest to a number of thousandths is rounded to that number, whether it is
    multiplied exactly or as doubles are. -/
theorem round_thousandths {count units : Nat} (hpos : 0 < count) (hcount : count ≤ 2 ^ 50)
    (hunits : units = roundToPrecision precision (count * unitsPerOne) 1000) :
    Decimal.fixedCount 3 units = count ∧
      ((finite false units).mul (.ofNat 1000)).toNearestInt = .ok (count : Int) := by
  have hone : 2 ^ 70 ≤ unitsPerOne := by decide +kernel
  have hend : 2 ^ 52 * unitsPerOne < overflowHalfway := by decide +kernel
  have hunit := Decimal.unitsPerOne_pos
  have hleast : unitsPerOne ≤ count * unitsPerOne := Nat.le_mul_of_pos_left _ hpos
  have hmost : count * unitsPerOne ≤ 2 ^ 50 * unitsPerOne := Nat.mul_le_mul_right _ hcount
  -- the double is very near to the thousandths
  have hlarge : 2 ^ 52 ≤ count * unitsPerOne / 1000 := by omega
  obtain ⟨habove, hbelow⟩ := roundToPrecision_near (by decide) hlarge
  rw [← hunits] at habove hbelow
  -- and the product of doubles is very near to that
  have hsplit : units * (1000 * unitsPerOne) = 1000 * units * unitsPerOne := by ring
  have hwhole : units * (1000 * unitsPerOne) / unitsPerOne = 1000 * units := by
    rw [hsplit, Nat.mul_div_cancel _ hunit]
  have hproduct : 2 ^ 52 ≤ units * (1000 * unitsPerOne) / unitsPerOne := by omega
  obtain ⟨habove', hbelow'⟩ := roundToPrecision_near hunit hproduct
  have hrange : units * (1000 * unitsPerOne) < overflowHalfway * unitsPerOne := by
    rw [hsplit]
    exact Nat.mul_lt_mul_of_pos_right (by omega) hunit
  rw [Compile.mul_thousand, ofQuotient_eq_ite false _ hunit, if_pos hrange]
  generalize roundToPrecision precision (units * (1000 * unitsPerOne)) unitsPerOne = product
    at habove' hbelow' ⊢
  have hmore : 2 ^ 53 * (1000 * units) ≤ 2 ^ 53 * product + 1000 * units := by
    refine Nat.le_of_mul_le_mul_right ?_ hunit
    calc 2 ^ 53 * (1000 * units) * unitsPerOne
        = 2 ^ 53 * (units * (1000 * unitsPerOne)) := by ring
      _ ≤ 2 ^ 53 * (unitsPerOne * product) + units * (1000 * unitsPerOne) := habove'
      _ = (2 ^ 53 * product + 1000 * units) * unitsPerOne := by ring
  have hless : 2 ^ 53 * product ≤ 2 ^ 53 * (1000 * units) + 1000 * units := by
    refine Nat.le_of_mul_le_mul_right ?_ hunit
    calc 2 ^ 53 * product * unitsPerOne = 2 ^ 53 * (unitsPerOne * product) := by ring
      _ ≤ 2 ^ 53 * (units * (1000 * unitsPerOne)) + units * (1000 * unitsPerOne) := hbelow'
      _ = (2 ^ 53 * (1000 * units) + 1000 * units) * unitsPerOne := by ring
  constructor
  · have hpower : units * Nat.pow 10 3 = 1000 * units := Nat.mul_comm units 1000
    rw [Decimal.fixedCount, hpower]
    exact roundDiv_eq (by omega) (by omega) (.inr (by omega)) hunit
  · have hround : roundDiv product unitsPerOne = count :=
      roundDiv_eq (by omega) (by omega) (.inr (by omega)) hunit
    show Except.ok (signed false (roundDiv product unitsPerOne)) = _
    rw [hround]
    rfl

/-- A start that is given in whole milliseconds is rounded to these in both ways. -/
theorem start_of_milliseconds {count : Nat} (hcount : count ≤ 2 ^ 50) :
    ∃ units, ofDecimal false count (-3) = .finite false units ∧
      Decimal.fixedCount 3 units = count ∧
      ((finite false units).mul (.ofNat 1000)).toNearestInt = .ok (count : Int) := by
  rcases Nat.eq_zero_or_pos count with rfl | hpos
  · exact ⟨0, rfl, Decimal.fixedCount_zero 3, by decide +kernel⟩
  · exact ⟨_, ofDecimal_thousandths hpos hcount, round_thousandths hpos hcount rfl⟩

end Montage.Number.Binary64

namespace Montage.Compile

open Montage.Filter (Node)
open Montage.Number Montage.Timeline Montage.Validation

/-! ## Offsets and delays -/

/-- Where a video clip starts, as it is written: the offset in the filter that moves its picture,
    in seconds, and the delay of its sound, in milliseconds. -/
structure StartsAt (options : Options) (document : Document) (compilation : Compilation)
    (showing : Showing) (offset : ℚ) (delay : Int) : Prop where
  picture : ∃ node ∈ compilation.graph.nodes, ∃ below above text,
    (Layer.video showing).DrawnBy options document compilation.graph.nodes node below above ∧
    IsPreparedBy compilation.graph.nodes node [offsetBy text] ∧
    numeralValue? 3 text = some offset
  sound : ∃ node ∈ compilation.graph.nodes, IsChainOf document compilation showing node ∧
    node.chain.getLast? =
      some { name := "adelay", args := [.str (toString delay ++ "|" ++ toString delay)] }

theorem exists_of_mem_of_forall₂ {α β : Type} {R : α → β → Prop} {first : List α}
    {second : List β} (h : List.Forall₂ R first second) {a : α} (ha : a ∈ first) :
    ∃ b ∈ second, R a b := by
  induction h with
  | nil => cases ha
  | @cons x y xs ys hxy _ ih =>
      rcases List.mem_cons.mp ha with rfl | hmem
      · exact ⟨y, List.mem_cons_self, hxy⟩
      · obtain ⟨b, hb, hab⟩ := ih hmem
        exact ⟨b, List.mem_cons_of_mem y hb, hab⟩

variable {options : Options} {document : Document} {compilation : Compilation} {showing : Showing}

/-- Every video clip that is heard is moved in the picture by its start in milliseconds, and in
    the sound by its delay. -/
theorem exists_startsAt (h : compile options document = .ok compilation)
    (hheard : showing ∈ heard document) (hkind : showing.asset.kind = .video) {negative : Bool}
    {units : Nat} (hstart : showing.element.startTime = .finite negative units) :
    ∃ delay, delayMilliseconds showing.element.toSlot = .ok delay ∧
      StartsAt options document compilation showing
        ((Binary64.signed negative (Decimal.fixedCount 3 units) : ℚ) / 10 ^ 3) delay := by
  have hlayer : Layer.video showing ∈ layers document :=
    List.mem_append_left _ (List.mem_append_left _ (List.mem_map_of_mem
      (List.mem_filter.mpr ⟨(List.mem_filter.mp hheard).1, decide_eq_true hkind⟩)))
  obtain ⟨strokes, hstrokes, hstacked⟩ := exists_stacked h
  obtain ⟨node, hnode, below, above, hdrawn⟩ :=
    exists_of_mem_of_forall₂ hstacked.forall₂_drawnBy hlayer
  obtain ⟨sounds, hsounds, hchains⟩ := exists_chains h
  obtain ⟨chain, hchain, hown⟩ := exists_of_mem_of_forall₂ hchains hheard
  have hsame := hown
  obtain ⟨number, input, delay, label, -, -, hdelay, rfl⟩ := hown
  refine ⟨delay, hdelay, ?_, _, hsounds.subset hchain, hsame, rfl⟩
  have hoffset := hdrawn
  obtain ⟨prepared, hprepared, rfl⟩ := hoffset
  obtain ⟨before, hbefore, houtputs, hfilters⟩ := hprepared.chain
  refine ⟨_, hstrokes.subset hnode, below, above, Filter.secondsText showing.element.startTime,
    hdrawn, ⟨before, hbefore, prepared, rfl, houtputs, ?_⟩, ?_⟩
  · exact ((List.suffix_cons _ _).trans (List.suffix_append _ _)).trans hfilters
  · rw [hstart]
    exact Decimal.numeralValue?_fixed (by decide) negative units

/-- A delay is the start in milliseconds if rounding the product leaves the start on its side of
    every half. -/
theorem delay_eq_iff {negative : Bool} {units : Nat} {delay : Int}
    (h : ((Binary64.finite negative units).mul (.ofNat 1000)).toNearestInt = .ok delay) :
    ∃ product, ((Binary64.finite negative units).mul (.ofNat 1000)).rat? = some product ∧
      (delay = Binary64.signed negative (Decimal.fixedCount 3 units) ↔
        ∀ whole, LiesBelow whole
            (1000 * ((Binary64.signed negative units : ℚ) / Binary64.unitsPerOne)) ↔
          LiesBelow whole product) := by
  have hunit := Decimal.unitsPerOne_pos
  rw [mul_thousand, Binary64.ofQuotient_eq_ite negative _ hunit] at h ⊢
  split at h
  next hrange =>
    have hthousand : 1000 * ((Binary64.signed negative units : ℚ) / Binary64.unitsPerOne) =
        (Binary64.signed negative (units * Nat.pow 10 3) : ℚ) / Binary64.unitsPerOne := by
      have hscaled : Binary64.signed negative (units * Nat.pow 10 3) =
          1000 * Binary64.signed negative units := by
        cases negative <;> simp [Binary64.signed, mul_comm]
      rw [hscaled]
      push_cast
      ring
    refine ⟨_, by rw [if_pos hrange]; rfl, ?_⟩
    rw [hthousand, ← signed_roundDiv_eq_iff negative negative _ _ hunit, ← Except.ok.inj h]
    exact eq_comm
  next => cases h

/-- Where sound and picture of a video clip start together.  They do if rounding the product of
    the start with a thousand leaves it on its side of every half millisecond, and only then; and
    so it is for a start that is given in whole milliseconds. -/
theorem compile_startsTogether (h : compile options document = .ok compilation)
    (hheard : showing ∈ heard document) (hkind : showing.asset.kind = .video) {exact : ℚ}
    (hstart : showing.element.startTime.rat? = some exact) :
    ∃ offset delay product, StartsAt options document compilation showing offset delay ∧
      (showing.element.startTime.mul (.ofNat 1000)).rat? = some product ∧
      ((delay : ℚ) = 1000 * offset ↔
        ∀ whole, LiesBelow whole (1000 * exact) ↔ LiesBelow whole product) ∧
      ∀ count ≤ 2 ^ 50, showing.element.startTime = .ofDecimal false count (-3) →
        delay = count ∧ 1000 * offset = count := by
  obtain ⟨negative, units, hfinite⟩ :=
    Binary64.exists_finite_of_isFinite (isFinite_of_rat? hstart)
  obtain ⟨delay, hdelay, hstarts⟩ := exists_startsAt h hheard hkind hfinite
  unfold delayMilliseconds at hdelay
  rw [hfinite] at hdelay hstart
  obtain rfl := Option.some.inj hstart
  obtain ⟨product, hproduct, hagree⟩ := delay_eq_iff hdelay
  have hoffset (count : Int) : (1000 : ℚ) * ((count : ℚ) / 10 ^ 3) = count := by
    norm_num
    ring
  refine ⟨_, delay, product, hstarts, hfinite ▸ hproduct, ?_, ?_⟩
  · rw [hoffset, Int.cast_inj]
    exact hagree
  · intro count hcount hwritten
    obtain ⟨start, hstart, hoffset', hdelay'⟩ := Binary64.start_of_milliseconds hcount
    obtain ⟨rfl, rfl⟩ := Binary64.finite.inj (hfinite.symm.trans (hwritten.trans hstart))
    rw [hdelay] at hdelay'
    rw [hoffset, hoffset']
    exact ⟨Except.ok.inj hdelay', rfl⟩

theorem compile_startsTogether_sampleFilm : ∃ document compilation showing exact,
    checkDocument .byModel (sampleFilm (.int 4)) = .valid document ∧
    compile {} document = .ok compilation ∧ showing ∈ heard document ∧
    showing.asset.kind = .video ∧ showing.element.startTime.rat? = some exact ∧
    ∃ offset delay product, StartsAt {} document compilation showing offset delay ∧
      (showing.element.startTime.mul (.ofNat 1000)).rat? = some product ∧
      ((delay : ℚ) = 1000 * offset ↔
        ∀ whole, LiesBelow whole (1000 * exact) ↔ LiesBelow whole product) ∧
      ∀ count ≤ 2 ^ 50, showing.element.startTime = .ofDecimal false count (-3) →
        delay = count ∧ 1000 * offset = count := by
  have htests : (checkDocument .byModel (sampleFilm (.int 4))).all (fun document =>
      hasDelays document && (heard document).any fun showing =>
        decide (showing.asset.kind = .video) && showing.element.startTime.isFinite) = true := by
    decide +kernel
  obtain ⟨document, hvalid, htest⟩ := Checked.all_eq_true.mp htests
  obtain ⟨hdelays, hany⟩ := Bool.and_eq_true_iff.mp htest
  obtain ⟨showing, hheard, hfilm⟩ := List.any_eq_true.mp hany
  obtain ⟨hvideo, hfinite⟩ := Bool.and_eq_true_iff.mp hfilm
  have hkind : showing.asset.kind = .video := of_decide_eq_true hvideo
  obtain ⟨exact, hstart⟩ := exists_rat? hfinite
  obtain ⟨compilation, h⟩ := exists_compile_of_hasDelays {} hdelays
  exact ⟨document, compilation, showing, exact, hvalid, h, hheard, hkind, hstart,
    compile_startsTogether h hheard hkind hstart⟩

/-- A film that starts after half a millisecond is moved by a millisecond in the picture, since
    the double is a little more than that, and not at all in the sound, since the product is
    exactly a half. -/
theorem starts_apart_sampleFilm : ∃ document compilation showing offset delay,
    checkDocument .byModel (sampleFilm (.real (.ofDecimal false 5 (-4)))) = .valid document ∧
    compile {} document = .ok compilation ∧ showing ∈ heard document ∧
    showing.asset.kind = .video ∧ showing.element.startTime.isFinite = true ∧
    StartsAt {} document compilation showing offset delay ∧ (delay : ℚ) ≠ 1000 * offset := by
  let start := roundToPrecision Binary64.precision (5 * Binary64.unitsPerOne) 10000
  have htests : (checkDocument .byModel (sampleFilm (.real (.ofDecimal false 5 (-4))))).all
      (fun document => hasDelays document && (heard document).any fun showing =>
        decide (showing.asset.kind = .video) &&
          decide (showing.element.startTime = .finite false start)) = true := by
    decide +kernel
  obtain ⟨document, hvalid, htest⟩ := Checked.all_eq_true.mp htests
  obtain ⟨hdelays, hany⟩ := Bool.and_eq_true_iff.mp htest
  obtain ⟨showing, hheard, hfilm⟩ := List.any_eq_true.mp hany
  obtain ⟨hvideo, hwritten⟩ := Bool.and_eq_true_iff.mp hfilm
  have hkind : showing.asset.kind = .video := of_decide_eq_true hvideo
  have hfinite : showing.element.startTime = .finite false start := of_decide_eq_true hwritten
  obtain ⟨compilation, h⟩ := exists_compile_of_hasDelays {} hdelays
  obtain ⟨delay, hdelay, hstarts⟩ := exists_startsAt h hheard hkind hfinite
  have hoffset : Decimal.fixedCount 3 start = 1 := by decide +kernel
  have hnone : ((Binary64.finite false start).mul (.ofNat 1000)).toNearestInt = .ok 0 := by
    decide +kernel
  rw [delayMilliseconds, hfinite, hnone] at hdelay
  obtain rfl := Except.ok.inj hdelay
  rw [hoffset] at hstarts
  refine ⟨document, compilation, showing, _, 0, hvalid, h, hheard, hkind, ?_, hstarts, ?_⟩
  · rw [hfinite]
    rfl
  · norm_num [Binary64.signed]

end Montage.Compile
