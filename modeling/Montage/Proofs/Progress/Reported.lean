/-
  Montage.Proofs.Progress.Reported

  The progress that a meter tells.  A later time of one kind is never a smaller percentage, and
  a meter tells its progress only when it changes, so what it tells grows as long as the time
  stamps that it reads do not go back.
-/
import Mathlib.Data.List.Chain
import Mathlib.Data.List.ReduceOption
import Montage.Proofs.Number.Monotone
import Montage.Proofs.Progress.Range

namespace Montage.Progress

open Montage Montage.Number

/-! ## Times that do not go back -/

theorem percent_int (elapsed : Int) (duration : Scalar) :
    percent (.int elapsed) duration =
      if duration.leInt 0 then .ok 0
      else Scalar.div (.int (100 * elapsed)) duration >>= fun quotient =>
        quotient.toNearestInt.map fun rounded => max 0 (min maxRunning rounded) := by
  unfold percent
  split
  · rfl
  · rw [Scalar.mul, ok_bind]
    cases Scalar.div (.int (100 * elapsed)) duration with
    | error fault => rfl
    | ok quotient => rfl

/-- Rounding to a percentage keeps the order. -/
theorem clamped_le {x y : Binary64} {progress more : Int} (h : x.isFinite = true →
      y.isFinite = true → x.le y = true)
    (hx : x.toNearestInt.map (fun rounded => max 0 (min maxRunning rounded)) = .ok progress)
    (hy : y.toNearestInt.map (fun rounded => max 0 (min maxRunning rounded)) = .ok more) :
    progress ≤ more := by
  obtain ⟨i, hi, rfl⟩ := exists_of_map_eq_ok hx
  obtain ⟨j, hj, rfl⟩ := exists_of_map_eq_ok hy
  have hxfinite := Binary64.isOk_toNearestInt x
  have hyfinite := Binary64.isOk_toNearestInt y
  rw [hi] at hxfinite
  rw [hj] at hyfinite
  have hle := Binary64.toNearestInt_le (h hxfinite.symm hyfinite.symm) hi hj
  omega

theorem percent_real_le {x y : Binary64} {duration : Scalar} {progress more : Int}
    (hpositive : duration.leInt 0 = false) (h : x.le y = true)
    (hearly : percent (.real x) duration = .ok progress)
    (hlate : percent (.real y) duration = .ok more) : progress ≤ more := by
  rw [percent_real, hpositive, if_neg Bool.false_ne_true] at hearly hlate
  obtain ⟨real, hreal, hearly⟩ := exists_of_bind_eq_ok hearly
  rw [hreal, ok_bind] at hlate
  refine clamped_le (fun hx hy => ?_) hearly hlate
  have hproduct := Binary64.mul_le (Binary64.isNegative_ofNat 100) h
    (Binary64.isFinite_of_div hx) (Binary64.isFinite_of_div hy)
  exact Binary64.div_le (Scalar.isNegative_of_toReal hpositive hreal) hproduct hx hy

theorem percent_int_le {i j : Int} {duration : Scalar} {progress more : Int}
    (hpositive : duration.leInt 0 = false) (h : i ≤ j)
    (hearly : percent (.int i) duration = .ok progress)
    (hlate : percent (.int j) duration = .ok more) : progress ≤ more := by
  rw [percent_int, hpositive, if_neg Bool.false_ne_true] at hearly hlate
  obtain ⟨x, hx, hearly⟩ := exists_of_bind_eq_ok hearly
  obtain ⟨y, hy, hlate⟩ := exists_of_bind_eq_ok hlate
  have hproduct : 100 * i ≤ 100 * j := Int.mul_le_mul_of_nonneg_left h (by decide)
  exact clamped_le (Scalar.div_int_le hpositive hproduct hx hy) hearly hlate

/-- The percentage of a later time is no smaller. -/
theorem percent_le {elapsed later duration : Scalar} {progress more : Int}
    (h : elapsed.IsNotAfter later) (hearly : percent elapsed duration = .ok progress)
    (hlate : percent later duration = .ok more) : progress ≤ more := by
  cases hduration : duration.leInt 0 with
  | true =>
      rw [percent, if_pos hduration] at hearly hlate
      obtain rfl := Except.ok.inj hearly
      obtain rfl := Except.ok.inj hlate
      exact Int.le_refl 0
  | false =>
      cases elapsed with
      | int i =>
          cases later with
          | int j => exact percent_int_le hduration h hearly hlate
          | real y => exact h.elim
      | real x =>
          cases later with
          | int j => exact h.elim
          | real y => exact percent_real_le hduration h hearly hlate

namespace Meter

/-! ## One piece -/

/-- The time of the last stamp in the lines that a piece completes. -/
def seenTime? (meter : Meter) (piece : List Char) : Option Binary64 :=
  match elapsed? (completeLines (meter.line ++ piece)) with
  | .ok time => time
  | .error _ => none

variable {piece : List Char} {meter next : Meter} {result : Option Int}

/-- A piece without a time stamp changes no progress; with one, the progress becomes that of the
    stamp, and it is told if it is another one. -/
theorem feed_eq_ok (h : meter.feed piece = .ok (result, next)) :
    (meter.seenTime? piece = none ∧ result = none ∧ next.progress = meter.progress) ∨
      ∃ time progress, meter.seenTime? piece = some time ∧
        percent (.real time) meter.duration = .ok progress ∧ next.progress = some progress ∧
        result = if meter.progress = some progress then none else some progress := by
  obtain ⟨found, hfound, hrest⟩ := exists_of_bind_eq_ok h
  rw [seenTime?, hfound]
  cases found with
  | none =>
      cases hrest
      exact .inl ⟨rfl, rfl, rfl⟩
  | some time =>
      obtain ⟨progress, hprogress, hend⟩ := exists_of_bind_eq_ok hrest
      have hpercent : percent (.real time) meter.duration = .ok progress := by
        cases hvalue : percent (.real time) meter.duration with
        | error error =>
            rw [hvalue] at hprogress
            cases hprogress
        | ok value =>
            rw [hvalue] at hprogress
            exact congrArg Except.ok (Except.ok.inj hprogress)
      refine .inr ⟨time, progress, rfl, hpercent, ?_⟩
      dsimp only at hend
      split at hend
      next hsame =>
        cases hend
        exact ⟨hsame, (if_pos hsame).symm⟩
      next hother =>
        cases hend
        exact ⟨rfl, (if_neg hother).symm⟩

/-- What is told is the progress, which was another one before. -/
theorem result_of_feed (h : meter.feed piece = .ok (result, next)) :
    (result = none ∧ next.progress = meter.progress) ∨
      ∃ progress, result = some progress ∧ next.progress = some progress ∧
        meter.progress ≠ some progress := by
  rcases feed_eq_ok h with ⟨-, hnone, hsame⟩ | ⟨time, progress, -, -, hnext, hresult⟩
  · exact .inl ⟨hnone, hsame⟩
  · split at hresult
    next hsame => exact .inl ⟨hresult, hnext.trans hsame.symm⟩
    next hother => exact .inr ⟨progress, hresult, hnext, hother⟩

theorem after_of_feed (h : meter.feed piece = .ok (result, next)) : meter.after piece = next := by
  rw [after, h]

/-! ## Pieces one after the other -/

/-- What a meter tells of pieces, and where it stands after the last one. -/
def feedAll : List (List Char) → Meter → Except Fault (List (Option Int) × Meter)
  | [], meter => .ok ([], meter)
  | piece :: rest, meter => do
    let (result, next) ← meter.feed piece
    let (results, last) ← feedAll rest next
    return (result :: results, last)

/-- The times of the last stamps that a meter reads in pieces. -/
def seenTimes : List (List Char) → Meter → List Binary64
  | [], _ => []
  | piece :: rest, meter => (meter.seenTime? piece).toList ++ seenTimes rest (meter.after piece)

variable {rest : List (List Char)} {results : List (Option Int)} {last : Meter}

theorem feedAll_cons_eq_ok (h : feedAll (piece :: rest) meter = .ok (results, last)) :
    ∃ result others, meter.feed piece = .ok (result, meter.after piece) ∧
      feedAll rest (meter.after piece) = .ok (others, last) ∧ results = result :: others := by
  obtain ⟨⟨result, next⟩, hfeed, h⟩ := exists_of_bind_eq_ok h
  obtain ⟨⟨others, final⟩, hrest, h⟩ := exists_of_bind_eq_ok h
  cases h
  obtain rfl := after_of_feed hfeed
  exact ⟨result, others, hfeed, hrest, rfl⟩

variable {pieces : List (List Char)}

/-- One more piece is read after all others. -/
theorem feedAll_append_singleton (h : feedAll pieces meter = .ok (results, last))
    (more : List Char) :
    feedAll (pieces ++ [more]) meter =
      (last.feed more).map fun (result, next) => (results ++ [result], next) := by
  induction pieces generalizing meter results with
  | nil =>
      cases h
      rw [List.nil_append, feedAll]
      cases last.feed more <;> rfl
  | cons piece rest ih =>
      obtain ⟨result, others, hfeed, hrest, rfl⟩ := feedAll_cons_eq_ok h
      rw [List.cons_append, feedAll, hfeed, ok_bind]
      dsimp only
      rw [ih hrest]
      cases last.feed more <;> rfl

/-- A meter that cannot read one of its pieces raises no failure of a job. -/
theorem isForeign_of_feedAll {fault : Fault} (h : feedAll pieces meter = .error fault) :
    fault.IsForeign := by
  induction pieces generalizing meter with
  | nil => cases h
  | cons piece rest ih =>
      rcases error_of_bind_eq_error h with hfeed | ⟨told, -, hrest⟩
      · exact isForeign_of_feed hfeed
      · rcases error_of_bind_eq_error hrest with hlater | ⟨others, -, hend⟩
        · exact ih hlater
        · cases hend

theorem bounds_of_feedAll (h : feedAll pieces meter = .ok (results, last)) :
    ∀ progress ∈ results.reduceOption, 0 ≤ progress ∧ progress ≤ 99 := by
  induction pieces generalizing meter results with
  | nil =>
      cases h
      nofun
  | cons piece rest ih =>
      obtain ⟨result, others, hfeed, hrest, rfl⟩ := feedAll_cons_eq_ok h
      intro progress hprogress
      rcases List.mem_cons.mp (List.reduceOption_mem_iff.mp hprogress) with rfl | hothers
      · exact bounds_of_feed hfeed
      · exact ih hrest progress (List.reduceOption_mem_iff.mpr hothers)

/-- What was told last, before these pieces or of them, is the progress at the end. -/
theorem getLast?_feedAll (h : feedAll pieces meter = .ok (results, last)) :
    (meter.progress.toList ++ results.reduceOption).getLast? = last.progress := by
  induction pieces generalizing meter results with
  | nil =>
      cases h
      rw [List.reduceOption_nil, List.append_nil]
      cases last.progress <;> rfl
  | cons piece rest ih =>
      obtain ⟨result, others, hfeed, hrest, rfl⟩ := feedAll_cons_eq_ok h
      have hlast := ih hrest
      rcases result_of_feed hfeed with ⟨rfl, hsame⟩ | ⟨progress, rfl, hnext, -⟩
      · rwa [hsame] at hlast
      · rw [hnext] at hlast
        rw [List.reduceOption_cons_of_some, List.getLast?_append_of_ne_nil _ (by simp)]
        exact hlast

/-- A progress is told only when it changes. -/
theorem isChain_ne_feedAll (h : feedAll pieces meter = .ok (results, last)) :
    (meter.progress.toList ++ results.reduceOption).IsChain (· ≠ ·) := by
  induction pieces generalizing meter results with
  | nil =>
      cases h
      rw [List.reduceOption_nil, List.append_nil]
      cases last.progress <;> simp
  | cons piece rest ih =>
      obtain ⟨result, others, hfeed, hrest, rfl⟩ := feedAll_cons_eq_ok h
      have hchain := ih hrest
      rcases result_of_feed hfeed with ⟨rfl, hsame⟩ | ⟨progress, rfl, hnext, hother⟩
      · rwa [hsame] at hchain
      · rw [hnext] at hchain
        rw [List.reduceOption_cons_of_some]
        cases hbefore : meter.progress with
        | none => exact hchain
        | some before =>
            rw [hbefore] at hother
            exact List.isChain_cons_cons.mpr ⟨fun heq => hother (congrArg some heq), hchain⟩

/-- If the time stamps do not go back, from the time of the last progress on, what is told
    grows. -/
theorem isChain_lt_feedAll {before : Option Binary64}
    (h : feedAll pieces meter = .ok (results, last))
    (hbefore : ∀ progress, meter.progress = some progress →
      ∃ time, before = some time ∧ percent (.real time) meter.duration = .ok progress)
    (hforward : (before.toList ++ seenTimes pieces meter).IsChain fun x y => x.le y = true) :
    (meter.progress.toList ++ results.reduceOption).IsChain (· < ·) := by
  induction pieces generalizing meter results before with
  | nil =>
      cases h
      rw [List.reduceOption_nil, List.append_nil]
      cases last.progress <;> simp
  | cons piece rest ih =>
      obtain ⟨result, others, hfeed, hrest, rfl⟩ := feedAll_cons_eq_ok h
      rw [seenTimes] at hforward
      rcases feed_eq_ok hfeed with ⟨hnone, rfl, hsame⟩ |
        ⟨time, progress, hseen, hpercent, hnext, hresult⟩
      · rw [hnone, Option.toList_none, List.nil_append] at hforward
        have hchain := ih hrest (by rwa [hsame, duration_after]) hforward
        rwa [hsame] at hchain
      · rw [hseen, Option.toList_some, List.singleton_append] at hforward
        -- the stamp is where the next one starts from
        have hnow : ∀ told, (meter.after piece).progress = some told → ∃ seen,
            some time = some seen ∧
              percent (.real seen) (meter.after piece).duration = .ok told := by
          intro told htold
          rw [hnext, Option.some.injEq] at htold
          exact ⟨time, rfl, by rw [duration_after, hpercent, htold]⟩
        have htimes := (List.isChain_append.mp hforward).2.1
        have hchain := @ih _ _ (some time) hrest hnow htimes
        rw [hnext] at hchain
        split at hresult
        next hsame =>
          rw [hresult, hsame, List.reduceOption_cons_of_none]
          exact hchain
        next hother =>
          rw [hresult, List.reduceOption_cons_of_some]
          cases htold : meter.progress with
          | none => exact hchain
          | some told =>
              obtain ⟨earlier, rfl, hearlier⟩ := hbefore told htold
              have hle : earlier.le time = true := (List.isChain_cons_cons.mp hforward).1
              have hgrown := @percent_le (.real earlier) (.real time) _ _ _ hle hearlier hpercent
              rw [htold, Option.some.injEq] at hother
              exact List.isChain_cons_cons.mpr ⟨by omega, hchain⟩

/-- Whatever is read, what a meter tells lies between 0 and 99 percent, changes from one time to
    the next and ends with the progress of the meter.  It grows if the time stamps do not go back,
    as a later time is never a smaller percentage. -/
theorem feedAll_tells {duration : Scalar} {pieces : List (List Char)}
    {results : List (Option Int)} {last : Meter}
    (h : feedAll pieces { duration } = .ok (results, last)) :
    (∀ progress ∈ results.reduceOption, 0 ≤ progress ∧ progress ≤ 99) ∧
      results.reduceOption.IsChain (· ≠ ·) ∧
      results.reduceOption.getLast? = last.progress ∧
      ((seenTimes pieces { duration }).IsChain (fun x y => x.le y = true) →
        results.reduceOption.Pairwise (· < ·)) ∧
      ∀ elapsed later progress more, elapsed.IsNotAfter later →
        percent elapsed duration = .ok progress → percent later duration = .ok more →
          progress ≤ more := by
  refine ⟨bounds_of_feedAll h, isChain_ne_feedAll h, getLast?_feedAll h, fun hforward => ?_,
    fun _ _ _ _ => percent_le⟩
  exact List.isChain_iff_pairwise.mp (@isChain_lt_feedAll _ _ _ _ none h nofun hforward)

/-- A stamp that is cut and one on a line of its own, one that is no percent later, and one after
    the end of the timeline. -/
def sampleOutput : List (List Char) :=
  samplePieces ++ ["\r".toList, "time=00:00:02.01\n".toList, "time=01:00:00.00\n".toList]

theorem feedAll_tells_sampleOutput : ∃ results last,
    feedAll sampleOutput { duration := .int 3 } = .ok (results, last) ∧
      results.reduceOption = [50, 67, 99] ∧ last.progress = some 99 ∧
      (seenTimes sampleOutput { duration := .int 3 }).IsChain (fun x y => x.le y = true) ∧
      results.reduceOption.Pairwise (· < ·) := by
  have htold : (feedAll sampleOutput { duration := .int 3 }).toOption.map Prod.fst =
      some [none, none, none, some 50, none, some 67, none, some 99] := by
    decide +kernel
  have hforward : (seenTimes sampleOutput { duration := .int 3 }).IsChain
      (fun x y => x.le y = true) := by
    decide +kernel
  cases hrun : feedAll sampleOutput { duration := .int 3 } with
  | error fault =>
      rw [hrun] at htold
      cases htold
  | ok told =>
      obtain ⟨results, last⟩ := told
      rw [hrun] at htold
      obtain rfl := Option.some.inj htold
      obtain ⟨-, -, hlast, hgrows, -⟩ := feedAll_tells hrun
      exact ⟨_, last, rfl, rfl, hlast.symm, hforward, hgrows hforward⟩

end Meter

end Montage.Progress
