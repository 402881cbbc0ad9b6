/-
  Montage.Proofs.Compile.Totality

  Which documents compile.  Whatever a document that was checked holds, and whatever the
  options are, the compilation succeeds unless a sound starts so late that its delay in
  milliseconds is no finite number.
-/
import Montage.Proofs.Compile.Success
import Montage.Proofs.Fault
import Montage.Proofs.Number.Grid
import Montage.Proofs.Timeline.Order
import Montage.Timeline.Writer

namespace Montage.Compile

open Montage.Filter (Graph)
open Montage.Number Montage.Timeline Montage.Validation

/-! ## Delays -/

/-- Whether a moment is early enough to be counted in milliseconds: it lies below a
    thousandth of the middle at which doubles end, which is about 1.8e305 seconds. -/
def IsDelayable : Binary64 → Prop
  | .finite _ units => 1000 * units < Binary64.overflowHalfway
  | _ => False

instance (start : Binary64) : Decidable (IsDelayable start) := by
  unfold IsDelayable
  split <;> infer_instance

theorem mul_thousand (negative : Bool) (units : Nat) :
    (Binary64.finite negative units).mul (.ofNat 1000) =
      Binary64.ofQuotient negative (units * (1000 * Binary64.unitsPerOne))
        Binary64.unitsPerOne := by
  have hthousand : Binary64.ofNat 1000 = .finite false (1000 * Binary64.unitsPerOne) := by
    decide +kernel
  rw [hthousand, Binary64.mul, Bool.bne_false]

/-- The start of an element is a delay, or it is too late for one. -/
theorem delayMilliseconds_cases {slot : Slot} (h : slot.startTime ≠ .nan) :
    (IsDelayable slot.startTime ∧ ∃ delay, delayMilliseconds slot = .ok delay) ∨
      (¬ IsDelayable slot.startTime ∧ delayMilliseconds slot = .error .infinityToInteger) := by
  unfold delayMilliseconds
  generalize slot.startTime = start at h ⊢
  cases start with
  | finite negative units =>
      have hunit : 0 < Binary64.unitsPerOne := by decide +kernel
      -- the product is a fraction of units, compared with the bound in the same units
      have hbound : units * (1000 * Binary64.unitsPerOne) <
            Binary64.overflowHalfway * Binary64.unitsPerOne ↔
          IsDelayable (.finite negative units) := by
        rw [← Nat.mul_assoc, Nat.mul_lt_mul_right hunit, Nat.mul_comm units]
        rfl
      rw [mul_thousand, Binary64.ofQuotient_eq_ite negative _ hunit]
      by_cases hearly : IsDelayable (.finite negative units)
      · rw [if_pos (hbound.mpr hearly)]
        exact .inl ⟨hearly, _, rfl⟩
      · rw [if_neg (mt hbound.mp hearly)]
        exact .inr ⟨hearly, rfl⟩
  | infinite negative => exact .inr ⟨id, by decide +kernel +revert⟩
  | nan => exact absurd rfl h

/-! ## The one fault -/

theorem addSounds_eq_error {clips : List Clip} {graph : Graph} {fault : ArithmeticError}
    (h : addSounds clips graph = .error fault) :
    ∃ clip ∈ clips, delayMilliseconds clip.element.toSlot = .error fault := by
  induction clips generalizing graph with
  | nil => cases h
  | cons clip rest ih =>
      rcases error_of_bind_eq_error h with hdelay | ⟨delay, -, hrest⟩
      · exact ⟨clip, List.mem_cons_self, hdelay⟩
      · rcases error_of_bind_eq_error hrest with hadd | ⟨added, -, hend⟩
        · obtain ⟨other, hmem, hother⟩ := ih hadd
          exact ⟨other, List.mem_cons_of_mem clip hmem, hother⟩
        · cases hend

/-- A compilation fails with the delay of an audible clip. -/
theorem compile_eq_error {options : Options} {document : Document} {fault : ArithmeticError}
    (h : compile options document = .error fault) :
    ∃ clip ∈ (select document).clips.filter Clip.isAudible,
      delayMilliseconds clip.element.toSlot = .error fault := by
  rcases error_of_bind_eq_error h with hsound | ⟨finished, -, hend⟩
  · rcases error_of_bind_eq_error hsound with hadd | ⟨added, -, hend⟩
    · exact addSounds_eq_error hadd
    · cases hend
  · cases hend

/-! ## Documents that compile -/

/-- A document that was checked compiles with any options if the start of every clip that
    is heard can be counted in milliseconds; if not, this is the fault that is raised, and
    nothing else ever is. -/
theorem compile_total {rule : ObjectRule} {value : Json} {document : Document}
    (hvalid : checkDocument rule value = .valid document) (options : Options) :
    ((∀ clip ∈ (select document).clips.filter Clip.isAudible,
        IsDelayable clip.element.startTime) →
      ∃ compilation, compile options document = .ok compilation) ∧
    ((∃ clip ∈ (select document).clips.filter Clip.isAudible,
        ¬ IsDelayable clip.element.startTime) →
      compile options document = .error .infinityToInteger) := by
  have htimed := timed_of_checkDocument hvalid
  have hcases : ∀ clip ∈ (select document).clips.filter Clip.isAudible,
      (IsDelayable clip.element.startTime ∧
          ∃ delay, delayMilliseconds clip.element.toSlot = .ok delay) ∨
        (¬ IsDelayable clip.element.startTime ∧
          delayMilliseconds clip.element.toSlot = .error .infinityToInteger) := by
    intro clip hclip
    obtain ⟨track, htrack, helement⟩ := exists_of_mem_clips (List.mem_filter.mp hclip).1
    exact delayMilliseconds_cases (htimed track htrack _ helement)
  constructor
  · intro hearly
    refine exists_compile_eq_ok_iff.mpr fun clip hclip => ?_
    rcases hcases clip hclip with ⟨-, hdelay⟩ | ⟨hlate, -⟩
    · exact hdelay
    · exact absurd (hearly clip hclip) hlate
  · rintro ⟨clip, hclip, hlate⟩
    cases hcompile : compile options document with
    | ok compilation =>
        obtain ⟨delay, hdelay⟩ := exists_compile_eq_ok_iff.mp ⟨compilation, hcompile⟩ clip hclip
        rcases hcases clip hclip with ⟨hearly, -⟩ | ⟨-, hfault⟩
        · exact absurd hearly hlate
        · rw [hfault] at hdelay
          cases hdelay
    | error fault =>
        -- another late clip may come first, and its fault is the same
        obtain ⟨other, hother, hfault⟩ := compile_eq_error hcompile
        rcases hcases other hother with ⟨-, delay, hdelay⟩ | ⟨-, hinfinity⟩
        · rw [hdelay] at hfault
          cases hfault
        · rw [hinfinity] at hfault
          rw [Except.error.inj hfault]

/-! ## Early and late -/

/-- A timeline with one film that is heard. -/
def sampleFilm (start : Scalar) : Json :=
  .obj
    [("project", .obj [("canvasSize", .obj [("width", .int 640), ("height", .int 360)])]),
     ("tracks", .arr [.obj
      [("id", .str "t1"),
       ("type", .str "media"),
       ("elements", .arr [.obj
        [("type", .str "media"),
         ("id", .str "e1"),
         ("startTime", .num start),
         ("duration", .num (.int 2)),
         ("mediaId", .str "film")]])]]),
     ("mediaItems", .obj
      [("film", .obj
        [("type", .str "video"), ("url", .str "https://media.test/film.mp4")])])]

theorem compile_total_sampleFilm :
    ∃ document, checkDocument .byModel (sampleFilm (.int 4)) = .valid document ∧
      (∀ clip ∈ (select document).clips.filter Clip.isAudible,
        IsDelayable clip.element.startTime) ∧
      ∃ compilation, compile {} document = .ok compilation := by
  have hchecked : (checkDocument .byModel (sampleFilm (.int 4))).all (fun document =>
      ((select document).clips.filter Clip.isAudible).all fun clip =>
        IsDelayable clip.element.startTime) = true := by
    decide +kernel
  obtain ⟨document, hvalid, htest⟩ := Checked.all_eq_true.mp hchecked
  have hearly : ∀ clip ∈ (select document).clips.filter Clip.isAudible,
      IsDelayable clip.element.startTime := by
    simpa only [List.all_eq_true, decide_eq_true_eq] using htest
  exact ⟨document, hvalid, hearly, (compile_total hvalid {}).1 hearly⟩

/-- A film that starts after `1e306` seconds is a timeline with finite numbers, and does not
    compile. -/
theorem not_compiles_sampleFilm :
    ∃ document, checkDocument .byModel (sampleFilm (.real (.ofDecimal false 1 306))) =
        .valid document ∧
      (document.toJson asReal).hasFiniteNumbers = true ∧
      ∀ compilation, compile {} document ≠ .ok compilation := by
  have hchecked : (checkDocument .byModel (sampleFilm (.real (.ofDecimal false 1 306)))).all
      (fun document => (document.toJson asReal).hasFiniteNumbers &&
        !(compile {} document).isOk) = true := by
    decide +kernel
  obtain ⟨document, hvalid, htest⟩ := Checked.all_eq_true.mp hchecked
  obtain ⟨hfinite, hfails⟩ := Bool.and_eq_true_iff.mp htest
  refine ⟨document, hvalid, hfinite, fun compilation hcompile => ?_⟩
  rw [hcompile] at hfails
  cases hfails

end Montage.Compile
