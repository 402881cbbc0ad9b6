/-
  Montage.Proofs.Progress.Pieces

  Output that is read in pieces.  A meter keeps the end of the incomplete line and shows
  the progress of the last time stamp in the complete lines, however the output was cut.
-/
import Mathlib.Data.List.Induction
import Mathlib.Data.List.TakeWhile
import Montage.Progress.Meter
import Montage.Proofs.Fault

namespace Montage.Progress

open Montage.Number Montage.Text

/-! ## Complete lines -/

/-- Whether a text ends where a line ends. -/
def EndsLine (text : List Char) : Prop :=
  text = [] ∨ ∃ before c, text = before ++ [c] ∧ isLineBreak c = true

theorem EndsLine.append {first second : List Char} (hfirst : EndsLine first)
    (hsecond : EndsLine second) : EndsLine (first ++ second) := by
  rcases hsecond with rfl | ⟨before, c, rfl, hbreak⟩
  · rwa [List.append_nil]
  · exact .inr ⟨first ++ before, c, (List.append_assoc first before [c]).symm, hbreak⟩

/-- There is one way to cut a text after its last line break. -/
theorem afterLastBreak_append {lines rest : List Char} (hlines : EndsLine lines)
    (hrest : ∀ c ∈ rest, isLineBreak c = false) : afterLastBreak (lines ++ rest) = rest := by
  have hall : ∀ c ∈ rest.reverse, (!isLineBreak c) = true := by
    simpa using hrest
  have hnone : lines.reverse.takeWhile (fun c => !isLineBreak c) = [] := by
    rcases hlines with rfl | ⟨before, c, rfl, hbreak⟩
    · rfl
    · simp [hbreak]
  rw [afterLastBreak, List.reverse_append, List.takeWhile_append_of_pos hall, hnone,
    List.append_nil, List.reverse_reverse]

theorem completeLines_append {lines rest : List Char} (hlines : EndsLine lines)
    (hrest : ∀ c ∈ rest, isLineBreak c = false) : completeLines (lines ++ rest) = lines := by
  have hwhole := completeLines_append_afterLastBreak (lines ++ rest)
  rw [afterLastBreak_append hlines hrest] at hwhole
  exact List.append_cancel_right hwhole

theorem endsLine_completeLines (text : List Char) : EndsLine (completeLines text) := by
  have hsplit : ∃ lines rest, text = lines ++ rest ∧ EndsLine lines ∧
      ∀ c ∈ rest, isLineBreak c = false := by
    induction text using List.reverseRecOn with
    | nil => exact ⟨[], [], rfl, .inl rfl, nofun⟩
    | append_singleton before c ih =>
        cases hbreak : isLineBreak c with
        | true =>
            have hends : EndsLine (before ++ [c]) := .inr ⟨before, c, rfl, hbreak⟩
            exact ⟨before ++ [c], [], (List.append_nil _).symm, hends, nofun⟩
        | false =>
            obtain ⟨lines, rest, rfl, hlines, hrest⟩ := ih
            refine ⟨lines, rest ++ [c], List.append_assoc lines rest [c], hlines, ?_⟩
            simpa [or_imp, forall_and, hbreak] using hrest
  obtain ⟨lines, rest, rfl, hlines, hrest⟩ := hsplit
  rwa [completeLines_append hlines hrest]

theorem not_isLineBreak_afterLastBreak (text : List Char) :
    ∀ c ∈ afterLastBreak text, isLineBreak c = false :=
  fun _ => isLineBreak_of_mem_afterLastBreak

/-- A piece goes on with the incomplete line, and the complete lines stay as they are. -/
theorem append_piece (text piece : List Char) :
    completeLines (text ++ piece) =
        completeLines text ++ completeLines (afterLastBreak text ++ piece) ∧
      afterLastBreak (text ++ piece) = afterLastBreak (afterLastBreak text ++ piece) := by
  have htext := completeLines_append_afterLastBreak text
  have hopen := completeLines_append_afterLastBreak (afterLastBreak text ++ piece)
  have hwhole : text ++ piece =
      (completeLines text ++ completeLines (afterLastBreak text ++ piece)) ++
        afterLastBreak (afterLastBreak text ++ piece) := by
    rw [List.append_assoc, hopen, ← List.append_assoc, htext]
  have hlines := (endsLine_completeLines text).append
    (endsLine_completeLines (afterLastBreak text ++ piece))
  have hrest := not_isLineBreak_afterLastBreak (afterLastBreak text ++ piece)
  exact ⟨hwhole ▸ completeLines_append hlines hrest, hwhole ▸ afterLastBreak_append hlines hrest⟩

/-- A piece ends the incomplete line, or goes on with it. -/
theorem afterLastBreak_open {line : List Char} (hline : ∀ c ∈ line, isLineBreak c = false)
    (piece : List Char) :
    afterLastBreak (line ++ piece) =
      if completeLines piece = [] then line ++ piece else afterLastBreak piece := by
  have hpiece := completeLines_append_afterLastBreak piece
  have hrest := not_isLineBreak_afterLastBreak piece
  split
  next hnone =>
    rw [hnone, List.nil_append] at hpiece
    have hall : ∀ c ∈ line ++ piece, isLineBreak c = false := by
      intro c hc
      rcases List.mem_append.mp hc with hold | hnew
      · exact hline c hold
      · exact hrest c (hpiece.symm ▸ hnew)
    exact afterLastBreak_append (.inl rfl) hall
  next hsome =>
    have hends : EndsLine (line ++ completeLines piece) := by
      rcases endsLine_completeLines piece with hnone | ⟨before, c, heq, hbreak⟩
      · exact absurd hnone hsome
      · exact .inr ⟨line ++ before, c, by rw [heq, List.append_assoc], hbreak⟩
    calc afterLastBreak (line ++ piece)
        = afterLastBreak ((line ++ completeLines piece) ++ afterLastBreak piece) := by
          rw [List.append_assoc, hpiece]
      _ = afterLastBreak piece := afterLastBreak_append hends hrest

/-- What stands without a break before the rest of a text is the start of one of its lines. -/
theorem exists_line_of_prefix {line : List Char} (hline : ∀ c ∈ line, isLineBreak c = false)
    (rest : List Char) : ∃ whole ∈ (line ++ rest).splitOnP isLineBreak, line <+: whole := by
  let first := rest.takeWhile fun c => !isLineBreak c
  have hfirst : ∀ c ∈ line ++ first, isLineBreak c = false := by
    intro c hc
    rcases List.mem_append.mp hc with hold | hnew
    · exact hline c hold
    · simpa using List.mem_takeWhile_imp hnew
  have hrest : first ++ rest.dropWhile (fun c => !isLineBreak c) = rest :=
    List.takeWhile_append_dropWhile
  refine ⟨line ++ first, ?_, List.prefix_append line first⟩
  rw [← hrest, ← List.append_assoc]
  cases hnext : rest.dropWhile fun c => !isLineBreak c with
  | nil => rw [List.append_nil, List.splitOnP_eq_singleton hfirst, List.mem_singleton]
  | cons c others =>
      have hbreak := List.head?_dropWhile_not (fun c => !isLineBreak c) rest
      simp only [hnext, List.head?_cons, Bool.not_eq_false'] at hbreak
      rw [List.splitOnP_append_cons_of_forall_mem hfirst c hbreak]
      exact List.mem_cons_self

/-- What follows the last line break so far is the start of a line of the whole text. -/
theorem length_afterLastBreak_le {text rest : List Char} {bound : Nat}
    (hlines : ∀ line ∈ (text ++ rest).splitOnP isLineBreak, line.length ≤ bound) :
    (afterLastBreak text).length ≤ bound := by
  have hopen := not_isLineBreak_afterLastBreak text
  obtain ⟨line, hmem, hprefix⟩ := exists_line_of_prefix hopen rest
  have htext := completeLines_append_afterLastBreak text
  refine Nat.le_trans hprefix.length_le (hlines line ?_)
  rcases endsLine_completeLines text with hnone | ⟨before, c, heq, hbreak⟩
  · rw [hnone, List.nil_append] at htext
    rwa [htext] at hmem
  · rw [← htext, heq, List.append_assoc, List.append_assoc, List.singleton_append,
      List.splitOnP_append_cons _ _ hbreak]
    exact List.mem_append_right _ hmem

/-! ## Time stamps -/

/-- How a time stamp starts. -/
def stampStart : List Char := ['t', 'i', 'm', 'e', '=']

/-- Whether no time stamp has this character in it. -/
structure IsOutside (c : Char) : Prop where
  start : c ∉ stampStart
  digit : digitValue? c = none
  colon : c ≠ ':'
  point : c ≠ '.'

theorem isOutside_of_isLineBreak {c : Char} (h : isLineBreak c = true) : IsOutside c := by
  have hcases : c = '\r' ∨ c = '\n' := by
    simpa [isLineBreak] using h
  rcases hcases with rfl | rfl
  · exact ⟨by decide, by decide, by decide, by decide⟩
  · exact ⟨by decide, by decide, by decide, by decide⟩

theorem tokenAt?_eq_none {text : List Char} (h : ¬ stampStart <+: text) :
    tokenAt? text = none := by
  unfold tokenAt?
  split
  next rest => exact absurd ⟨rest, rfl⟩ h
  next => rfl

section Outside

variable {c : Char} (hc : IsOutside c) (after : List Char)

include hc

theorem takeDigits_append (text : List Char) :
    takeDigits (text ++ c :: after) =
      ((takeDigits text).1, (takeDigits text).2 ++ c :: after) := by
  induction text with
  | nil => simp [takeDigits, hc.digit]
  | cons first rest ih =>
      rw [List.cons_append]
      unfold takeDigits
      cases digitValue? first with
      | none => rfl
      | some digit => simp only [ih]

theorem takePair_append (text : List Char) :
    takePair (text ++ c :: after) =
      (takePair text).map fun (digits, rest) => (digits, rest ++ c :: after) := by
  match text with
  | [] => cases after <;> simp [takePair, hc.digit]
  | [first] => simp [takePair, hc.digit]
  | first :: second :: rest =>
      simp only [List.cons_append, takePair]
      split <;> rfl

theorem takeFraction_append (text : List Char) :
    takeFraction (text ++ c :: after) = takeFraction text := by
  match text with
  | [] => simp [takeFraction, hc.point]
  | first :: rest =>
      by_cases hfirst : first = '.'
      · subst hfirst
        simp only [List.cons_append, takeFraction, takeDigits_append hc]
      · simp [takeFraction, hfirst]

theorem tokenAfter?_append (text : List Char) :
    tokenAfter? (text ++ c :: after) = tokenAfter? text := by
  unfold tokenAfter?
  rw [takeDigits_append hc]
  obtain ⟨hours, left⟩ := takeDigits text
  cases hours with
  | nil => rfl
  | cons digit digits =>
      cases left with
      | nil => simp [hc.colon]
      | cons first rest =>
          by_cases hfirst : first = ':'
          · subst hfirst
            simp only [List.cons_append, takePair_append hc]
            cases takePair rest with
            | none => rfl
            | some minutes =>
                obtain ⟨minutes, left⟩ := minutes
                cases left with
                | nil => simp [hc.colon]
                | cons second rest =>
                    by_cases hsecond : second = ':'
                    · subst hsecond
                      simp only [Option.map_some, List.cons_append, takePair_append hc]
                      cases takePair rest with
                      | none => rfl
                      | some seconds => simp [takeFraction_append hc]
                    · simp [hsecond]
          · simp [hfirst]

theorem tokenAt?_append (text : List Char) :
    tokenAt? (text ++ c :: after) = tokenAt? text := by
  by_cases hstamp : stampStart <+: text
  · obtain ⟨rest, rfl⟩ := hstamp
    exact tokenAfter?_append hc after rest
  · have hlonger : ¬ stampStart <+: text ++ c :: after := by
      -- the start of a stamp would have to reach over the character
      intro hprefix
      have hover : text ++ [c] <+: text ++ c :: after := ⟨after, by simp⟩
      rcases List.prefix_or_prefix_of_prefix hprefix hover with hstart | hstart
      · rcases List.prefix_concat_iff.mp hstart with heq | hshort
        · exact hc.start (heq ▸ List.mem_append_right text (List.mem_singleton_self c))
        · exact hstamp hshort
      · exact hc.start (hstart.subset (List.mem_append_right text (List.mem_singleton_self c)))
    rw [tokenAt?_eq_none hstamp, tokenAt?_eq_none hlonger]

theorem lastToken?_append (text : List Char) :
    lastToken? (text ++ c :: after) = (lastToken? after).or (lastToken? text) := by
  have hnone : tokenAt? (c :: after) = none := tokenAt?_append hc after []
  induction text with
  | nil =>
      simp only [List.nil_append, lastToken?, hnone]
      cases lastToken? after <;> rfl
  | cons first rest ih =>
      have hat := tokenAt?_append hc after (first :: rest)
      rw [List.cons_append] at hat
      rw [List.cons_append, lastToken?, hat, ih, lastToken?]
      cases lastToken? after <;> rfl

end Outside

/-- The last time stamp of some lines and what follows them. -/
theorem lastToken?_lines_append {lines : List Char} (h : EndsLine lines) (rest : List Char) :
    lastToken? (lines ++ rest) = (lastToken? rest).or (lastToken? lines) := by
  rcases h with rfl | ⟨before, c, rfl, hbreak⟩
  · exact (Option.or_none).symm
  · have hc := isOutside_of_isLineBreak hbreak
    have hline : lastToken? (before ++ [c]) = lastToken? before := lastToken?_append hc [] before
    rw [List.append_assoc, List.singleton_append, lastToken?_append hc, hline]

/-! ## What a text shows -/

/-- The progress that a time stamp stands for. -/
def Token.percent (duration : Scalar) (token : Token) : Except Fault Int := do
  (Progress.percent (.real (← token.elapsed)) duration).mapError Fault.arithmetic

/-- The progress that a text shows if it is read all at once: that of the last time stamp in
    its complete lines. -/
def shown (duration : Scalar) (text : List Char) : Except Fault (Option Int) :=
  match lastToken? (completeLines text) with
  | none => .ok none
  | some token => (token.percent duration).map some

namespace Meter

theorem feed_eq (piece : List Char) (meter : Meter) :
    meter.feed piece =
      let line := lastOf maxLine (afterLastBreak (meter.line ++ piece))
      match lastToken? (completeLines (meter.line ++ piece)) with
      | none => .ok (none, { meter with line })
      | some token => (token.percent meter.duration).map fun progress =>
          (if meter.progress = some progress then none else some progress,
            { meter with line, progress := some progress }) := by
  unfold feed elapsed? Token.percent
  dsimp only
  cases lastToken? (completeLines (meter.line ++ piece)) with
  | none => rfl
  | some token =>
      dsimp only
      cases token.elapsed with
      | error fault => rfl
      | ok elapsed =>
          simp only [Except.map, bind, Except.bind]
          cases Progress.percent (.real elapsed) meter.duration with
          | error error => rfl
          | ok progress =>
              by_cases h : meter.progress = some progress
              · simp [h, Except.mapError, pure, Except.pure]
              · simp [h, Except.mapError, pure, Except.pure]

/-- The meter after a piece of output; the incomplete line goes on also if the piece cannot
    be read. -/
def after (meter : Meter) (piece : List Char) : Meter :=
  match meter.feed piece with
  | .ok (_, next) => next
  | .error _ => { meter with line := lastOf maxLine (afterLastBreak (meter.line ++ piece)) }

/-- The meter after pieces of output. -/
def afterAll (pieces : List (List Char)) (meter : Meter) : Meter :=
  pieces.foldl after meter

/-- Whether all pieces can be read, one after the other. -/
def readsAll : List (List Char) → Meter → Bool
  | [], _ => true
  | piece :: rest, meter => (meter.feed piece).isOk && readsAll rest (meter.after piece)

theorem after_eq (meter : Meter) (piece : List Char) :
    meter.after piece =
      { meter with
        line := lastOf maxLine (afterLastBreak (meter.line ++ piece))
        progress :=
          match lastToken? (completeLines (meter.line ++ piece)) with
          | none => meter.progress
          | some token => (token.percent meter.duration).toOption.or meter.progress } := by
  unfold after
  rw [feed_eq]
  dsimp only
  cases lastToken? (completeLines (meter.line ++ piece)) with
  | none => rfl
  | some token =>
      dsimp only
      cases token.percent meter.duration with
      | error fault => simp only [Except.map, Except.toOption, Option.none_or]
      | ok progress => simp only [Except.map, Except.toOption, Option.some_or]

/-! ## The incomplete line -/

/-- What was dropped of an incomplete line is not missed. -/
theorem lastOf_afterLastBreak_append (text piece : List Char) :
    lastOf maxLine (afterLastBreak (lastOf maxLine (afterLastBreak text) ++ piece)) =
      lastOf maxLine (afterLastBreak (text ++ piece)) := by
  have hopen := not_isLineBreak_afterLastBreak text
  have hkept : ∀ c ∈ lastOf maxLine (afterLastBreak text), isLineBreak c = false :=
    fun c hc => hopen c (List.mem_of_mem_drop hc)
  rw [(append_piece text piece).2, afterLastBreak_open hkept, afterLastBreak_open hopen]
  split
  · exact lastOf_lastOf_append maxLine (afterLastBreak text) piece
  · rfl

theorem line_after {text : List Char} {meter : Meter}
    (hline : meter.line = lastOf maxLine (afterLastBreak text)) (piece : List Char) :
    (meter.after piece).line = lastOf maxLine (afterLastBreak (text ++ piece)) := by
  rw [after_eq, hline, lastOf_afterLastBreak_append]

theorem duration_after (meter : Meter) (piece : List Char) :
    (meter.after piece).duration = meter.duration := by
  rw [after_eq]

theorem line_afterAll {text : List Char} (pieces : List (List Char)) {meter : Meter}
    (hline : meter.line = lastOf maxLine (afterLastBreak text)) :
    (meter.afterAll pieces).line = lastOf maxLine (afterLastBreak (text ++ pieces.flatten)) := by
  induction pieces generalizing text meter with
  | nil => simpa [afterAll] using hline
  | cons piece rest ih =>
      rw [List.flatten_cons, ← List.append_assoc]
      exact ih (line_after hline piece)

theorem duration_afterAll (pieces : List (List Char)) (meter : Meter) :
    (meter.afterAll pieces).duration = meter.duration := by
  induction pieces generalizing meter with
  | nil => rfl
  | cons piece rest ih => exact (ih (meter.after piece)).trans (duration_after meter piece)

/-! ## The progress shown -/

/-- Whether a meter stands where it stands after a text that it has kept the whole incomplete
    line of. -/
structure Follows (text : List Char) (meter : Meter) : Prop where
  line : meter.line = afterLastBreak text
  progress : shown meter.duration text = .ok meter.progress

theorem Follows.after {text piece : List Char} {meter : Meter} (h : Follows text meter)
    (hreads : (meter.feed piece).isOk = true)
    (hshort : (afterLastBreak (text ++ piece)).length ≤ maxLine) :
    Follows (text ++ piece) (meter.after piece) := by
  have hpiece := append_piece text piece
  rw [← h.line] at hpiece
  rw [after_eq]
  refine ⟨?_, ?_⟩
  · rw [← hpiece.2, lastOf, Nat.sub_eq_zero_of_le hshort, List.drop_zero]
  · have hlast : lastToken? (completeLines (text ++ piece)) =
        (lastToken? (completeLines (meter.line ++ piece))).or
          (lastToken? (completeLines text)) := by
      rw [hpiece.1, lastToken?_lines_append (endsLine_completeLines text)]
    have hbefore := h.progress
    unfold shown at hbefore ⊢
    rw [hlast]
    rw [feed_eq] at hreads
    dsimp only at hreads ⊢
    cases hnew : lastToken? (completeLines (meter.line ++ piece)) with
    | none => exact hbefore
    | some token =>
        rw [hnew] at hreads
        dsimp only [Option.some_or] at hreads ⊢
        cases hpercent : token.percent meter.duration with
        | error fault => simp [hpercent, Except.map, Except.isOk, Except.toBool] at hreads
        | ok progress => rfl

theorem Follows.afterAll {text : List Char} {pieces : List (List Char)} {meter : Meter}
    (h : Follows text meter) (hreads : readsAll pieces meter = true)
    (hlines : ∀ line ∈ (text ++ pieces.flatten).splitOnP isLineBreak, line.length ≤ maxLine) :
    Follows (text ++ pieces.flatten) (meter.afterAll pieces) := by
  induction pieces generalizing text meter with
  | nil => simpa [Meter.afterAll] using h
  | cons piece rest ih =>
      obtain ⟨hnow, hrest⟩ := Bool.and_eq_true_iff.mp hreads
      rw [List.flatten_cons, ← List.append_assoc] at hlines ⊢
      have hshort := length_afterLastBreak_le hlines
      exact ih (h.after hnow hshort) hrest hlines

/-- However the output is cut, the kept line is the end of the incomplete line; and if no
    line is too long and no time stamp is out of range, the progress is that of the last time
    stamp in the complete lines. -/
theorem afterAll_pieces (duration : Scalar) (pieces : List (List Char)) :
    ((Meter.afterAll pieces { duration }).line =
          lastOf maxLine (afterLastBreak pieces.flatten) ∧
        (Meter.afterAll pieces { duration }).line.length =
          min maxLine (afterLastBreak pieces.flatten).length ∧
        ∀ c ∈ (Meter.afterAll pieces { duration }).line, isLineBreak c = false) ∧
    ((∀ line ∈ pieces.flatten.splitOnP isLineBreak, line.length ≤ maxLine) →
      readsAll pieces { duration } = true →
      shown duration pieces.flatten = .ok (Meter.afterAll pieces { duration }).progress) := by
  have hstart : Follows [] { duration } := ⟨rfl, rfl⟩
  have hline := @line_afterAll [] pieces { duration } rfl
  rw [List.nil_append] at hline
  refine ⟨⟨hline, ?_, fun c hc => ?_⟩, fun hlines hreads => ?_⟩
  · rw [hline, length_lastOf]
  · rw [hline] at hc
    exact not_isLineBreak_afterLastBreak _ c (List.mem_of_mem_drop hc)
  · have hend := (hstart.afterAll hreads hlines).progress
    rwa [duration_afterAll] at hend

/-- A time stamp that is cut three times, a line that ends twice, and the start of a stamp. -/
def samplePieces : List (List Char) :=
  ["frame=1 ti".toList, "me=00:0".toList, "0:01.5".toList, "0 bitrate=1\r\nti".toList,
   "me=00:00:02".toList]

theorem afterAll_samplePieces :
    (∀ line ∈ samplePieces.flatten.splitOnP isLineBreak, line.length ≤ maxLine) ∧
      readsAll samplePieces { duration := .int 3 } = true ∧
      shown (.int 3) samplePieces.flatten = .ok (some 50) ∧
      (Meter.afterAll samplePieces { duration := .int 3 }).progress = some 50 := by
  have hlines : ∀ line ∈ samplePieces.flatten.splitOnP isLineBreak, line.length ≤ maxLine := by
    decide +kernel
  have hreads : readsAll samplePieces { duration := .int 3 } = true := by
    decide +kernel
  have hshown : shown (.int 3) samplePieces.flatten = .ok (some 50) := by
    decide +kernel
  have hsame := (afterAll_pieces (.int 3) samplePieces).2 hlines hreads
  exact ⟨hlines, hreads, hshown, (Except.ok.inj (hshown.symm.trans hsame)).symm⟩

end Meter

end Montage.Progress
