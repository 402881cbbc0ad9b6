/-
  Montage.Proofs.Compile.Wiring

  The graph of a compiled timeline is connected: each label is written once, read after
  that and read once, and only the finished picture and the finished sound stay unread.
  During the picture passes the surface is the only loose label; during the sound pass
  the labels of the sounds so far are loose as well.
-/
import Montage.Proofs.Compile.Success
import Montage.Proofs.Filter.Wiring

namespace Montage.Compile

open Montage.Filter (Graph IsPad Wired Connected endsInDigit)
open Montage.Number Montage.Timeline

/-! ## Stems and pads -/

theorem isPad_picturePad (input : Nat) : IsPad (picturePad input) :=
  ⟨input, .inl rfl⟩

theorem isPad_soundPad (input : Nat) : IsPad (soundPad input) :=
  ⟨input, .inr rfl⟩

theorem endsInDigit_pictureStem : endsInDigit "v" = false := by decide

theorem endsInDigit_soundStem : endsInDigit "a" = false := by decide

theorem endsInDigit_baseLabel : endsInDigit baseLabel = false := by decide

theorem not_isPad_baseLabel : ¬ IsPad baseLabel := by
  rintro ⟨input, h | h⟩
  · have hlast := congrArg (fun label => label.toList.getLast?) h
    simp [baseLabel, String.toList_append] at hlast
  · have hlast := congrArg (fun label => label.toList.getLast?) h
    simp [baseLabel, String.toList_append] at hlast

/-! ## Picture -/

/-- A sheet on which the surface is the only label that was not read yet. -/
def Sheet.Ready (sheet : Sheet) : Prop :=
  Wired sheet.graph [sheet.surface]

theorem ready_baseSheet (frame : Frame) : (baseSheet frame).Ready :=
  .first (isPad_picturePad 0) endsInDigit_baseLabel not_isPad_baseLabel (baseChain frame)

/-- A clip over its blurred copy adds one loose label, that of the composed stream. -/
theorem wired_blurredBackdrop (frame : Frame) (input : Nat) {graph : Graph} {loose : List String}
    (h : Wired graph loose) :
    Wired (blurredBackdrop frame (picturePad input) graph).2
      ((blurredBackdrop frame (picturePad input) graph).1 :: loose) := by
  -- two copies of the clip, both loose
  have hsplit := h.extend endsInDigit_pictureStem 2 [picturePad input] []
    [{ name := "split", args := [.int 2] }] (by simpa using isPad_picturePad input) (.refl _)
  -- the first copy fills the frame, the second one fits into it
  have hback := hsplit.addFresh_links endsInDigit_pictureStem ["v" ++ graph.counter.repr]
    (("v" ++ (graph.counter + 1).repr) :: loose) (.refl _)
    [scaleFilter frame "increase",
      { name := "crop", args := [.int frame.width, .int frame.height] },
      { name := "boxblur", args := [.num frame.blurIntensity] }]
  have hfront := hback.addFresh_links endsInDigit_pictureStem ["v" ++ (graph.counter + 1).repr] _
    (.swap ..) [scaleFilter frame "decrease"]
  exact hfront.addFresh_links endsInDigit_pictureStem [_, _] loose (.swap ..)
    [{ name := "overlay", args := [.str "(W-w)/2", .str "(H-h)/2"] }]

theorem ready_addVideo (frame : Frame) {sheet : Sheet} (h : sheet.Ready) (clip : Clip) :
    (addVideo frame sheet clip).Ready := by
  unfold addVideo fitToCanvas
  cases hb : frame.backdrop with
  | color =>
      have hprepared := h.addFresh_pad endsInDigit_pictureStem (isPad_picturePad clip.input)
        (paddedFit frame ++ videoChain frame clip.element)
      exact hprepared.addFresh_links endsInDigit_pictureStem [sheet.surface, _] [] (.swap ..)
        [videoOverlay clip.element.toSlot]
  | blur =>
      have hfitted := wired_blurredBackdrop frame clip.input h
      have hprepared := hfitted.addFresh_links endsInDigit_pictureStem [_] [sheet.surface] (.refl _)
        ([] ++ videoChain frame clip.element)
      exact hprepared.addFresh_links endsInDigit_pictureStem [sheet.surface, _] [] (.swap ..)
        [videoOverlay clip.element.toSlot]

theorem ready_addImage (options : Options) (frame : Frame) {sheet : Sheet} (h : sheet.Ready)
    (clip : Clip) : (addImage options frame sheet clip).Ready := by
  have hscaled := h.addFresh_pad endsInDigit_pictureStem (isPad_picturePad clip.input)
    (imageChain frame clip)
  exact hscaled.addFresh_links endsInDigit_pictureStem [sheet.surface, _] [] (.swap ..) _

theorem ready_addCaption (options : Options) {sheet : Sheet} (h : sheet.Ready)
    (element : TextElement) : (addCaption options sheet element).Ready :=
  h.addFresh_links endsInDigit_pictureStem [sheet.surface] [] (.refl _)
    [captionFilter options element]

/-- What every step of a pass keeps, the pass keeps. -/
theorem ready_foldl {α : Type} {step : Sheet → α → Sheet}
    (hstep : ∀ sheet item, sheet.Ready → (step sheet item).Ready) (items : List α) {sheet : Sheet}
    (h : sheet.Ready) : (items.foldl step sheet).Ready := by
  induction items generalizing sheet with
  | nil => exact h
  | cons item rest ih => exact ih (hstep sheet item h)

theorem ready_picture (options : Options) (frame : Frame) (selection : Selection) :
    (picture options frame selection).Ready := by
  have hvideos := ready_foldl (fun _ clip h => ready_addVideo frame h clip)
    (clipsOfKind .video selection.clips) (ready_baseSheet frame)
  have himages := ready_foldl (fun _ clip h => ready_addImage options frame h clip)
    (clipsOfKind .image selection.clips) hvideos
  exact ready_foldl (fun _ element h => ready_addCaption options h element) selection.captions
    himages

/-! ## Sound -/

/-- The chains of audible clips add their own labels to the loose ones. -/
theorem wired_addSounds {clips : List Clip} {graph after : Graph} {names loose : List String}
    (h : Wired graph loose) (hadd : addSounds clips graph = .ok (names, after)) :
    Wired after (names ++ loose) := by
  induction clips generalizing graph names loose with
  | nil =>
      obtain ⟨rfl, rfl⟩ := Prod.mk.inj (Except.ok.inj hadd)
      exact h
  | cons clip rest ih =>
      -- the label of this clip is loose while the others are added
      obtain ⟨delay, others, -, hrest, rfl⟩ := addSounds_cons_eq_ok.mp hadd
      have hclip := h.addFresh_pad endsInDigit_soundStem (isPad_soundPad clip.input)
        (soundChain clip.element delay)
      exact (ih hclip hrest).perm List.perm_middle

/-- Mixing puts one loose label, if there is any, in the place of all sounds. -/
theorem wired_mixSounds {names loose : List String} {graph : Graph}
    (h : Wired graph (names ++ loose)) :
    Wired (mixSounds names graph).2 ((mixSounds names graph).1.toList ++ loose) := by
  match names with
  | [] => exact h
  | [_] => exact h
  | first :: second :: others =>
      exact h.addFresh_links endsInDigit_soundStem (first :: second :: others) loose (.refl _)
        [mixFilter (first :: second :: others).length]

theorem wired_sound {clips : List Clip} {graph after : Graph} {audio : Option String}
    {loose : List String} (h : Wired graph loose)
    (hsound : sound clips graph = .ok (audio, after)) :
    Wired after (audio.toList ++ loose) := by
  obtain ⟨names, middle, hadd, hmix⟩ := sound_eq_ok.mp hsound
  have hmixed := wired_mixSounds (wired_addSounds h hadd)
  rw [hmix] at hmixed
  exact hmixed

/-! ## The whole graph -/

/-- The graph of a compiled timeline is connected, and its final labels are those of the
    picture and of the sound, if there is any. -/
theorem compile_connected {options : Options} {document : Document} {compilation : Compilation}
    (h : compile options document = .ok compilation) :
    Connected compilation.graph.nodes (compilation.video :: compilation.audio.toList) := by
  obtain ⟨audio, graph, hsound, rfl⟩ := compile_eq_ok.mp h
  have hpicture := ready_picture options (Frame.of document options) (select document)
  have hwired := wired_sound hpicture hsound
  exact (hwired.perm List.perm_append_comm).connected

theorem compile_connected_sampleDocument : ∃ compilation,
    compile {} sampleDocument = .ok compilation ∧
      Connected compilation.graph.nodes (compilation.video :: compilation.audio.toList) := by
  obtain ⟨compilation, h⟩ := exists_compile_sampleDocument
  exact ⟨compilation, h, compile_connected h⟩

end Montage.Compile
