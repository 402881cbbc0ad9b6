/-
  Montage.Proofs.Compile.Layers

  The nodes of a compiled graph in closed form: the base surface, the nodes of every
  video clip, image and caption, each drawn on the surface of the one before it, the
  chains of the sounds and their mix.  All labels are numbered through.
-/
import Montage.Proofs.Compile.Success
import Montage.Proofs.Filter.Wiring

namespace Montage.Compile

open Montage.Filter (Graph Node labels)
open Montage.Number Montage.Timeline

/-! ## Brushes -/

/-- The picture label with a number. -/
def pictureLabel (number : Nat) : String :=
  "v" ++ number.repr

/-- The labels that surfaces have. -/
def IsSurface (label : String) : Prop :=
  label = baseLabel ∨ ∃ number, label = pictureLabel number

@[simp] theorem isSurface_pictureLabel (number : Nat) : IsSurface (pictureLabel number) :=
  .inr ⟨number, rfl⟩

/-- How far a picture has come: the label of its surface, and the number of the next
    label. -/
structure Mark where
  surface : String
  next : Nat

def Sheet.mark (sheet : Sheet) : Mark :=
  ⟨sheet.surface, sheet.graph.counter⟩

/-- A way to draw items.  `nodes` are those of one item; of the labels they write, `top`
    counted from the first is that of the new surface and the last one. -/
structure Brush (α : Type) where
  nodes : α → Mark → List Node
  top : Nat

namespace Brush

variable {α : Type}

/-- The mark after one item. -/
def advance (brush : Brush α) (mark : Mark) : Mark :=
  ⟨pictureLabel (mark.next + brush.top), mark.next + brush.top + 1⟩

/-- The nodes of each item, drawn on the surface of the item before it. -/
def strokes (brush : Brush α) : List α → Mark → List (List Node)
  | [], _ => []
  | item :: rest, mark => brush.nodes item mark :: brush.strokes rest (brush.advance mark)

/-- The mark after all items. -/
def finish (brush : Brush α) : List α → Mark → Mark
  | [], mark => mark
  | _ :: rest, mark => brush.finish rest (brush.advance mark)

/-- A step of a pass that draws an item with a brush. -/
def Draws (brush : Brush α) (step : Sheet → α → Sheet) : Prop :=
  ∀ sheet item,
    (step sheet item).graph.nodes = sheet.graph.nodes ++ brush.nodes item sheet.mark ∧
      (step sheet item).mark = brush.advance sheet.mark

/-- What a pass draws that takes one item after the other. -/
theorem Draws.foldl {brush : Brush α} {step : Sheet → α → Sheet} (h : brush.Draws step)
    (items : List α) (sheet : Sheet) :
    (items.foldl step sheet).graph.nodes =
        sheet.graph.nodes ++ (brush.strokes items sheet.mark).flatten ∧
      (items.foldl step sheet).mark = brush.finish items sheet.mark := by
  induction items generalizing sheet with
  | nil => exact ⟨by simp [strokes], rfl⟩
  | cons item rest ih =>
      obtain ⟨hnodes, hmark⟩ := h sheet item
      obtain ⟨hrest, hend⟩ := ih (step sheet item)
      rw [hnodes, hmark] at hrest
      rw [hmark] at hend
      rw [List.foldl_cons, hrest, hend]
      exact ⟨by simp [strokes], rfl⟩

/-- Each item has nodes of its own, drawn on a surface. -/
theorem forall₂_strokes (brush : Brush α) (items : List α) {mark : Mark}
    (h : IsSurface mark.surface) :
    List.Forall₂
      (fun item part => ∃ before : Mark, IsSurface before.surface ∧ part = brush.nodes item before)
      items (brush.strokes items mark) := by
  induction items generalizing mark with
  | nil => exact .nil
  | cons item rest ih =>
      exact .cons ⟨mark, h, rfl⟩ (ih (isSurface_pictureLabel (mark.next + brush.top)))

theorem isSurface_finish (brush : Brush α) (items : List α) {mark : Mark}
    (h : IsSurface mark.surface) : IsSurface (brush.finish items mark).surface := by
  induction items generalizing mark with
  | nil => exact h
  | cons item rest ih => exact ih (isSurface_pictureLabel (mark.next + brush.top))

end Brush

/-! ## Video clips -/

/-- The nodes that put a stream over a blurred copy of itself. -/
def backdropNodes (frame : Frame) (pad : String) (first : Nat) : List Node :=
  [⟨[pad], [{ name := "split", args := [.int 2] }], [pictureLabel first, pictureLabel (first + 1)]⟩,
   ⟨[pictureLabel first],
    [scaleFilter frame "increase",
     { name := "crop", args := [.int frame.width, .int frame.height] },
     { name := "boxblur", args := [.num frame.blurIntensity] }],
    [pictureLabel (first + 2)]⟩,
   ⟨[pictureLabel (first + 1)], [scaleFilter frame "decrease"], [pictureLabel (first + 3)]⟩,
   ⟨[pictureLabel (first + 2), pictureLabel (first + 3)],
    [{ name := "overlay", args := [.str "(W-w)/2", .str "(H-h)/2"] }], [pictureLabel (first + 4)]⟩]

/-- The node that prepares the stream of a clip, and the one that composes it. -/
def clipNodes (stream surface : String) (chain : List Filter) (overlay : Filter) (first : Nat) :
    List Node :=
  [⟨[stream], chain, [pictureLabel first]⟩,
   ⟨[surface, pictureLabel first], [overlay], [pictureLabel (first + 1)]⟩]

def videoBrush (frame : Frame) : Brush Clip :=
  match frame.backdrop with
  | .color =>
    { nodes := fun clip mark =>
        clipNodes (picturePad clip.input) mark.surface
          (paddedFit frame ++ videoChain frame clip.element) (videoOverlay clip.element.toSlot)
          mark.next
      top := 1 }
  | .blur =>
    { nodes := fun clip mark =>
        backdropNodes frame (picturePad clip.input) mark.next ++
          clipNodes (pictureLabel (mark.next + 4)) mark.surface (videoChain frame clip.element)
            (videoOverlay clip.element.toSlot) (mark.next + 5)
      top := 6 }

theorem draws_addVideo (frame : Frame) : (videoBrush frame).Draws (addVideo frame) := by
  intro sheet clip
  unfold addVideo fitToCanvas videoBrush
  cases frame.backdrop with
  | color =>
      constructor
      · simp [Graph.addFresh, Graph.fresh, Graph.add, Sheet.mark, clipNodes, pictureLabel]
      · rfl
  | blur =>
      constructor
      · simp [blurredBackdrop, Graph.addFresh, Graph.fresh, Graph.add, Sheet.mark, backdropNodes,
          clipNodes, pictureLabel]
      · rfl

/-! ## Images and captions -/

def imageBrush (options : Options) (frame : Frame) : Brush Clip where
  nodes clip mark :=
    clipNodes (picturePad clip.input) mark.surface (imageChain frame clip)
      (imageOverlay ((presetOf (imagePosition options clip.element)).edges {}) clip.element.toSlot)
      mark.next
  top := 1

theorem draws_addImage (options : Options) (frame : Frame) :
    (imageBrush options frame).Draws (addImage options frame) := by
  intro sheet clip
  constructor
  · simp [addImage, Graph.addFresh, Graph.fresh, Graph.add, Sheet.mark, imageBrush, clipNodes,
      pictureLabel]
  · rfl

def captionBrush (options : Options) : Brush TextElement where
  nodes element mark :=
    [⟨[mark.surface], [captionFilter options element], [pictureLabel mark.next]⟩]
  top := 0

theorem draws_addCaption (options : Options) :
    (captionBrush options).Draws (addCaption options) := by
  intro sheet element
  exact ⟨rfl, rfl⟩

/-! ## Sounds -/

/-- The chains of audible clips with their delays, labelled from a number on. -/
def soundNodes : List (Clip × Int) → Nat → List Node
  | [], _ => []
  | (clip, delay) :: rest, first =>
    ⟨[soundPad clip.input], soundChain clip.element delay, ["a" ++ first.repr]⟩ ::
      soundNodes rest (first + 1)

/-- The node that mixes sounds, if there are several. -/
def mixNodes (names : List String) (number : Nat) : List Node :=
  match names with
  | [] => []
  | [_] => []
  | several => [⟨several, [mixFilter several.length], ["a" ++ number.repr]⟩]

/-- The label of the finished sound. -/
def mixLabel? (names : List String) (number : Nat) : Option String :=
  match names with
  | [] => none
  | [only] => some only
  | _ => some ("a" ++ number.repr)

theorem addSounds_eq_ok {clips : List Clip} {graph after : Graph} {names : List String}
    (h : addSounds clips graph = .ok (names, after)) :
    ∃ timed : List (Clip × Int), timed.map Prod.fst = clips ∧
      (∀ sound ∈ timed, delayMilliseconds sound.1.element.toSlot = .ok sound.2) ∧
      after = ⟨graph.nodes ++ soundNodes timed graph.counter, graph.counter + timed.length⟩ ∧
      names = labels "a" graph.counter timed.length := by
  induction clips generalizing graph names with
  | nil =>
      obtain ⟨rfl, rfl⟩ := Prod.mk.inj (Except.ok.inj h)
      exact ⟨[], rfl, by simp, by simp [soundNodes], rfl⟩
  | cons clip rest ih =>
      obtain ⟨delay, others, hdelay, hrest, rfl⟩ := addSounds_cons_eq_ok.mp h
      obtain ⟨timed, rfl, hdelays, rfl, rfl⟩ := ih hrest
      refine ⟨(clip, delay) :: timed, rfl, ?_, ?_, ?_⟩
      · intro sound hsound
        rcases List.mem_cons.mp hsound with rfl | hother
        · exact hdelay
        · exact hdelays sound hother
      · simp [Graph.addFresh, Graph.fresh, Graph.add, soundNodes]
        omega
      · simp [Graph.addFresh, Graph.fresh, Graph.add, labels, List.range'_succ]

theorem mixSounds_eq {names : List String} {graph after : Graph} {audio : Option String}
    (h : mixSounds names graph = (audio, after)) :
    audio = mixLabel? names graph.counter ∧
      after.nodes = graph.nodes ++ mixNodes names graph.counter := by
  match names with
  | [] =>
      obtain ⟨rfl, rfl⟩ := Prod.mk.inj h
      simp [mixLabel?, mixNodes]
  | [_] =>
      obtain ⟨rfl, rfl⟩ := Prod.mk.inj h
      simp [mixLabel?, mixNodes]
  | _ :: _ :: _ =>
      obtain ⟨rfl, rfl⟩ := Prod.mk.inj h
      exact ⟨rfl, rfl⟩

/-! ## The whole picture -/

/-- The node of the base surface. -/
def baseNode (frame : Frame) : Node :=
  ⟨[picturePad 0], baseChain frame, [baseLabel]⟩

/-- The marks after the base surface, the video clips, the images and the captions. -/
def baseMark : Mark :=
  ⟨baseLabel, 0⟩

def videoMark (frame : Frame) (selection : Selection) : Mark :=
  (videoBrush frame).finish (clipsOfKind .video selection.clips) baseMark

def imageMark (options : Options) (frame : Frame) (selection : Selection) : Mark :=
  (imageBrush options frame).finish (clipsOfKind .image selection.clips) (videoMark frame selection)

def captionMark (options : Options) (frame : Frame) (selection : Selection) : Mark :=
  (captionBrush options).finish selection.captions (imageMark options frame selection)

/-- The nodes of the picture, one list for each thing that is drawn. -/
def pictureNodes (options : Options) (frame : Frame) (selection : Selection) : List (List Node) :=
  (videoBrush frame).strokes (clipsOfKind .video selection.clips) baseMark ++
    (imageBrush options frame).strokes (clipsOfKind .image selection.clips)
      (videoMark frame selection) ++
    (captionBrush options).strokes selection.captions (imageMark options frame selection)

theorem isSurface_videoMark (frame : Frame) (selection : Selection) :
    IsSurface (videoMark frame selection).surface :=
  (videoBrush frame).isSurface_finish _ (.inl rfl)

theorem isSurface_imageMark (options : Options) (frame : Frame) (selection : Selection) :
    IsSurface (imageMark options frame selection).surface :=
  (imageBrush options frame).isSurface_finish _ (isSurface_videoMark frame selection)

theorem nodes_picture (options : Options) (frame : Frame) (selection : Selection) :
    (picture options frame selection).graph.nodes =
        baseNode frame :: (pictureNodes options frame selection).flatten ∧
      (picture options frame selection).mark = captionMark options frame selection := by
  obtain ⟨hvideos, hvideoMark⟩ := (draws_addVideo frame).foldl
    (clipsOfKind .video selection.clips) (baseSheet frame)
  obtain ⟨himages, himageMark⟩ := (draws_addImage options frame).foldl
    (clipsOfKind .image selection.clips)
    ((clipsOfKind .video selection.clips).foldl (addVideo frame) (baseSheet frame))
  obtain ⟨hcaptions, hcaptionMark⟩ := (draws_addCaption options).foldl selection.captions
    ((clipsOfKind .image selection.clips).foldl (addImage options frame)
      ((clipsOfKind .video selection.clips).foldl (addVideo frame) (baseSheet frame)))
  rw [hvideoMark] at himages himageMark
  rw [himageMark] at hcaptions hcaptionMark
  rw [himages, hvideos] at hcaptions
  refine ⟨hcaptions.trans ?_, hcaptionMark⟩
  simp only [pictureNodes, List.flatten_append]
  rfl

/-! ## The whole graph -/

/-- The nodes of a compiled graph, and the labels of the finished picture and sound. -/
theorem exists_timed {options : Options} {document : Document} {compilation : Compilation}
    (h : compile options document = .ok compilation) :
    let frame := Frame.of document options
    let selection := select document
    let mark := captionMark options frame selection
    ∃ timed : List (Clip × Int),
      timed.map Prod.fst = selection.clips.filter Clip.isAudible ∧
      (∀ sound ∈ timed, delayMilliseconds sound.1.element.toSlot = .ok sound.2) ∧
      compilation.graph.nodes =
        baseNode frame :: ((pictureNodes options frame selection).flatten ++
          soundNodes timed mark.next ++
          mixNodes (labels "a" mark.next timed.length) (mark.next + timed.length)) ∧
      compilation.video = mark.surface ∧
      compilation.audio =
        mixLabel? (labels "a" mark.next timed.length) (mark.next + timed.length) := by
  obtain ⟨audio, graph, hsound, rfl⟩ := compile_eq_ok.mp h
  obtain ⟨names, middle, hadd, hmix⟩ := sound_eq_ok.mp hsound
  obtain ⟨timed, htimed, hdelays, rfl, rfl⟩ := addSounds_eq_ok hadd
  obtain ⟨hnodes, hmark⟩ := nodes_picture options (Frame.of document options) (select document)
  have hnext : (picture options (Frame.of document options) (select document)).graph.counter =
      (captionMark options (Frame.of document options) (select document)).next :=
    congrArg Mark.next hmark
  obtain ⟨rfl, hgraph⟩ := mixSounds_eq hmix
  rw [hnodes, hnext] at hgraph
  refine ⟨timed, htimed, hdelays, ?_, congrArg Mark.surface hmark, ?_⟩
  · exact hgraph.trans (by simp)
  · rw [← hnext]
    rfl

end Montage.Compile
