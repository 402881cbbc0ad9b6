/-
  Montage.Proofs.Compile.Alike

  Clips and captions that are alike leave the same picture and the same sound.  A clip is known
  by its element, the kind and size of its asset and the number of its input: where its medium
  is and what it is called reaches neither.
-/
import Montage.Proofs.Compile.Success
import Montage.Proofs.Timeline.Alike

namespace Montage.Compile

open Montage.Filter (Graph)
open Montage.Number Montage.Timeline

/-! ## Alike -/

/-- Clips that are alike, of assets of one kind and size, on tracks of one kind and from inputs
with one number. -/
structure Clip.Alike (clip other : Clip) : Prop where
  element : clip.element.Alike other.element
  trackKind : clip.trackKind = other.trackKind
  kind : clip.asset.kind = other.asset.kind
  width : clip.asset.width = other.asset.width
  height : clip.asset.height = other.asset.height
  input : clip.input = other.input

/-- Steps that related items make alike lead to the same state. -/
theorem foldl_eq_of_forall₂ {α σ : Type} {related : α → α → Prop} {step : σ → α → σ}
    (hstep : ∀ state a b, related a b → step state a = step state b) {items others : List α}
    (h : List.Forall₂ related items others) (state : σ) :
    items.foldl step state = others.foldl step state := by
  induction h generalizing state with
  | nil => rfl
  | @cons a b _ _ hrelated _ ih =>
      rw [List.foldl_cons, List.foldl_cons, hstep state a b hrelated]
      exact ih _

/-! ## Effects -/

theorem customEffect?_eq {fields others : List (String × Json)} (type : String)
    (h : ∀ key, Json.lookup key fields = Json.lookup key others) :
    customEffect? type fields = customEffect? type others := by
  simp only [customEffect?, parameter, parameterOr, h]

theorem effectResult_eq {effect other : Effect} (h : effect.Alike other) :
    effectResult effect = effectResult other := by
  cases h with
  | named name => rfl
  | custom lookup => simp only [effectResult, lookup, customEffect?_eq _ lookup]

section Effects

variable {effects others : List Effect}

theorem map_effectResult_eq (h : List.Forall₂ Effect.Alike effects others) :
    effects.map effectResult = others.map effectResult :=
  map_eq_of_forall₂ (fun _ _ heffect => effectResult_eq heffect) h

theorem effectFilters_eq (h : List.Forall₂ Effect.Alike effects others) :
    effectFilters effects = effectFilters others := by
  have hresults := congrArg (List.filterMap EffectResult.filter) (map_effectResult_eq h)
  rwa [List.filterMap_map, List.filterMap_map] at hresults

theorem effectWarnings_eq (h : List.Forall₂ Effect.Alike effects others) :
    effectWarnings effects = effectWarnings others := by
  have hresults := congrArg (List.filterMap EffectResult.warning) (map_effectResult_eq h)
  rwa [List.filterMap_map, List.filterMap_map] at hresults

end Effects

/-! ## Times -/

section Times

variable {slot other : Slot}

theorem gate_eq (h : slot.Alike other) : gate slot = gate other := by
  rw [gate, gate, h.startTime, h.endTime]

theorem trimWindow_eq (h : slot.Alike other) : trimWindow slot = trimWindow other := by
  rw [trimWindow, trimWindow, trimEnd, trimEnd, trimStart, trimStart, h.trimStart, h.duration]

theorem shiftFilter_eq (h : slot.Alike other) : shiftFilter slot = shiftFilter other := by
  rw [shiftFilter, shiftFilter, h.startTime]

theorem delayMilliseconds_eq (h : slot.Alike other) :
    delayMilliseconds slot = delayMilliseconds other := by
  rw [delayMilliseconds, delayMilliseconds, h.startTime]

end Times

/-! ## The picture -/

section Picture

variable {options : Options} {frame : Frame} {clip other : Clip}

theorem videoChain_eq {element another : MediaElement} (h : element.Alike another) :
    videoChain frame element = videoChain frame another := by
  rw [videoChain, videoChain, effectFilters_eq h.effects, trimWindow_eq h.slot,
    shiftFilter_eq h.slot]

theorem addVideo_eq (h : clip.Alike other) (sheet : Sheet) :
    addVideo frame sheet clip = addVideo frame sheet other := by
  simp only [addVideo, videoOverlay, h.input, videoChain_eq h.element, gate_eq h.element.slot,
    effectWarnings_eq h.element.effects]

theorem imageChain_eq (h : clip.Alike other) : imageChain frame clip = imageChain frame other := by
  rw [imageChain, imageChain, h.width, h.height, effectFilters_eq h.element.effects,
    h.element.slot.duration, shiftFilter_eq h.element.slot]

theorem addImage_eq (h : clip.Alike other) (sheet : Sheet) :
    addImage options frame sheet clip = addImage options frame sheet other := by
  simp only [addImage, imagePosition, imageOverlay, h.input, imageChain_eq h, h.element.position,
    gate_eq h.element.slot, effectWarnings_eq h.element.effects]

theorem captionBox_eq {element another : TextElement} (h : element.Alike another) :
    captionBox options element = captionBox options another := by
  have hbackground : element.hasBackground = another.hasBackground := by
    rw [TextElement.hasBackground, TextElement.hasBackground, h.backgroundColor]
  rw [captionBox, captionBox, hbackground, h.backgroundColor]

theorem captionEdges_eq {element another : TextElement} (h : element.Alike another) :
    captionEdges options element = captionEdges options another := by
  simp only [captionEdges, captionPosition, h.x, h.y, h.position]

theorem addCaption_eq {element another : TextElement} (h : element.Alike another) (sheet : Sheet) :
    addCaption options sheet element = addCaption options sheet another := by
  simp only [addCaption, captionFilter, captionEdges_eq h, captionBox_eq h, captionPosition,
    h.content, h.fontSize, h.color, h.position, gate_eq h.slot]

/-- Clips and captions that are alike leave the same picture. -/
theorem picture_eq {selection another : Selection}
    (hclips : List.Forall₂ Clip.Alike selection.clips another.clips)
    (hcaptions : List.Forall₂ TextElement.Alike selection.captions another.captions) :
    picture options frame selection = picture options frame another := by
  have hkind (kind : MediaKind) : List.Forall₂ Clip.Alike (clipsOfKind kind selection.clips)
      (clipsOfKind kind another.clips) :=
    List.rel_filter (fun _ _ hab => by simp only [hab.kind]) hclips
  have hvideo (sheet : Sheet) (a b : Clip) (hab : a.Alike b) :
      addVideo frame sheet a = addVideo frame sheet b := addVideo_eq hab sheet
  have himage (sheet : Sheet) (a b : Clip) (hab : a.Alike b) :
      addImage options frame sheet a = addImage options frame sheet b := addImage_eq hab sheet
  have hcaption (sheet : Sheet) (a b : TextElement) (hab : a.Alike b) :
      addCaption options sheet a = addCaption options sheet b := addCaption_eq hab sheet
  simp only [picture]
  rw [foldl_eq_of_forall₂ hvideo (hkind .video), foldl_eq_of_forall₂ himage (hkind .image),
    foldl_eq_of_forall₂ hcaption hcaptions]

end Picture

/-! ## The sound -/

section Sound

variable {clips others : List Clip}

theorem isAudible_eq {clip other : Clip} (h : clip.Alike other) :
    clip.isAudible = other.isAudible := by
  rw [Clip.isAudible, Clip.isAudible, h.kind, h.trackKind, h.element.muted]

theorem soundChain_eq {element another : MediaElement} (h : element.Alike another) (delay : Int) :
    soundChain element delay = soundChain another delay := by
  rw [soundChain, soundChain, trimWindow_eq h.slot, h.volume]

theorem addSounds_eq (h : List.Forall₂ Clip.Alike clips others) (graph : Graph) :
    addSounds clips graph = addSounds others graph := by
  induction h generalizing graph with
  | nil => rfl
  | cons halike _ ih =>
      simp only [addSounds, delayMilliseconds_eq halike.element.slot, halike.input,
        soundChain_eq halike.element, ih]

/-- Clips that are alike leave the same sound, or fail alike. -/
theorem sound_eq (h : List.Forall₂ Clip.Alike clips others) (graph : Graph) :
    sound clips graph = sound others graph := by
  have haudible : List.Forall₂ Clip.Alike (clips.filter Clip.isAudible)
      (others.filter Clip.isAudible) :=
    List.rel_filter (fun _ _ hab => by simp only [isAudible_eq hab]) h
  simp only [sound]
  rw [addSounds_eq haudible]

end Sound

end Montage.Compile
