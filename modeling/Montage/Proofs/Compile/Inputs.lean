/-
  Montage.Proofs.Compile.Inputs

  The engine inputs of a compiled timeline: the base surface, one input for each medium
  in use in order of first use, and silence if there is no sound.  Every stream that
  the graph takes from an input for an element comes from the input of the element's
  own medium.
-/
import Montage.Proofs.Compile.Layers
import Montage.Proofs.Compile.Wiring

namespace Montage.Compile

open Montage.Filter (Node IsPad consumed labels)
open Montage.Number Montage.Timeline

/-! ## Numbers of inputs -/

theorem mediaId_mem_usedMediaIds {document : Document} {take : Take}
    (h : take ∈ takes document.mediaItems (visits document.tracks)) :
    take.source.mediaId ∈ document.usedMediaIds := by
  rw [← map_mediaId_sources, select, map_mediaId_distinctSources, mem_firstSeen, List.map_map]
  exact List.mem_map_of_mem h

/-- A clip is read from the input of its own medium. -/
theorem input_of_mem_clips {document : Document} {clip : Clip}
    (h : clip ∈ (select document).clips) :
    document.mediaItems.find? clip.element.mediaId = some clip.asset ∧
      ∃ index, clip.input = index + 1 ∧
        document.usedMediaIds[index]? = some clip.element.mediaId := by
  obtain ⟨take, htake, rfl⟩ := List.mem_map.mp h
  obtain ⟨-, -, -, -, hsource⟩ := mem_takes.mp htake
  obtain ⟨hid, hfind, -⟩ := source?_eq_ok.mp hsource
  refine ⟨hfind, document.usedMediaIds.idxOf take.source.mediaId, ?_, ?_⟩
  · rw [← map_mediaId_sources]
    rfl
  · have hlt := List.idxOf_lt_length_of_mem (mediaId_mem_usedMediaIds htake)
    rw [List.getElem?_eq_getElem hlt, List.getElem_idxOf hlt, hid]
    rfl

/-! ## Inputs that the engine makes itself -/

/-- The length of the output as it is written: that of the timeline, or the least duration where
    that is longer. -/
def lengthText (options : Options) (document : Document) : String :=
  Filter.secondsText (later (Timeline.duration document.tracks) options.minDuration)

/-- The base surface: the background colour, in the size and at the rate of the project. -/
def lavfiColor (options : Options) (document : Document) : Input :=
  { locator := "color=c=" ++ Filter.colorText document.project.backgroundColor ++
      ":s=" ++ toString document.project.canvas.width ++ "x" ++
      toString document.project.canvas.height ++ ":r=" ++ toString document.project.fps ++
      ":d=" ++ lengthText options document
    options := ["-f", "lavfi"] }

/-- Silence for the whole length. -/
def lavfiSilence (options : Options) (document : Document) : Input :=
  { locator := "anullsrc=channel_layout=stereo:sample_rate=44100"
    options := ["-f", "lavfi", "-t", lengthText options document] }

/-! ## Sources as inputs -/

/-- What the engine reads for a medium: its url, repeated if it is an image. -/
def IsInputOf (document : Document) (id : String) (input : Input) : Prop :=
  ∃ asset url, document.mediaItems.find? id = some asset ∧ asset.url = some url ∧ url ≠ "" ∧
    input = ⟨url, if asset.kind = .image then ["-loop", "1"] else []⟩

theorem isInputOf_sources (document : Document) :
    List.Forall₂ (IsInputOf document) document.usedMediaIds
      ((select document).sources.map Source.input) := by
  rw [← map_mediaId_sources, List.forall₂_map_left_iff, List.forall₂_map_right_iff]
  refine List.forall₂_same.mpr fun source hsource => ?_
  obtain ⟨hfind, hplace⟩ := place_of_mem_sources hsource
  obtain ⟨hurl, hne⟩ := locator?_eq_some.mp hplace
  exact ⟨source.asset, source.locator, hfind, hurl, hne, rfl⟩

/-! ## Streams of inputs -/

/-- Of the streams of engine inputs, nodes read one and no other. -/
def ReadsOnly (pad : String) (nodes : List Node) : Prop :=
  pad ∈ consumed nodes ∧ ∀ label ∈ consumed nodes, IsPad label → label = pad

theorem IsSurface.not_isPad {label : String} (h : IsSurface label) : ¬ IsPad label := by
  rcases h with rfl | ⟨number, rfl⟩
  · exact not_isPad_baseLabel
  · exact Filter.not_isPad_append_repr "v" number

theorem readsOnly_of_surfaces {pad : String} {nodes : List Node} (hpad : pad ∈ consumed nodes)
    (hrest : ∀ label ∈ consumed nodes, label = pad ∨ IsSurface label) : ReadsOnly pad nodes := by
  refine ⟨hpad, fun label hlabel hispad => ?_⟩
  rcases hrest label hlabel with heq | hsurface
  · exact heq
  · exact absurd hispad hsurface.not_isPad

theorem consumed_backdropNodes (frame : Frame) (pad : String) (first : Nat) :
    consumed (backdropNodes frame pad first) =
      [pad, pictureLabel first, pictureLabel (first + 1), pictureLabel (first + 2),
        pictureLabel (first + 3)] := rfl

theorem consumed_clipNodes (stream surface : String) (chain : List Filter) (overlay : Filter)
    (first : Nat) :
    consumed (clipNodes stream surface chain overlay first) =
      [stream, surface, pictureLabel first] := rfl

theorem readsOnly_videoNodes (frame : Frame) (clip : Clip) {mark : Mark}
    (h : IsSurface mark.surface) :
    ReadsOnly (picturePad clip.input) ((videoBrush frame).nodes clip mark) := by
  unfold videoBrush
  cases frame.backdrop with
  | color =>
      apply readsOnly_of_surfaces
      · simp [consumed_clipNodes]
      · simp [consumed_clipNodes, h]
  | blur =>
      apply readsOnly_of_surfaces
      · simp [consumed_backdropNodes]
      · simp [consumed_backdropNodes, consumed_clipNodes, h]

theorem readsOnly_imageNodes (options : Options) (frame : Frame) (clip : Clip) {mark : Mark}
    (h : IsSurface mark.surface) :
    ReadsOnly (picturePad clip.input) ((imageBrush options frame).nodes clip mark) := by
  apply readsOnly_of_surfaces
  · simp [imageBrush, consumed_clipNodes]
  · simp [imageBrush, consumed_clipNodes, h]

/-- The nodes of captions read surfaces. -/
theorem isSurface_of_mem_consumed_captions (options : Options) (captions : List TextElement)
    {mark : Mark} (h : IsSurface mark.surface) :
    ∀ label ∈ consumed ((captionBrush options).strokes captions mark).flatten, IsSurface label := by
  induction captions generalizing mark with
  | nil => simp [Brush.strokes, consumed]
  | cons element rest ih =>
      have hnext : IsSurface ((captionBrush options).advance mark).surface :=
        isSurface_pictureLabel _
      intro label hlabel
      rw [Brush.strokes, List.flatten_cons, Filter.consumed_append, List.mem_append] at hlabel
      rcases hlabel with hfirst | hother
      · have heq : label = mark.surface := by simpa [captionBrush, consumed] using hfirst
        exact heq ▸ h
      · exact ih hnext label hother

theorem not_isPad_of_mem_consumed_mixNodes {first count number : Nat} {label : String}
    (h : label ∈ consumed (mixNodes (labels "a" first count) number)) : ¬ IsPad label := by
  have hmem : label ∈ labels "a" first count := by
    match hnames : labels "a" first count with
    | [] => simp [mixNodes, consumed, hnames] at h
    | [_] => simp [mixNodes, consumed, hnames] at h
    | _ :: _ :: _ => simpa [mixNodes, consumed, hnames] using h
  obtain ⟨same, -, rfl⟩ := List.mem_map.mp hmem
  exact Filter.not_isPad_append_repr "a" same

theorem forall₂_timed_soundNodes (timed : List (Clip × Int)) (first : Nat) :
    List.Forall₂
      (fun sound node => ∃ label,
        node = ⟨[soundPad sound.1.input], soundChain sound.1.element sound.2, [label]⟩)
      timed (soundNodes timed first) := by
  induction timed generalizing first with
  | nil => exact .nil
  | cons sound rest ih => exact .cons ⟨_, rfl⟩ (ih (first + 1))

theorem forall₂_soundNodes (timed : List (Clip × Int)) (first : Nat) :
    List.Forall₂
      (fun clip node => ∃ delay label,
        node = ⟨[soundPad clip.input], soundChain clip.element delay, [label]⟩)
      (timed.map Prod.fst) (soundNodes timed first) := by
  rw [List.forall₂_map_left_iff]
  exact (forall₂_timed_soundNodes timed first).imp fun sound _ hnode => ⟨sound.2, hnode⟩

/-- The streams that nodes read from engine inputs: the base surface from the first one,
    and each clip from its own. -/
def ReadsOwnInputs (options : Options) (frame : Frame) (clips : List Clip) (nodes : List Node) :
    Prop :=
  ∃ videos images : List (List Node), ∃ captions sounds mix : List Node,
    nodes = baseNode frame ::
      (videos.flatten ++ images.flatten ++ captions ++ sounds ++ mix) ∧
    List.Forall₂
      (fun clip part => (∃ mark, part = (videoBrush frame).nodes clip mark) ∧
        ReadsOnly (picturePad clip.input) part)
      (clipsOfKind .video clips) videos ∧
    List.Forall₂
      (fun clip part => (∃ mark, part = (imageBrush options frame).nodes clip mark) ∧
        ReadsOnly (picturePad clip.input) part)
      (clipsOfKind .image clips) images ∧
    List.Forall₂
      (fun clip node => ∃ delay label,
        node = ⟨[soundPad clip.input], soundChain clip.element delay, [label]⟩)
      (clips.filter Clip.isAudible) sounds ∧
    ∀ label ∈ consumed (captions ++ mix), ¬ IsPad label

theorem readsOwnInputs_compile {options : Options} {document : Document} {compilation : Compilation}
    (h : compile options document = .ok compilation) :
    ReadsOwnInputs options (Frame.of document options) (select document).clips
      compilation.graph.nodes := by
  obtain ⟨timed, htimed, -, hnodes, -, -⟩ := exists_timed h
  let frame := Frame.of document options
  let selection := select document
  have hvideo := isSurface_videoMark frame selection
  have himage := isSurface_imageMark options frame selection
  refine ⟨(videoBrush frame).strokes (clipsOfKind .video selection.clips) baseMark,
    (imageBrush options frame).strokes (clipsOfKind .image selection.clips)
      (videoMark frame selection),
    ((captionBrush options).strokes selection.captions
      (imageMark options frame selection)).flatten,
    soundNodes timed (captionMark options frame selection).next,
    mixNodes (labels "a" (captionMark options frame selection).next timed.length)
      ((captionMark options frame selection).next + timed.length), ?_, ?_, ?_, ?_, ?_⟩
  · rw [hnodes, pictureNodes, List.flatten_append, List.flatten_append]
  · refine ((videoBrush frame).forall₂_strokes _ (.inl rfl)).imp ?_
    rintro clip part ⟨mark, hsurface, rfl⟩
    exact ⟨⟨mark, rfl⟩, readsOnly_videoNodes frame clip hsurface⟩
  · refine ((imageBrush options frame).forall₂_strokes _ hvideo).imp ?_
    rintro clip part ⟨mark, hsurface, rfl⟩
    exact ⟨⟨mark, rfl⟩, readsOnly_imageNodes options frame clip hsurface⟩
  · rw [← htimed]
    exact forall₂_soundNodes timed _
  · intro label hlabel
    rw [Filter.consumed_append, List.mem_append] at hlabel
    rcases hlabel with hcaption | hmix
    · exact (isSurface_of_mem_consumed_captions options _ himage label hcaption).not_isPad
    · exact not_isPad_of_mem_consumed_mixNodes hmix

/-! ## The layout of inputs -/

/-- The engine inputs of a compilation, how they are passed on, and how they are used. -/
structure InputLayout (options : Options) (document : Document) (compilation : Compilation) :
    Prop where
  /-- The base surface, the media in use in order of first use, and silence at the end if
      there is no sound. -/
  inputs : ∃ used,
    compilation.inputs = lavfiColor options document :: used ++
      (if compilation.audio = none then [lavfiSilence options document] else []) ∧
    List.Forall₂ (IsInputOf document) document.usedMediaIds used
  texts : compilation.inputTexts =
    compilation.inputs.map fun input => " ".intercalate (input.options ++ ["-i", input.locator])
  /-- The arguments start with the inputs; the sound is the final label, or silence by the
      number of its input. -/
  arguments : compilation.arguments =
    (compilation.inputs.flatMap fun input => input.options ++ ["-i", input.locator]) ++
      ["-filter_complex", compilation.graph.serialize,
       "-map", "[" ++ compilation.video ++ "]",
       "-map",
        match compilation.audio with
        | some label => "[" ++ label ++ "]"
        | none => (document.usedMediaIds.length + 1).repr ++ ":a"] ++
      (if compilation.audio = none then ["-shortest"] else []) ++ compilation.encoding
  /-- The clips show the media elements that are rendered. -/
  elements : (select document).clips.map Clip.element = document.renderedMedia
  /-- The input of a clip is there, and it is that of its own medium. -/
  own : ∀ clip ∈ (select document).clips,
    document.mediaItems.find? clip.element.mediaId = some clip.asset ∧
      clip.input < compilation.inputs.length ∧
      ∃ index, clip.input = index + 1 ∧
        document.usedMediaIds[index]? = some clip.element.mediaId
  streams : ReadsOwnInputs options (Frame.of document options) (select document).clips
    compilation.graph.nodes

theorem length_sources (document : Document) :
    (select document).sources.length = document.usedMediaIds.length := by
  rw [← map_mediaId_sources, List.length_map]

theorem inputs_of_compile {options : Options} {document : Document} {compilation : Compilation}
    (h : compile options document = .ok compilation) : ∃ used,
    compilation.inputs = lavfiColor options document :: used ++
      (if compilation.audio = none then [lavfiSilence options document] else []) ∧
    List.Forall₂ (IsInputOf document) document.usedMediaIds used := by
  obtain ⟨audio, graph, -, rfl⟩ := compile_eq_ok.mp h
  refine ⟨(select document).sources.map Source.input, ?_, isInputOf_sources document⟩
  cases audio with
  | none => rfl
  | some label => rfl

theorem arguments_of_compile {options : Options} {document : Document} {compilation : Compilation}
    (h : compile options document = .ok compilation) :
    compilation.arguments =
      (compilation.inputs.flatMap fun input => input.options ++ ["-i", input.locator]) ++
        ["-filter_complex", compilation.graph.serialize,
         "-map", "[" ++ compilation.video ++ "]",
         "-map",
          match compilation.audio with
          | some label => "[" ++ label ++ "]"
          | none => (document.usedMediaIds.length + 1).repr ++ ":a"] ++
        (if compilation.audio = none then ["-shortest"] else []) ++ compilation.encoding := by
  obtain ⟨audio, graph, -, rfl⟩ := compile_eq_ok.mp h
  cases audio with
  | none =>
      have hsilence :
          (inputs (Frame.of document options) (select document).sources none).length - 1 =
            document.usedMediaIds.length + 1 := by simp [inputs, length_sources]
      simp only [Compilation.arguments, Compilation.streams, assembled, hsilence, ↓reduceIte,
        List.append_assoc, List.cons_append, List.nil_append]
      rfl
  | some label =>
      simp only [Compilation.arguments, Compilation.streams, assembled, reduceCtorEq, ↓reduceIte,
        List.append_assoc, List.cons_append, List.nil_append]
      rfl

/-- Every compilation lays out its inputs in this way. -/
theorem compile_inputLayout {options : Options} {document : Document} {compilation : Compilation}
    (h : compile options document = .ok compilation) :
    InputLayout options document compilation := by
  have hinputs := inputs_of_compile h
  have harguments := arguments_of_compile h
  have hstreams := readsOwnInputs_compile h
  obtain ⟨audio, graph, -, rfl⟩ := compile_eq_ok.mp h
  refine ⟨hinputs, rfl, harguments, map_element_clips document, ?_, hstreams⟩
  intro clip hclip
  obtain ⟨hfind, index, hinput, hindex⟩ := input_of_mem_clips hclip
  have hlt : index < document.usedMediaIds.length := (List.getElem?_eq_some_iff.mp hindex).1
  refine ⟨hfind, ?_, index, hinput, hindex⟩
  have hlength : (inputs (Frame.of document options) (select document).sources audio).length ≥
      document.usedMediaIds.length + 1 := by
    simp [inputs, length_sources]
  exact hinput ▸ Nat.lt_of_lt_of_le (Nat.succ_lt_succ hlt) hlength

theorem compile_inputLayout_sampleDocument : ∃ compilation,
    compile {} sampleDocument = .ok compilation ∧ InputLayout {} sampleDocument compilation := by
  obtain ⟨compilation, h⟩ := exists_compile_sampleDocument
  exact ⟨compilation, h, compile_inputLayout h⟩

end Montage.Compile
