/-
  Montage.Proofs.Compile.Soundtrack

  The sound of a compiled timeline: a chain for each showing that is heard, which takes the
  sound of its own medium, and what becomes of these chains.  With none of them silence is
  written to the output, a single one is written as it is, and several are mixed.
-/
import Montage.Proofs.Compile.Ledger

namespace Montage.Compile

open Montage.Filter (Node consumed written labels)
open Montage.Number Montage.Timeline

/-! ## Nodes without sound -/

/-- The filters that work on sound. -/
def soundFilterNames : List String :=
  ["atrim", "asetpts", "volume", "adelay", "amix"]

/-- A chain that does not work on sound. -/
def IsPictorial (chain : List Filter) : Prop :=
  ∀ filter ∈ chain, filter.name ∉ soundFilterNames

/-- Nodes that have nothing to do with sound: they take it from no input, and have no filter
    for it. -/
structure Soundless (nodes : List Node) : Prop where
  reads : ∀ input, soundPad input ∉ consumed nodes
  chains : ∀ node ∈ nodes, IsPictorial node.chain

theorem IsPictorial.append {first second : List Filter} (h : IsPictorial first)
    (h' : IsPictorial second) : IsPictorial (first ++ second) := by
  intro filter hmem
  rcases List.mem_append.mp hmem with hfirst | hsecond
  · exact h filter hfirst
  · exact h' filter hsecond

theorem Soundless.append {first second : List Node} (h : Soundless first)
    (h' : Soundless second) : Soundless (first ++ second) where
  reads input hmem := by
    rw [Filter.consumed_append, List.mem_append] at hmem
    exact hmem.elim (h.reads input) (h'.reads input)
  chains node hmem := (List.mem_append.mp hmem).elim (h.chains node) (h'.chains node)

theorem soundPad_ne_picturePad (input other : Nat) : soundPad input ≠ picturePad other := by
  intro heq
  have hlast := congrArg (fun label => label.toList.getLast?) heq
  simp [soundPad, picturePad, String.toList_append] at hlast

theorem ReadsOnly.soundPad_not_mem {input : Nat} {nodes : List Node}
    (h : ReadsOnly (picturePad input) nodes) (other : Nat) : soundPad other ∉ consumed nodes :=
  fun hmem => soundPad_ne_picturePad other input (h.2 _ hmem (isPad_soundPad other))

theorem isPictorial_effectFilters (effects : List Effect) :
    IsPictorial (effectFilters effects) := by
  intro filter hmem
  have hother : ∀ name ∈ effectNames, name ∉ soundFilterNames := by decide
  exact hother filter.name (name_mem_of_mem_effectFilters hmem)

theorem isPictorial_videoChain (frame : Frame) (element : MediaElement) :
    IsPictorial (videoChain frame element) := by
  refine .append (.append ?_ (isPictorial_effectFilters element.effects)) ?_
  · simp [IsPictorial, soundFilterNames]
  · simp [IsPictorial, soundFilterNames, shiftFilter]

theorem isPictorial_imageChain (frame : Frame) (clip : Clip) :
    IsPictorial (imageChain frame clip) := by
  refine .append (.append ?_ (isPictorial_effectFilters clip.element.effects)) ?_
  · simp [IsPictorial, soundFilterNames]
  · simp [IsPictorial, soundFilterNames, shiftFilter]

theorem isPictorial_paddedFit (frame : Frame) : IsPictorial (paddedFit frame) := by
  simp [IsPictorial, soundFilterNames, paddedFit, scaleFilter]

theorem isPictorial_backdropNodes (frame : Frame) (pad : String) (first : Nat) :
    ∀ node ∈ backdropNodes frame pad first, IsPictorial node.chain := by
  simp [IsPictorial, soundFilterNames, backdropNodes, scaleFilter]

theorem isPictorial_clipNodes {stream surface : String} {chain : List Filter} {overlay : Filter}
    {first : Nat} (hchain : IsPictorial chain) (hname : overlay.name = "overlay") :
    ∀ node ∈ clipNodes stream surface chain overlay first, IsPictorial node.chain := by
  have hoverlay : IsPictorial [overlay] := by simp [IsPictorial, soundFilterNames, hname]
  simp [clipNodes, hchain, hoverlay]

/-! ## The picture has no sound -/

theorem soundless_baseNode (frame : Frame) : Soundless [baseNode frame] where
  reads input := by simpa [baseNode] using soundPad_ne_picturePad input 0
  chains := by simp [baseNode, baseChain, IsPictorial, soundFilterNames]

theorem soundless_videoNodes (frame : Frame) (clip : Clip) {mark : Mark}
    (h : IsSurface mark.surface) : Soundless ((videoBrush frame).nodes clip mark) where
  reads := (readsOnly_videoNodes frame clip h).soundPad_not_mem
  chains := by
    have hchain := isPictorial_videoChain frame clip.element
    unfold videoBrush
    cases frame.backdrop with
    | color => exact isPictorial_clipNodes ((isPictorial_paddedFit frame).append hchain) rfl
    | blur =>
        intro node hmem
        rcases List.mem_append.mp hmem with hback | hclip
        · exact isPictorial_backdropNodes frame _ _ node hback
        · exact isPictorial_clipNodes hchain rfl node hclip

theorem soundless_imageNodes (options : Options) (frame : Frame) (clip : Clip) {mark : Mark}
    (h : IsSurface mark.surface) : Soundless ((imageBrush options frame).nodes clip mark) where
  reads := (readsOnly_imageNodes options frame clip h).soundPad_not_mem
  chains := isPictorial_clipNodes (isPictorial_imageChain frame clip) rfl

theorem soundless_captionNodes (options : Options) (element : TextElement) {mark : Mark}
    (h : IsSurface mark.surface) : Soundless ((captionBrush options).nodes element mark) where
  reads input hmem := by
    have heq : soundPad input = mark.surface := by simpa [captionBrush, consumed] using hmem
    exact h.not_isPad (heq ▸ isPad_soundPad input)
  chains := by
    have hname : (captionFilter options element).name = "drawtext" := rfl
    simp [captionBrush, IsPictorial, soundFilterNames, hname]

/-- What a brush draws is without sound if each of its items is. -/
theorem soundless_strokes {α : Type} {brush : Brush α}
    (h : ∀ item (mark : Mark), IsSurface mark.surface → Soundless (brush.nodes item mark))
    (items : List α) {mark : Mark} (hmark : IsSurface mark.surface) :
    Soundless (brush.strokes items mark).flatten := by
  induction items generalizing mark with
  | nil => exact ⟨by simp [Brush.strokes, consumed], by simp [Brush.strokes]⟩
  | cons item rest ih =>
      rw [Brush.strokes, List.flatten_cons]
      exact (h item mark hmark).append (ih (isSurface_pictureLabel _))

theorem soundless_picture (options : Options) (frame : Frame) (selection : Selection) :
    Soundless (baseNode frame :: (pictureNodes options frame selection).flatten) := by
  have hbase : IsSurface baseMark.surface := .inl rfl
  have hvideos := soundless_strokes (fun clip _ h => soundless_videoNodes frame clip h)
    (clipsOfKind .video selection.clips) hbase
  have himages := soundless_strokes (fun clip _ h => soundless_imageNodes options frame clip h)
    (clipsOfKind .image selection.clips) (isSurface_videoMark frame selection)
  have hcaptions := soundless_strokes
    (fun element _ h => soundless_captionNodes options element h) selection.captions
    (isSurface_imageMark options frame selection)
  rw [pictureNodes, List.flatten_append, List.flatten_append]
  exact (soundless_baseNode frame).append ((hvideos.append himages).append hcaptions)

/-! ## Chains of showings -/

/-- The chain of a showing: of the input that is its own medium it takes the sound, cuts it
    to its own window, and gives it its own volume and delay. -/
def IsChainOf (document : Document) (compilation : Compilation) (showing : Showing)
    (node : Node) : Prop :=
  ∃ (number : Nat) (input : Input) (delay : Int) (label : String),
    compilation.inputs[number]? = some input ∧
    IsInputOf document showing.element.mediaId input ∧
    delayMilliseconds showing.element.toSlot = .ok delay ∧
    node =
      ⟨[number.repr ++ ":a"],
       [{ name := "atrim"
          options := elementCut showing.element.toSlot },
        { name := "asetpts", args := [.str "PTS-STARTPTS"] },
        { name := "volume", args := [.num (.real showing.element.volume)] },
        { name := "adelay", args := [.str (toString delay ++ "|" ++ toString delay)] }],
       [label]⟩

theorem exists_input_of_mem_clips {options : Options} {document : Document}
    {compilation : Compilation} (h : compile options document = .ok compilation) {clip : Clip}
    (hclip : clip ∈ (select document).clips) : ∃ input,
      compilation.inputs[clip.input]? = some input ∧
        IsInputOf document clip.element.mediaId input := by
  obtain ⟨-, index, hnumber, hindex⟩ := input_of_mem_clips hclip
  obtain ⟨used, hinputs, hused⟩ := inputs_of_compile h
  obtain ⟨hlt, hid⟩ := List.getElem?_eq_some_iff.mp hindex
  have hlt' : index < used.length := hused.length_eq ▸ hlt
  refine ⟨used[index], ?_, ?_⟩
  · rw [hinputs, hnumber, List.cons_append, List.getElem?_cons_succ, List.getElem?_append_left hlt',
      List.getElem?_eq_getElem hlt']
  · have hinput := (List.forall₂_iff_get.mp hused).2 index hlt hlt'
    exact hid ▸ hinput

/-- Timed clips that are those of the showings that are heard make the chains of these. -/
theorem forall₂_isChainOf {options : Options} {document : Document} {compilation : Compilation}
    (h : compile options document = .ok compilation) {timed : List (Clip × Int)}
    (htimed : timed.map Prod.fst = (select document).clips.filter Clip.isAudible)
    (hdelays : ∀ sound ∈ timed, delayMilliseconds sound.1.element.toSlot = .ok sound.2)
    (first : Nat) :
    List.Forall₂ (IsChainOf document compilation) (heard document) (soundNodes timed first) := by
  have hclips : ∀ sound ∈ timed, sound.1 ∈ (select document).clips := by
    intro sound hsound
    have hmem := List.mem_map_of_mem (f := Prod.fst) hsound
    rw [htimed] at hmem
    exact List.mem_of_mem_filter hmem
  have hsounds := (List.forall₂_and_left _ _).mpr
    ⟨fun sound hsound => And.intro (hclips sound hsound) (hdelays sound hsound),
      forall₂_timed_soundNodes timed first⟩
  have hchains : List.Forall₂
      (fun clip node => clip ∈ (select document).clips ∧ ∃ delay label,
        delayMilliseconds clip.element.toSlot = .ok delay ∧
          node = ⟨[soundPad clip.input], soundChain clip.element delay, [label]⟩)
      (timed.map Prod.fst) (soundNodes timed first) := by
    rw [List.forall₂_map_left_iff]
    refine hsounds.imp ?_
    rintro sound node ⟨⟨hclip, hdelay⟩, label, hnode⟩
    exact ⟨hclip, sound.2, label, hdelay, hnode⟩
  rw [htimed, audible_select, List.forall₂_map_left_iff] at hchains
  refine hchains.imp ?_
  rintro showing node ⟨hclip, delay, label, hdelay, hnode⟩
  obtain ⟨input, hinput, hown⟩ := exists_input_of_mem_clips h hclip
  exact ⟨_, input, delay, label, hinput, hown, hdelay, hnode⟩

theorem written_soundNodes (timed : List (Clip × Int)) (first : Nat) :
    written (soundNodes timed first) = labels "a" first timed.length := by
  induction timed generalizing first with
  | nil => rfl
  | cons sound rest ih =>
      have hrest : written (soundNodes (sound :: rest) first) =
          ("a" ++ first.repr) :: written (soundNodes rest (first + 1)) := rfl
      rw [hrest, ih, List.length_cons, labels, labels, List.range'_succ, List.map_cons]

/-! ## What becomes of the chains -/

/-- How the labels of chains become one sound: without any there is none, a single one is
    the sound itself, and several are all read by one mix. -/
inductive Outlet : List String → List Node → Option String → Prop
  | silence : Outlet [] [] none
  | alone (only : String) : Outlet [only] [] (some only)
  | mixed {several : List String} (h : 2 ≤ several.length) (mix : String) :
    Outlet several
      [⟨several,
        [{ name := "amix"
           options :=
             [("inputs", .nat several.length), ("normalize", .int 1),
              ("dropout_transition", .int 2)] }],
        [mix]⟩]
      (some mix)

theorem outlet_mix (names : List String) (number : Nat) :
    Outlet names (mixNodes names number) (mixLabel? names number) := by
  match names with
  | [] => exact .silence
  | [only] => exact .alone only
  | _ :: _ :: _ => exact .mixed (by simp) ("a" ++ number.repr)

theorem Outlet.audio_eq_none {names : List String} {mix : List Node} {audio : Option String}
    (h : Outlet names mix audio) : audio = none ↔ names = [] := by
  cases h with
  | silence => simp
  | alone only => simp
  | @mixed several hlength mix => simpa using List.ne_nil_of_length_pos (by omega)

theorem Outlet.named_mix {names : List String} {mix : List Node} {audio : Option String}
    (h : Outlet names mix audio) :
    named "amix" mix = if 2 ≤ names.length then [mixFilter names.length] else [] := by
  cases h with
  | silence => rfl
  | alone only => rfl
  | mixed hlength mix => rw [if_pos hlength]; rfl

/-! ## The soundtrack -/

/-- The sound of a compilation, from the elements of its document to its arguments. -/
structure Soundtrack (options : Options) (document : Document) (compilation : Compilation) :
    Prop where
  /-- Of the elements that are rendered, those are heard that do not show images and are on an
      audio track, play a sound file, or are not muted. -/
  audible : heard document = (showings document).filter fun showing =>
    showing.asset.kind ≠ .image ∧
      (showing.track.kind = .audio ∨ showing.asset.kind = .audio ∨ showing.element.muted = false)
  rendered : (showings document).map Showing.element = document.renderedMedia
  /-- Each of them has one chain, in the order of the elements, and then come no other nodes
      for sound than the mix. -/
  nodes : ∃ picture sounds mix : List Node,
    compilation.graph.nodes = picture ++ sounds ++ mix ∧ Soundless picture ∧
    List.Forall₂ (IsChainOf document compilation) (heard document) sounds ∧
    Outlet (written sounds) mix compilation.audio
  mixes : named "amix" compilation.graph.nodes =
    if 2 ≤ (heard document).length then
      [{ name := "amix"
         options :=
           [("inputs", .nat (heard document).length), ("normalize", .int 1),
            ("dropout_transition", .int 2)] }]
    else []
  /-- Silence is the last input, and only there if nothing is heard. -/
  inputs : ∃ used, used.length = document.usedMediaIds.length ∧
    compilation.inputs = lavfiColor options document :: used ++
      (if heard document = [] then [lavfiSilence options document] else [])
  /-- What is written as sound is the final label, or else the last input. -/
  arguments : compilation.arguments =
    (compilation.inputs.flatMap fun input => input.options ++ ["-i", input.locator]) ++
      ["-filter_complex", compilation.graph.serialize,
       "-map", "[" ++ compilation.video ++ "]",
       "-map",
        match compilation.audio with
        | some label => "[" ++ label ++ "]"
        | none => (compilation.inputs.length - 1).repr ++ ":a"] ++
      (if heard document = [] then ["-shortest"] else []) ++ compilation.encoding

theorem isHeard_eq (showing : Showing) :
    showing.isHeard = decide (showing.asset.kind ≠ .image ∧
      (showing.track.kind = .audio ∨ showing.asset.kind = .audio ∨
        showing.element.muted = false)) := by
  cases hkind : showing.asset.kind <;> simp [Showing.isHeard, hkind]

theorem map_element_showings (document : Document) :
    (showings document).map Showing.element = document.renderedMedia := by
  rw [← map_element_clips, clips_select, List.map_map]
  rfl

theorem Soundless.named_mix {nodes : List Node} (h : Soundless nodes) : named "amix" nodes = [] :=
  List.flatMap_eq_nil_iff.mpr fun node hnode => List.filter_eq_nil_iff.mpr fun filter hfilter =>
    fun hname => h.chains node hnode filter hfilter (by simp_all [soundFilterNames])

theorem named_mix_soundNodes (timed : List (Clip × Int)) (first : Nat) :
    named "amix" (soundNodes timed first) = [] := by
  induction timed generalizing first with
  | nil => rfl
  | cons sound rest ih =>
      rw [named, soundNodes, List.flatMap_cons, ← named, ih]
      simp [soundChain]

/-- Every compilation has such a soundtrack. -/
theorem compile_soundtrack {options : Options} {document : Document} {compilation : Compilation}
    (h : compile options document = .ok compilation) :
    Soundtrack options document compilation := by
  obtain ⟨timed, htimed, hdelays, hnodes, -, haudio⟩ := exists_timed h
  obtain ⟨used, hinputs, hused⟩ := inputs_of_compile h
  have harguments := arguments_of_compile h
  let mark := captionMark options (Frame.of document options) (select document)
  let names := labels "a" mark.next timed.length
  have hcount : names.length = (heard document).length := by
    have hlengths := congrArg List.length (htimed.trans (audible_select document))
    simpa [names, labels] using hlengths
  have houtlet : Outlet names (mixNodes names (mark.next + timed.length)) compilation.audio :=
    haudio ▸ outlet_mix names (mark.next + timed.length)
  have hsilent : compilation.audio = none ↔ heard document = [] := by
    rw [houtlet.audio_eq_none, ← List.length_eq_zero_iff, hcount, List.length_eq_zero_iff]
  have hsoundless := soundless_picture options (Frame.of document options) (select document)
  simp only [hsilent] at hinputs harguments
  refine {
    audible := List.filter_congr fun showing _ => isHeard_eq showing
    rendered := map_element_showings document
    nodes := ⟨_, _, _, hnodes, hsoundless, forall₂_isChainOf h htimed hdelays _, ?_⟩
    mixes := ?_
    inputs := ⟨used, hused.length_eq.symm, hinputs⟩
    arguments := ?_ }
  · rw [written_soundNodes]
    exact houtlet
  · rw [hnodes, ← List.cons_append, ← List.cons_append, named_append, named_append,
      hsoundless.named_mix, named_mix_soundNodes, ← hcount]
    exact houtlet.named_mix
  · rw [harguments]
    cases haudio' : compilation.audio with
    | none =>
        have hlength : compilation.inputs.length - 1 = document.usedMediaIds.length + 1 := by
          rw [hinputs, if_pos (hsilent.mp haudio')]
          simp [hused.length_eq]
        rw [hlength]
    | some label => rfl

theorem compile_soundtrack_sampleDocument : ∃ compilation,
    compile {} sampleDocument = .ok compilation ∧ Soundtrack {} sampleDocument compilation := by
  obtain ⟨compilation, h⟩ := exists_compile_sampleDocument
  exact ⟨compilation, h, compile_soundtrack h⟩

end Montage.Compile
