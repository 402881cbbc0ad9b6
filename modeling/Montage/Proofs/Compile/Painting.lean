/-
  Montage.Proofs.Compile.Painting

  The painter's order.  The picture surface begins as the base surface, and what is drawn
  on it lies in layers: the video clips, then the images, then the captions, each of them
  in the order in which its elements are visited.  One node draws each layer on the
  surface that the node below it wrote, and no other node reads the surface.
-/
import Montage.Proofs.Compile.Ledger
import Montage.Proofs.Compile.Wiring

namespace Montage.Compile

open Montage.Filter (Node Connected Wired written consumed)
open Montage.Timeline

/-! ## Layers -/

/-- Something that is drawn on the surface. -/
inductive Layer where
  | video (showing : Showing)
  | image (showing : Showing)
  | caption (element : TextElement)

/-- The layers of a document from the lowest to the topmost one. -/
def layers (document : Document) : List Layer :=
  (showingsOf .video document).map .video ++ (showingsOf .image document).map .image ++
    (captions (visits document.tracks)).map .caption

/-- A label that carries nothing but the stream of a pad, as nodes have changed it. -/
inductive Carries (nodes : List Node) (pad : String) : String → Prop
  | pad : Carries nodes pad pad
  | node {node : Node} {label : String} (hnode : node ∈ nodes) (houtput : label ∈ node.outputs)
      (hreads : node.inputs ≠ []) (hinputs : ∀ input ∈ node.inputs, Carries nodes pad input) :
      Carries nodes pad label

/-- The label of the stream that was prepared for one element: it carries the picture of
    the element's medium, its last filters are those of the element, and it is read once. -/
structure Prepared (nodes : List Node) (pad : String) (chain : List Filter) (label : String) :
    Prop where
  carries : Carries nodes pad label
  chain : ∃ node ∈ nodes, node.outputs = [label] ∧ chain <:+ node.chain
  once : (consumed nodes).count label = 1

/-- Whether a node draws a layer on one surface and writes another one. -/
def Layer.DrawnBy (options : Options) (document : Document) (nodes : List Node) (node : Node)
    (below above : String) : Layer → Prop
  | .video showing =>
    let frame := Frame.of document options
    let clip := showing.clip (select document).sources
    ∃ prepared, Prepared nodes (picturePad clip.input) (videoChain frame showing.element) prepared ∧
      node =
        ⟨[below, prepared],
         [{ name := "overlay"
            options :=
              [("eof_action", .str "pass"), ("enable", elementGate showing.element.toSlot)] }],
         [above]⟩
  | .image showing =>
    let frame := Frame.of document options
    let clip := showing.clip (select document).sources
    let edges := (presetOf (imagePosition options showing.element)).edges {}
    ∃ prepared, Prepared nodes (picturePad clip.input) (imageChain frame clip) prepared ∧
      node =
        ⟨[below, prepared],
         [{ name := "overlay"
            options :=
              [("x", .str edges.1), ("y", .str edges.2), ("eof_action", .str "pass"),
               ("enable", elementGate showing.element.toSlot)] }],
         [above]⟩
  | .caption element =>
    node =
      ⟨[below], [{ name := "drawtext", options := (captionFilter options element).options }],
       [above]⟩

/-- Nodes that draw layers one on the other, from a surface below them to one on top. -/
inductive Stacked (options : Options) (document : Document) (nodes : List Node) :
    String → List Layer → List Node → String → Prop
  | nil (surface : String) : Stacked options document nodes surface [] [] surface
  | cons {below above top : String} {layer : Layer} {node : Node} {rest : List Layer}
      {strokes : List Node} (hlayer : layer.DrawnBy options document nodes node below above)
      (hrest : Stacked options document nodes above rest strokes top) :
      Stacked options document nodes below (layer :: rest) (node :: strokes) top

/-- The labels of the picture surface: that of the base, and what a node writes whose first
    input is the surface. -/
inductive OnSurface (nodes : List Node) : String → Prop
  | base : OnSurface nodes baseLabel
  | drawn {node : Node} {below above : String} (hnode : node ∈ nodes)
      (hbelow : OnSurface nodes below) (hinput : node.inputs.head? = some below)
      (houtput : above ∈ node.outputs) : OnSurface nodes above

variable {options : Options} {document : Document} {nodes : List Node}

/-! ## Strokes -/

theorem Layer.DrawnBy.inputs {layer : Layer} {node : Node} {below above : String}
    (h : layer.DrawnBy options document nodes node below above) :
    node.inputs.head? = some below ∧ node.outputs = [above] := by
  cases layer with
  | video showing =>
      obtain ⟨prepared, -, rfl⟩ := h
      exact ⟨rfl, rfl⟩
  | image showing =>
      obtain ⟨prepared, -, rfl⟩ := h
      exact ⟨rfl, rfl⟩
  | caption element =>
      obtain rfl := h
      exact ⟨rfl, rfl⟩

namespace Stacked

variable {below middle top : String} {lower upper : List Layer} {first last : List Node}

theorem append (h : Stacked options document nodes below lower first middle)
    (h' : Stacked options document nodes middle upper last top) :
    Stacked options document nodes below (lower ++ upper) (first ++ last) top := by
  induction h with
  | nil => exact h'
  | cons hlayer _ ih => exact .cons hlayer (ih h')

/-- Each stroke reads a surface that the base or another stroke has written. -/
theorem reads (h : Stacked options document nodes below lower first top) :
    ∀ node ∈ first, ∃ surface ∈ below :: written first, node.inputs.head? = some surface := by
  induction h with
  | nil => exact nofun
  | @cons below above _ _ node _ strokes hlayer _ ih =>
      intro other hother
      obtain ⟨hinput, houtput⟩ := hlayer.inputs
      rcases List.mem_cons.mp hother with rfl | hrest
      · exact ⟨below, List.mem_cons_self, hinput⟩
      · obtain ⟨surface, hsurface, hreads⟩ := ih other hrest
        have hwritten : written (node :: strokes) = above :: written strokes := by
          simp [written, houtput]
        exact ⟨surface, List.mem_cons_of_mem below (hwritten ▸ hsurface), hreads⟩

/-- Every surface but the topmost one is read by the stroke above it. -/
theorem read (h : Stacked options document nodes below lower first top) :
    ∀ surface ∈ below :: written first, surface = top ∨
      ∃ node ∈ first, node.inputs.head? = some surface := by
  induction h with
  | nil surface =>
      intro other hother
      exact .inl (List.mem_singleton.mp hother)
  | @cons below above _ _ node _ strokes hlayer _ ih =>
      intro surface hsurface
      obtain ⟨hinput, houtput⟩ := hlayer.inputs
      have hwritten : written (node :: strokes) = above :: written strokes := by
        simp [written, houtput]
      rw [hwritten] at hsurface
      rcases List.mem_cons.mp hsurface with rfl | habove
      · exact .inr ⟨node, List.mem_cons_self, hinput⟩
      · rcases ih surface habove with rfl | ⟨other, hother, hreads⟩
        · exact .inl rfl
        · exact .inr ⟨other, List.mem_cons_of_mem node hother, hreads⟩

end Stacked

/-- Items whose brush draws a layer for each of them are stacked. -/
theorem exists_stacked_strokes {α β : Type} {brush : Brush α} (item : β → α) (layer : β → Layer)
    (hdraws : ∀ b mark, brush.nodes (item b) mark ⊆ nodes → ∃ under node,
      brush.nodes (item b) mark = under ++ [node] ∧
        (layer b).DrawnBy options document nodes node mark.surface (brush.advance mark).surface)
    (items : List β) (mark : Mark)
    (hnodes : (brush.strokes (items.map item) mark).flatten ⊆ nodes) :
    ∃ strokes, strokes.Sublist (brush.strokes (items.map item) mark).flatten ∧
      Stacked options document nodes mark.surface (items.map layer) strokes
        (brush.finish (items.map item) mark).surface := by
  induction items generalizing mark with
  | nil => exact ⟨[], List.Sublist.refl [], .nil mark.surface⟩
  | cons b rest ih =>
      have hsplit : (brush.strokes ((b :: rest).map item) mark).flatten =
          brush.nodes (item b) mark ++
            (brush.strokes (rest.map item) (brush.advance mark)).flatten := rfl
      rw [hsplit] at hnodes ⊢
      obtain ⟨under, node, hunder, hlayer⟩ := hdraws b mark (List.append_subset.mp hnodes).1
      obtain ⟨strokes, hsublist, hstacked⟩ :=
        ih (brush.advance mark) (List.append_subset.mp hnodes).2
      refine ⟨node :: strokes, ?_, .cons hlayer hstacked⟩
      rw [hunder, List.append_assoc]
      exact (hsublist.cons_cons node).trans (List.sublist_append_right under _)

/-! ## Brushes -/

section Connected

variable {final : List String} (hconnected : Connected nodes final)
include hconnected

/-- A label that is written and read is read once. -/
theorem count_consumed_eq_one {label : String} (hwritten : label ∈ written nodes)
    (hread : label ∈ consumed nodes) : (consumed nodes).count label = 1 :=
  hconnected.read_once label hwritten fun hfinal => hconnected.final_unread label hfinal hread

/-- The nodes of a clip prepare its stream and draw it. -/
theorem prepared_clipNodes {pad stream surface : String} {chain whole : List Filter}
    (hchain : chain <:+ whole) {overlay : Filter} {number : Nat}
    (hstream : Carries nodes pad stream)
    (hnodes : clipNodes stream surface whole overlay number ⊆ nodes) :
    Prepared nodes pad chain (pictureLabel number) := by
  have hprepares := hnodes List.mem_cons_self
  have hdraws := hnodes (List.mem_cons_of_mem _ List.mem_cons_self)
  have hread : pictureLabel number ∈ consumed nodes :=
    List.mem_flatMap.mpr ⟨_, hdraws, List.mem_cons_of_mem _ List.mem_cons_self⟩
  have hwritten : pictureLabel number ∈ written nodes :=
    List.mem_flatMap.mpr ⟨_, hprepares, List.mem_cons_self⟩
  exact {
    carries := .node hprepares List.mem_cons_self (by simp) (by simpa using hstream)
    chain := ⟨_, hprepares, rfl, hchain⟩
    once := count_consumed_eq_one hconnected hwritten hread }

omit hconnected in
/-- A stream over its blurred copy is still that stream. -/
theorem carries_backdropNodes {frame : Frame} {pad : String} {first : Nat}
    (hnodes : backdropNodes frame pad first ⊆ nodes) :
    Carries nodes pad (pictureLabel (first + 4)) := by
  simp only [backdropNodes, List.cons_subset] at hnodes
  obtain ⟨hsplit, hback, hfront, hover, -⟩ := hnodes
  have hcopies : ∀ copy ∈ [pictureLabel first, pictureLabel (first + 1)], Carries nodes pad copy :=
    fun copy hcopy => .node hsplit hcopy (by simp) (by simpa using Carries.pad)
  have hbackLabel : Carries nodes pad (pictureLabel (first + 2)) :=
    .node hback List.mem_cons_self (by simp) (by simpa using hcopies _ List.mem_cons_self)
  have hfrontLabel : Carries nodes pad (pictureLabel (first + 3)) :=
    .node hfront List.mem_cons_self (by simp)
      (by simpa using hcopies _ (List.mem_cons_of_mem _ List.mem_cons_self))
  exact .node hover List.mem_cons_self (by simp) (by simpa using ⟨hbackLabel, hfrontLabel⟩)

theorem drawnBy_videoBrush (showing : Showing) (mark : Mark)
    (hnodes : (videoBrush (Frame.of document options)).nodes
      (showing.clip (select document).sources) mark ⊆ nodes) :
    ∃ under node,
      (videoBrush (Frame.of document options)).nodes (showing.clip (select document).sources) mark =
        under ++ [node] ∧
      (Layer.video showing).DrawnBy options document nodes node mark.surface
        ((videoBrush (Frame.of document options)).advance mark).surface := by
  unfold videoBrush at hnodes ⊢
  cases hbackdrop : (Frame.of document options).backdrop with
  | color =>
      rw [hbackdrop] at hnodes
      have hprepared := prepared_clipNodes hconnected (List.suffix_append _ _) .pad hnodes
      exact ⟨[_], _, rfl, _, hprepared, rfl⟩
  | blur =>
      rw [hbackdrop] at hnodes
      obtain ⟨hbackdropNodes, hclip⟩ := List.append_subset.mp hnodes
      have hprepared := prepared_clipNodes hconnected (List.suffix_refl _)
        (carries_backdropNodes hbackdropNodes) hclip
      exact ⟨_ ++ [_], _, (List.append_assoc _ [_] [_]).symm, _, hprepared, rfl⟩

theorem drawnBy_imageBrush (showing : Showing) (mark : Mark)
    (hnodes : (imageBrush options (Frame.of document options)).nodes
      (showing.clip (select document).sources) mark ⊆ nodes) :
    ∃ under node,
      (imageBrush options (Frame.of document options)).nodes
          (showing.clip (select document).sources) mark = under ++ [node] ∧
      (Layer.image showing).DrawnBy options document nodes node mark.surface
        ((imageBrush options (Frame.of document options)).advance mark).surface := by
  have hprepared := prepared_clipNodes hconnected (List.suffix_refl _) .pad hnodes
  exact ⟨[_], _, rfl, _, hprepared, rfl⟩

end Connected

theorem drawnBy_captionBrush (element : TextElement) (mark : Mark) :
    ∃ under node, (captionBrush options).nodes element mark = under ++ [node] ∧
      (Layer.caption element).DrawnBy options document nodes node mark.surface
        ((captionBrush options).advance mark).surface :=
  ⟨[], _, rfl, rfl⟩

/-! ## The whole picture -/

theorem wired_compile {compilation : Compilation}
    (h : compile options document = .ok compilation) :
    Wired compilation.graph (compilation.audio.toList ++ [compilation.video]) := by
  obtain ⟨audio, graph, hsound, rfl⟩ := compile_eq_ok.mp h
  exact wired_sound (ready_picture options (Frame.of document options) (select document)) hsound

/-- The layers of a document are stacked from the base surface to the finished picture. -/
theorem exists_stacked {compilation : Compilation}
    (h : compile options document = .ok compilation) :
    ∃ strokes, strokes.Sublist compilation.graph.nodes ∧
      Stacked options document compilation.graph.nodes baseLabel (layers document) strokes
        compilation.video := by
  obtain ⟨timed, -, -, hnodes, hvideo, -⟩ := exists_timed h
  have hconnected := (wired_compile h).connected
  have hpicture :
      (pictureNodes options (Frame.of document options) (select document)).flatten.Sublist
        compilation.graph.nodes := by
    rw [hnodes, List.append_assoc]
    exact (List.sublist_append_left _ _).cons _
  have hsubset := hpicture.subset
  have hvideoMark : (videoBrush (Frame.of document options)).finish
      ((showingsOf .video document).map (Showing.clip (select document).sources)) baseMark =
        videoMark (Frame.of document options) (select document) := by
    rw [videoMark, clipsOfKind_select]
  have himageMark : (imageBrush options (Frame.of document options)).finish
      ((showingsOf .image document).map (Showing.clip (select document).sources))
      (videoMark (Frame.of document options) (select document)) =
        imageMark options (Frame.of document options) (select document) := by
    rw [imageMark, clipsOfKind_select]
  -- one pass after the other, each from the surface on which the one before it ends
  rw [pictureNodes, List.flatten_append, List.flatten_append, clipsOfKind_select,
    clipsOfKind_select] at hpicture hsubset
  obtain ⟨hclips, htexts⟩ := List.append_subset.mp hsubset
  obtain ⟨hvideos, himages⟩ := List.append_subset.mp hclips
  obtain ⟨videoStrokes, hvideoStrokes, hvideoStack⟩ :=
    exists_stacked_strokes _ .video (drawnBy_videoBrush hconnected) (showingsOf .video document)
      baseMark hvideos
  obtain ⟨imageStrokes, himageStrokes, himageStack⟩ :=
    exists_stacked_strokes _ .image (drawnBy_imageBrush hconnected) (showingsOf .image document)
      (videoMark (Frame.of document options) (select document)) himages
  rw [← List.map_id (select document).captions] at htexts hpicture
  obtain ⟨textStrokes, htextStrokes, htextStack⟩ :=
    exists_stacked_strokes id .caption (fun element mark _ => drawnBy_captionBrush element mark)
      (select document).captions
      (imageMark options (Frame.of document options) (select document)) htexts
  rw [hvideoMark] at hvideoStack
  rw [himageMark] at himageStack
  rw [List.map_id] at htextStack
  refine ⟨videoStrokes ++ imageStrokes ++ textStrokes, ?_, ?_⟩
  · exact ((hvideoStrokes.append himageStrokes).append htextStrokes).trans hpicture
  · rw [hvideo]
    exact (hvideoStack.append himageStack).append htextStack

/-- Nodes that read a label which is read once are one node. -/
theorem eq_of_count_consumed_le {label : String} {first second : Node}
    (hcount : (consumed nodes).count label ≤ 1) (hfirst : first ∈ nodes) (hsecond : second ∈ nodes)
    (hreads : label ∈ first.inputs) (hreads' : label ∈ second.inputs) : first = second := by
  induction nodes with
  | nil => cases hfirst
  | cons node rest ih =>
      have hsplit : (consumed (node :: rest)).count label =
          node.inputs.count label + (consumed rest).count label := by
        rw [consumed, List.flatMap_cons, List.count_append]
        rfl
      rw [hsplit] at hcount
      -- the first node and the rest cannot both read the label
      have hrest : ∀ other ∈ rest, label ∈ other.inputs → 0 < (consumed rest).count label :=
        fun other hother hlabel =>
          List.count_pos_iff.mpr (List.mem_flatMap.mpr ⟨other, hother, hlabel⟩)
      rcases List.mem_cons.mp hfirst with rfl | hfirstRest
      · rcases List.mem_cons.mp hsecond with rfl | hsecondRest
        · rfl
        · have hlast := hrest second hsecondRest hreads'
          have hhead := List.count_pos_iff.mpr hreads
          omega
      · rcases List.mem_cons.mp hsecond with rfl | hsecondRest
        · have hlast := hrest first hfirstRest hreads
          have hhead := List.count_pos_iff.mpr hreads'
          omega
        · exact ih (by omega) hfirstRest hsecondRest

section Strokes

variable {final : List String} {top : String} {all : List Layer} {strokes : List Node}

/-- All strokes lie on the surface. -/
theorem Stacked.onSurface {below : String} (hsubset : strokes ⊆ nodes)
    (hbelow : OnSurface nodes below)
    (h : Stacked options document nodes below all strokes top) :
    ∀ surface ∈ below :: written strokes, OnSurface nodes surface := by
  induction h with
  | nil surface =>
      intro other hother
      rw [List.mem_singleton.mp hother]
      exact hbelow
  | @cons below above _ _ node _ strokes hlayer _ ih =>
      intro surface hsurface
      obtain ⟨hinput, houtput⟩ := hlayer.inputs
      have habove : OnSurface nodes above :=
        .drawn (hsubset List.mem_cons_self) hbelow hinput (houtput ▸ List.mem_cons_self)
      have hwritten : written (node :: strokes) = above :: written strokes := by
        simp [written, houtput]
      rcases List.mem_cons.mp hsurface with rfl | hrest
      · exact hbelow
      · exact ih (fun other hother => hsubset (List.mem_cons_of_mem node hother)) habove surface
          (hwritten ▸ hrest)

/-- In a connected graph, a node that reads a stacked surface first is one of the strokes. -/
theorem mem_of_reads_stacked (hconnected : Connected nodes final) (htop : top ∈ final)
    (hsubset : strokes ⊆ nodes) (hbase : baseLabel ∈ written nodes)
    (h : Stacked options document nodes baseLabel all strokes top) {surface : String}
    (hsurface : surface ∈ baseLabel :: written strokes) {node : Node} (hnode : node ∈ nodes)
    (hreads : node.inputs.head? = some surface) : node ∈ strokes := by
  have hinput : surface ∈ node.inputs := List.mem_of_head? hreads
  have hread : surface ∈ consumed nodes := List.mem_flatMap.mpr ⟨node, hnode, hinput⟩
  have hwritten : surface ∈ written nodes := by
    rcases List.mem_cons.mp hsurface with rfl | hstroke
    · exact hbase
    · obtain ⟨stroke, hmem, hlabel⟩ := List.mem_flatMap.mp hstroke
      exact List.mem_flatMap.mpr ⟨stroke, hsubset hmem, hlabel⟩
  rcases h.read surface hsurface with rfl | ⟨stroke, hstroke, hreads'⟩
  -- nobody reads the finished picture
  · exact absurd hread (hconnected.final_unread surface htop)
  · have honce := Nat.le_of_eq (count_consumed_eq_one hconnected hwritten hread)
    have hsame := eq_of_count_consumed_le honce hnode (hsubset hstroke) hinput
      (List.mem_of_head? hreads')
    exact hsame ▸ hstroke

/-- The strokes are exactly the nodes whose first input is the surface. -/
theorem mem_strokes_iff (hconnected : Connected nodes final) (htop : top ∈ final)
    (hsubset : strokes ⊆ nodes) (hbase : baseLabel ∈ written nodes)
    (h : Stacked options document nodes baseLabel all strokes top) {node : Node}
    (hnode : node ∈ nodes) :
    node ∈ strokes ↔ ∃ surface, OnSurface nodes surface ∧ node.inputs.head? = some surface := by
  constructor
  · intro hstroke
    obtain ⟨surface, hsurface, hreads⟩ := h.reads node hstroke
    exact ⟨surface, h.onSurface hsubset .base surface hsurface, hreads⟩
  · rintro ⟨surface, honSurface, hreads⟩
    suffices hsurface : surface ∈ baseLabel :: written strokes from
      mem_of_reads_stacked hconnected htop hsubset hbase h hsurface hnode hreads
    clear hnode hreads
    induction honSurface with
    | base => exact List.mem_cons_self
    | @drawn other below above hother _ hinput houtput ih =>
        have hstroke :=
          mem_of_reads_stacked hconnected htop hsubset hbase h ih hother hinput
        exact List.mem_cons_of_mem _ (List.mem_flatMap.mpr ⟨other, hstroke, houtput⟩)

end Strokes

/-! ## The painter's order -/

/-- How the picture of a document is painted. -/
structure Painted (options : Options) (document : Document) (compilation : Compilation) : Prop where
  /-- Elements are visited track by track, and on a track by start time; those that start
      together in the order of the track. -/
  order : ∀ track ∈ document.tracks, InStartOrder track.elements track.sortedElements
  /-- The layers are stacked by nodes that stand in this order in the graph, and these are
      the only nodes whose first input is the surface. -/
  strokes : ∃ strokes, strokes.Sublist compilation.graph.nodes ∧
    Stacked options document compilation.graph.nodes baseLabel (layers document) strokes
      compilation.video ∧
    ∀ node ∈ compilation.graph.nodes, node ∈ strokes ↔
      ∃ surface, OnSurface compilation.graph.nodes surface ∧ node.inputs.head? = some surface

/-- Every picture that is compiled from a document that was checked is painted in layers. -/
theorem compile_painted {rule : ObjectRule} {value : Json} {compilation : Compilation}
    (hvalid : checkDocument rule value = .valid document)
    (h : compile options document = .ok compilation) : Painted options document compilation := by
  have htimed := timed_of_checkDocument hvalid
  have hconnected := (wired_compile h).connected
  have htop : compilation.video ∈ compilation.audio.toList ++ [compilation.video] :=
    List.mem_append_right _ List.mem_cons_self
  obtain ⟨timed, -, -, hnodes, -, -⟩ := exists_timed h
  have hbase : baseLabel ∈ written compilation.graph.nodes := by
    rw [hnodes]
    exact List.mem_cons_self
  obtain ⟨strokes, hsublist, hstacked⟩ := exists_stacked h
  exact {
    order := fun track htrack => inStartOrder_sortedElements (htimed track htrack)
    strokes := ⟨strokes, hsublist, hstacked, fun node hnode =>
      mem_strokes_iff hconnected htop hsublist.subset hbase hstacked hnode⟩ }

theorem compile_painted_sampleTimeline : ∃ document compilation,
    checkDocument .byModel sampleTimeline = .valid document ∧
      compile {} document = .ok compilation ∧ Painted {} document compilation := by
  have hdelays : (checkDocument .byModel sampleTimeline).all hasDelays = true := by decide +kernel
  obtain ⟨document, hvalid, htest⟩ := Validation.Checked.all_eq_true.mp hdelays
  obtain ⟨compilation, h⟩ := exists_compile_of_hasDelays {} htest
  exact ⟨document, compilation, hvalid, h, compile_painted hvalid h⟩

end Montage.Compile
