/-
  Montage.Proofs.Compile.Tally

  What the nodes of a compiled graph amount to: how many there are, which of their
  overlays are gated and how, which texts they draw and which sounds they cut.  Every
  video clip, image, caption and sound adds its own share, and effects add nothing to
  any of these.
-/
import Mathlib.Data.List.Basic
import Montage.Proofs.Compile.Layers

namespace Montage.Compile

open Montage.Filter (Node labels)
open Montage.Number Montage.Timeline

/-! ## Tallies -/

/-- The filters with a name in the chains of nodes, in order. -/
def named (name : String) (nodes : List Node) : List Filter :=
  nodes.flatMap fun node => node.chain.filter fun filter => filter.name = name

/-- The gates of the overlays that have one, in order. -/
def overlayGates (nodes : List Node) : List Json :=
  (named "overlay" nodes).filterMap fun filter => filter.options.lookup "enable"

/-- The gate from one time to another. -/
def gateBetween (start finish : String) : Json :=
  .str ("between(t," ++ start ++ "," ++ finish ++ ")")

/-- The values of a cut from one time to another. -/
def cutBetween (start finish : String) : List (String × Json) :=
  [("start", .str start), ("end", .str finish)]

/-- The gate of an element, which is open from its start for as long as it lasts. -/
def elementGate (slot : Slot) : Json :=
  gateBetween (Filter.secondsText slot.startTime)
    (Filter.secondsText (slot.startTime.add slot.duration))

/-- The cut of an element, from the start of its part of the source for as long as it lasts. -/
def elementCut (slot : Slot) : List (String × Json) :=
  cutBetween (Filter.secondsText slot.trimStart.toRealOrInfinite)
    (Filter.secondsText (slot.trimStart.toRealOrInfinite.add slot.duration))

theorem trimWindow_eq_elementCut (slot : Slot) : trimWindow slot = elementCut slot :=
  rfl

/-- What nodes amount to. -/
structure Tally (count : Nat) (gates : List Json) (texts cuts : List Filter) (nodes : List Node) :
    Prop where
  length : nodes.length = count
  gates : overlayGates nodes = gates
  texts : named "drawtext" nodes = texts
  cuts : named "atrim" nodes = cuts

theorem named_append (name : String) (first second : List Node) :
    named name (first ++ second) = named name first ++ named name second :=
  List.flatMap_append

theorem Tally.nil : Tally 0 [] [] [] [] :=
  ⟨rfl, rfl, rfl, rfl⟩

theorem Tally.append {m n : Nat} {gates more : List Json} {texts others cuts rest : List Filter}
    {first second : List Node} (h : Tally m gates texts cuts first)
    (h' : Tally n more others rest second) :
    Tally (m + n) (gates ++ more) (texts ++ others) (cuts ++ rest) (first ++ second) := by
  refine ⟨?_, ?_, ?_, ?_⟩
  · rw [List.length_append, h.length, h'.length]
  · rw [overlayGates, named_append, List.filterMap_append, ← overlayGates, ← overlayGates, h.gates,
      h'.gates]
  · rw [named_append, h.texts, h'.texts]
  · rw [named_append, h.cuts, h'.cuts]

/-- Items without a share add nothing. -/
theorem flatMap_nothing {α β : Type} (items : List α) :
    items.flatMap (fun _ => ([] : List β)) = [] :=
  List.flatMap_eq_nil_iff.mpr fun _ _ => rfl

/-- Parts of one size that each belong to an item. -/
theorem Tally.flatten {α : Type} {n : Nat} {gates : α → List Json} {texts cuts : α → List Filter}
    {items : List α} {parts : List (List Node)}
    (h : List.Forall₂ (fun item part => Tally n (gates item) (texts item) (cuts item) part)
      items parts) :
    Tally (n * items.length) (items.flatMap gates) (items.flatMap texts) (items.flatMap cuts)
      parts.flatten := by
  induction h with
  | nil => exact .nil
  | @cons item part items parts hpart _ ih =>
      have hsize : n * (item :: items).length = n + n * items.length := by
        rw [List.length_cons, Nat.mul_succ, Nat.add_comm]
      rw [hsize]
      exact hpart.append ih

/-! ## Chains without a share -/

/-- A chain that neither composes, nor draws texts, nor cuts sounds. -/
def Plain (chain : List Filter) : Prop :=
  ∀ filter ∈ chain, filter.name ≠ "overlay" ∧ filter.name ≠ "drawtext" ∧ filter.name ≠ "atrim"

theorem Plain.append {first second : List Filter} (h : Plain first) (h' : Plain second) :
    Plain (first ++ second) := by
  intro filter hmem
  rcases List.mem_append.mp hmem with hfirst | hsecond
  · exact h filter hfirst
  · exact h' filter hsecond

theorem Plain.tally {node : Node} (h : Plain node.chain) : Tally 1 [] [] [] [node] := by
  have hnone : ∀ name, (∀ filter ∈ node.chain, filter.name ≠ name) → named name [node] = [] := by
    intro name hname
    rw [named, List.flatMap_singleton, List.filter_eq_nil_iff]
    intro filter hmem
    simpa using hname filter hmem
  refine ⟨rfl, ?_, ?_, ?_⟩
  · rw [overlayGates, hnone "overlay" fun filter hmem => (h filter hmem).1]
    rfl
  · exact hnone "drawtext" fun filter hmem => (h filter hmem).2.1
  · exact hnone "atrim" fun filter hmem => (h filter hmem).2.2

/-- The names of the filters that effects stand for. -/
def effectNames : List String :=
  ["hue", "gblur", "unsharp", "negate", "eq", "crop", "scale", "boxblur"]

theorem name_mem_of_namedEffect? {name : String} {filter : Filter}
    (h : namedEffect? name = some filter) : filter.name ∈ effectNames := by
  unfold namedEffect? at h
  split at h
  · cases h; decide
  · cases h; decide
  · cases h; decide
  · cases h; decide
  · cases h

theorem name_mem_of_customEffect? {type : String} {fields : List (String × Json)} {filter : Filter}
    (h : customEffect? type fields = .ok (some filter)) : filter.name ∈ effectNames := by
  unfold customEffect? at h
  split at h
  · cases h; simp [effectNames]
  · cases h; simp [effectNames]
  · cases h; simp [effectNames]
  · cases hwidth : parameter "w" fields <;> cases hheight : parameter "h" fields <;>
      simp only [hwidth, hheight, bind, Except.bind, pure, Except.pure, reduceCtorEq,
        Except.ok.injEq, Option.some.injEq] at h
    rw [← h]
    simp [effectNames]
  · cases hwidth : parameter "w" fields <;> cases hheight : parameter "h" fields <;>
      simp only [hwidth, hheight, bind, Except.bind, pure, Except.pure, reduceCtorEq,
        Except.ok.injEq, Option.some.injEq] at h
    rw [← h]
    simp [effectNames]
  · cases h; simp [effectNames]
  · cases h

theorem name_mem_of_mem_effectFilters {effects : List Effect} {filter : Filter}
    (h : filter ∈ effectFilters effects) : filter.name ∈ effectNames := by
  obtain ⟨effect, -, hfilter⟩ := List.mem_filterMap.mp h
  unfold effectResult at hfilter
  split at hfilter
  · exact name_mem_of_namedEffect? hfilter
  · split at hfilter
    · split at hfilter
      next hok =>
        dsimp only at hfilter
        exact name_mem_of_customEffect? (hfilter ▸ hok)
      next => cases hfilter
    · cases hfilter

theorem plain_effectFilters (effects : List Effect) : Plain (effectFilters effects) := by
  intro filter hmem
  have hplain : ∀ name ∈ effectNames, name ≠ "overlay" ∧ name ≠ "drawtext" ∧ name ≠ "atrim" := by
    decide
  exact hplain filter.name (name_mem_of_mem_effectFilters hmem)

theorem plain_videoChain (frame : Frame) (element : MediaElement) :
    Plain (videoChain frame element) := by
  refine .append (.append ?_ (plain_effectFilters element.effects)) ?_
  · simp [Plain]
  · simp [Plain, shiftFilter]

theorem plain_imageChain (frame : Frame) (clip : Clip) : Plain (imageChain frame clip) := by
  refine .append (.append ?_ (plain_effectFilters clip.element.effects)) ?_
  · simp [Plain]
  · simp [Plain, shiftFilter]

theorem plain_paddedFit (frame : Frame) : Plain (paddedFit frame) := by
  simp [Plain, paddedFit, scaleFilter]

/-! ## Shares -/

theorem tally_baseNode (frame : Frame) : Tally 1 [] [] [] [baseNode frame] := by
  apply Plain.tally
  simp [Plain, baseNode, baseChain]

/-- A clip is prepared and composed, which takes one gated overlay. -/
theorem tally_clipNodes {stream surface : String} {chain : List Filter} {overlay : Filter}
    {first : Nat} {window : Json} (hchain : Plain chain) (hname : overlay.name = "overlay")
    (hgate : overlay.options.lookup "enable" = some window) :
    Tally 2 [window] [] [] (clipNodes stream surface chain overlay first) := by
  have hoverlay : Tally 1 [window] [] []
      [⟨[surface, pictureLabel first], [overlay], [pictureLabel (first + 1)]⟩] := by
    refine ⟨rfl, ?_, ?_, ?_⟩ <;> simp [overlayGates, named, hname, hgate]
  have hprepared : Tally 1 [] [] [] [⟨[stream], chain, [pictureLabel first]⟩] := Plain.tally hchain
  exact hprepared.append hoverlay

/-- The overlay of a clip on its own blurred copy has no gate. -/
theorem tally_backdropNodes (frame : Frame) (pad : String) (first : Nat) :
    Tally 4 [] [] [] (backdropNodes frame pad first) := by
  refine ⟨rfl, ?_, ?_, ?_⟩ <;> simp [overlayGates, named, backdropNodes, scaleFilter]

/-- How many nodes a video clip takes. -/
def videoNodeCount : Backdrop → Nat
  | .color => 2
  | .blur => 6

theorem tally_videoBrush (frame : Frame) (clip : Clip) (mark : Mark) :
    Tally (videoNodeCount frame.backdrop) [elementGate clip.element.toSlot] [] []
      ((videoBrush frame).nodes clip mark) := by
  have hchain := plain_videoChain frame clip.element
  unfold videoBrush
  cases frame.backdrop with
  | color => exact tally_clipNodes ((plain_paddedFit frame).append hchain) rfl rfl
  | blur => exact (tally_backdropNodes frame _ _).append (tally_clipNodes hchain rfl rfl)

theorem tally_imageBrush (options : Options) (frame : Frame) (clip : Clip) (mark : Mark) :
    Tally 2 [elementGate clip.element.toSlot] [] [] ((imageBrush options frame).nodes clip mark) :=
  tally_clipNodes (plain_imageChain frame clip) rfl rfl

theorem tally_captionBrush (options : Options) (element : TextElement) (mark : Mark) :
    Tally 1 [] [captionFilter options element] [] ((captionBrush options).nodes element mark) := by
  have hname : (captionFilter options element).name = "drawtext" := rfl
  refine ⟨rfl, ?_, ?_, ?_⟩ <;> simp [overlayGates, named, captionBrush, hname]

/-- The cut of a sound to the part of its source that its element plays. -/
def soundCut (element : MediaElement) : Filter :=
  { name := "atrim", options := elementCut element.toSlot }

theorem tally_soundChain (element : MediaElement) (delay : Int) (inputs outputs : List String) :
    Tally 1 [] [] [soundCut element] [⟨inputs, soundChain element delay, outputs⟩] := by
  refine ⟨rfl, ?_, ?_, ?_⟩ <;>
    simp [overlayGates, named, soundChain, soundCut, trimWindow_eq_elementCut]

/-- Several sounds are mixed by one node, and a single one is not. -/
theorem tally_mixNodes (first count number : Nat) :
    Tally (if 2 ≤ count then 1 else 0) [] [] [] (mixNodes (labels "a" first count) number) := by
  match count with
  | 0 => exact .nil
  | 1 => exact .nil
  | more + 2 =>
      have hcount : 2 ≤ more + 2 := Nat.le_add_left 2 more
      rw [if_pos hcount]
      have hlabels : ∃ one two rest, labels "a" first (more + 2) = one :: two :: rest := by
        simp [labels, List.range'_succ]
      obtain ⟨one, two, rest, hlabels⟩ := hlabels
      rw [hlabels]
      apply Plain.tally
      simp [Plain, mixFilter]

end Montage.Compile
