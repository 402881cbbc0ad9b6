/-
  Montage.Proofs.Compile.Windows

  The times that a compilation writes.  Every time is a numeral of three decimal places, and
  rounding to these keeps the order: an element is shown from its start to its end, which lies
  within the length of the base surface, and what it shows of its source begins before it
  ends.
-/
import Montage.Proofs.Compile.Painting
import Montage.Proofs.Compile.Soundtrack
import Montage.Proofs.Number.FixedPlaces
import Montage.Proofs.Timeline.Stored

namespace Montage.Timeline

open Montage.Number Montage.Validation

/-! ## Times of elements that were checked -/

/-- What is known of the times of an element that was checked: they are doubles, it starts no
    earlier than zero and lasts for some time, and so does its part of the source. -/
structure Slot.IsPlaced (slot : Slot) : Prop extends slot.IsSpan where
  start : slot.startTime.IsDouble
  trim : slot.trimStart.toRealOrInfinite.IsDouble
  trims : Binary64.zero.le slot.trimStart.toRealOrInfinite = true

theorem zero_le_trimStart {fields : List (String × Json)} {slot : Slot}
    (h : checkSlot fields = .valid slot) :
    Binary64.zero.le slot.trimStart.toRealOrInfinite = true := by
  simp only [checkSlot, Checked.ap_eq_valid, Checked.fmap_eq_valid, ↓existsAndEq, and_true] at h
  obtain ⟨_, _, _, _, _, -, htrim, rfl⟩ := h
  rcases eq_default_or_exists htrim with rfl | ⟨_, hread⟩
  · show Binary64.zero.le (.ofInt 0) = true
    decide +kernel
  · obtain ⟨_, hreal, rfl⟩ := Checked.map_eq_valid.mp hread
    exact zero_le_of_checkNonnegativeReal hreal

/-- The times of all elements of a document that was checked. -/
theorem isPlaced_of_checkDocument {rule : ObjectRule} {value : Json} {document : Document}
    (hregular : value.Regular) (h : checkDocument rule value = .valid document) :
    ∀ track ∈ document.tracks, ∀ element ∈ track.elements, element.slot.IsPlaced := by
  intro track htrack element helement
  obtain ⟨_, hslot⟩ := exists_slot_of_checkDocument h track htrack element helement
  -- what is written of the document is regular, and the times are among it
  have hwritten := (faithful_document rule value document hregular h).regular
  have htracks : Json.RegularItems (document.tracks.map (Track.toJson asReal)) := by
    obtain ⟨-, -, htracks, -⟩ := hwritten
    exact htracks
  have hone := Json.regularItems_iff.mp htracks _ (List.mem_map_of_mem htrack)
  have helements : Json.RegularItems (track.elements.map (Element.toJson asReal)) := by
    obtain ⟨-, -, -, -, helements, -⟩ := hone
    exact helements
  have hfields := Json.regularItems_iff.mp helements _ (List.mem_map_of_mem helement)
  have hdoubles : element.slot.startTime.IsDouble ∧
      element.slot.trimStart.toRealOrInfinite.IsDouble := by
    cases element with
    | media element =>
        obtain ⟨-, -, -, hstart, -, htrim, -⟩ := hfields
        exact ⟨hstart, htrim⟩
    | text element =>
        obtain ⟨-, -, -, hstart, -, htrim, -⟩ := hfields
        exact ⟨hstart, htrim⟩
  exact {
    toIsSpan := isSpan_of_checkSlot hslot
    start := hdoubles.1
    trim := hdoubles.2
    trims := zero_le_trimStart hslot }

end Montage.Timeline

namespace Montage.Compile

open Montage.Filter (Node labels)
open Montage.Number Montage.Timeline

/-! ## Times as numerals -/

/-- Whether a text is a numeral of three decimal places whose value is at most half a thousandth
    away from a time. -/
structure Tells (text : String) (time : Binary64) (value : ℚ) : Prop where
  reads : numeralValue? 3 text = some value
  near : ∃ exact, time.rat? = some exact ∧ |value - exact| ≤ 1 / 2000

theorem exists_tells {time : Binary64} (h : time.isFinite = true) :
    ∃ value, Tells (Filter.secondsText time) time value := by
  obtain ⟨negative, units, rfl⟩ := Binary64.exists_finite_of_isFinite h
  refine ⟨_, Decimal.numeralValue?_fixed (by decide) negative units, _, rfl, ?_⟩
  have hnear := Decimal.fixed_near 3 negative units
  have htolerance : (1 : ℚ) / (2 * 10 ^ 3) = 1 / 2000 := by norm_num
  rw [htolerance] at hnear
  exact hnear

theorem exists_rat? {time : Binary64} (h : time.isFinite = true) :
    ∃ exact, time.rat? = some exact := by
  obtain ⟨negative, units, rfl⟩ := Binary64.exists_finite_of_isFinite h
  exact ⟨_, rfl⟩

theorem isFinite_of_rat? {time : Binary64} {exact : ℚ} (h : time.rat? = some exact) :
    time.isFinite = true := by
  cases time with
  | finite negative units => rfl
  | infinite negative => cases h
  | nan => cases h

theorem Tells.isFinite {text : String} {time : Binary64} {value : ℚ} (h : Tells text time value) :
    time.isFinite = true := by
  obtain ⟨exact, hexact, -⟩ := h.near
  exact isFinite_of_rat? hexact

/-- A time that is no earlier than another one is not written as a smaller numeral. -/
theorem Tells.mono {time other : Binary64} {value more : ℚ}
    (h : Tells (Filter.secondsText time) time value)
    (h' : Tells (Filter.secondsText other) other more) (hle : other.lt time = false) :
    value ≤ more := by
  obtain ⟨negative, units, rfl⟩ := Binary64.exists_finite_of_isFinite h.isFinite
  obtain ⟨sign, count, rfl⟩ := Binary64.exists_finite_of_isFinite h'.isFinite
  have hvalue := h.reads.symm.trans (Decimal.numeralValue?_fixed (by decide) negative units)
  have hmore := h'.reads.symm.trans (Decimal.numeralValue?_fixed (by decide) sign count)
  have hunits :=
    Decimal.signed_fixedCount_mono 3 (Binary64.lt_finite_eq_false.mp hle)
  rw [Option.some.inj hvalue, Option.some.inj hmore]
  gcongr

theorem tells_zero : Tells (Filter.secondsText .zero) .zero 0 := by
  have hfinite : Binary64.zero.isFinite = true := rfl
  obtain ⟨value, h⟩ := exists_tells hfinite
  have hzero := h.reads.symm.trans (Decimal.numeralValue?_fixed (by decide) false 0)
  rw [Decimal.fixedCount_zero] at hzero
  obtain rfl : value = 0 := by simpa [Binary64.signed] using hzero
  exact h

/-! ## Filters with times -/

/-- The filter that makes a stream start at a time. -/
def offsetBy (start : String) : Filter :=
  { name := "setpts", args := [.str ("PTS-STARTPTS+" ++ start ++ "/TB")] }

/-- Whether an element is shown between two times, in the numerals that are written for them:
    it is not shown before zero, nor after the base surface ends. -/
def IsShownBetween (lasts : ℚ) (slot : Slot) (start finish : String) : Prop :=
  ∃ first last, Tells start slot.startTime first ∧
    Tells finish (slot.startTime.add slot.duration) last ∧
    0 ≤ first ∧ first ≤ last ∧ last ≤ lasts

/-- Whether an element shows its source between two times. -/
def IsCutBetween (slot : Slot) (start finish : String) : Prop :=
  ∃ first last, Tells start slot.trimStart.toRealOrInfinite first ∧
    Tells finish (slot.trimStart.toRealOrInfinite.add slot.duration) last ∧
    0 ≤ first ∧ first ≤ last

/-- Whether a node draws in one filter, under a gate. -/
def IsGated (node : Node) (name start finish : String) : Prop :=
  ∃ filter, node.chain = [filter] ∧ filter.name = name ∧
    ("enable", gateBetween start finish) ∈ filter.options

/-- Whether the last input of a node was prepared with some filters at the end. -/
def IsPreparedBy (nodes : List Node) (node : Node) (last : List Filter) : Prop :=
  ∃ before ∈ nodes, ∃ label, node.inputs.getLast? = some label ∧ before.outputs = [label] ∧
    last <:+ before.chain

/-- The times of a layer, in the node that draws it and in the one that prepares its stream: a
    clip is moved to the time at which its gate opens. -/
def Layer.IsTimed (nodes : List Node) (lasts : ℚ) (layer : Layer) (node : Node) : Prop :=
  match layer with
  | .video showing => ∃ start finish first last,
    IsShownBetween lasts showing.element.toSlot start finish ∧
    IsCutBetween showing.element.toSlot first last ∧ IsGated node "overlay" start finish ∧
    IsPreparedBy nodes node [{ name := "trim", options := cutBetween first last }, offsetBy start]
  | .image showing => ∃ start finish length value,
    IsShownBetween lasts showing.element.toSlot start finish ∧
    Tells length showing.element.duration value ∧ IsGated node "overlay" start finish ∧
    IsPreparedBy nodes node
      [{ name := "trim", options := [("duration", .str length)] }, offsetBy start]
  | .caption element => ∃ start finish,
    IsShownBetween lasts element.toSlot start finish ∧ IsGated node "drawtext" start finish

/-- The times of a sound, in its chain. -/
def Showing.IsTimedSound (showing : Showing) (node : Node) : Prop :=
  ∃ first last, IsCutBetween showing.element.toSlot first last ∧
    node.chain.head? = some { name := "atrim", options := cutBetween first last }

/-- The element of a layer. -/
def Layer.slot : Layer → Slot
  | .video showing => showing.element.toSlot
  | .image showing => showing.element.toSlot
  | .caption element => element.toSlot

theorem ne_nan_of_isFinite {time : Binary64} (h : time.isFinite = true) : time ≠ .nan := by
  rintro rfl
  cases h

/-! ## Times of elements -/

/-- Whether the times at which an element and its part of the source end are finite, and with
    them all times that they are the sums of. -/
structure HasFiniteEnds (slot : Slot) : Prop where
  shown : (slot.startTime.add slot.duration).isFinite = true
  cut : (slot.trimStart.toRealOrInfinite.add slot.duration).isFinite = true

section Slots

variable {slot : Slot} (hplaced : slot.IsPlaced) (hfinite : HasFiniteEnds slot)
include hplaced hfinite

theorem isShownBetween_slot {total : Binary64} {lasts : ℚ}
    (htotal : Tells (Filter.secondsText total) total lasts)
    (hend : total.lt slot.endTime = false) :
    IsShownBetween lasts slot (Filter.secondsText slot.startTime)
      (Filter.secondsText slot.endTime) := by
  obtain ⟨first, hfirst⟩ := exists_tells (Binary64.isFinite_of_add hfinite.shown).1
  obtain ⟨last, hlast⟩ := exists_tells hfinite.shown
  have hspan := Binary64.add_lt_eq_false hplaced.start hplaced.starts hplaced.lasts hfinite.shown
  have hzero := Binary64.lt_zero_eq_false hplaced.starts
  exact ⟨first, last, hfirst, hlast, tells_zero.mono hfirst hzero, hfirst.mono hlast hspan,
    hlast.mono htotal hend⟩

theorem isCutBetween_slot :
    IsCutBetween slot (Filter.secondsText (trimStart slot))
      (Filter.secondsText (trimEnd slot)) := by
  obtain ⟨first, hfirst⟩ := exists_tells (Binary64.isFinite_of_add hfinite.cut).1
  obtain ⟨last, hlast⟩ := exists_tells hfinite.cut
  have hspan := Binary64.add_lt_eq_false hplaced.trim hplaced.trims hplaced.lasts hfinite.cut
  have hzero := Binary64.lt_zero_eq_false hplaced.trims
  exact ⟨first, last, hfirst, hlast, tells_zero.mono hfirst hzero, hfirst.mono hlast hspan⟩

end Slots

variable {options : Options} {document : Document} {nodes : List Node}

/-- The node of a layer has the times of its element. -/
theorem Layer.DrawnBy.isTimed {layer : Layer} {node : Node} {below above : String}
    (h : layer.DrawnBy options document nodes node below above) (hplaced : layer.slot.IsPlaced)
    (hfinite : HasFiniteEnds layer.slot) {total : Binary64} {lasts : ℚ}
    (htotal : Tells (Filter.secondsText total) total lasts)
    (hend : total.lt layer.slot.endTime = false) : layer.IsTimed nodes lasts node := by
  have hshown := isShownBetween_slot hplaced hfinite htotal hend
  cases layer with
  | video showing =>
      obtain ⟨prepared, hprepared, rfl⟩ := h
      obtain ⟨before, hbefore, houtputs, hchain⟩ := hprepared.chain
      refine ⟨_, _, _, _, hshown, isCutBetween_slot hplaced hfinite, ⟨_, rfl, rfl, ?_⟩,
        before, hbefore, prepared, rfl, houtputs, ?_⟩
      · exact List.mem_cons_of_mem _ List.mem_cons_self
      · exact (List.suffix_append _ _).trans hchain
  | image showing =>
      obtain ⟨prepared, hprepared, rfl⟩ := h
      obtain ⟨before, hbefore, houtputs, hchain⟩ := hprepared.chain
      obtain ⟨value, hlength⟩ := exists_tells (Binary64.isFinite_of_add hfinite.shown).2
      refine ⟨_, _, _, value, hshown, hlength, ⟨_, rfl, rfl, ?_⟩,
        before, hbefore, prepared, rfl, houtputs, ?_⟩
      · exact List.mem_cons_of_mem _ (List.mem_cons_of_mem _ (List.mem_cons_of_mem _
          List.mem_cons_self))
      · exact (List.suffix_append _ _).trans hchain
  | caption element =>
      obtain rfl := h
      refine ⟨_, _, hshown, _, rfl, rfl, ?_⟩
      exact List.mem_append_right _ (List.mem_cons_of_mem _ (List.mem_cons_of_mem _
        List.mem_cons_self))

/-- Each layer of a stack has a node of its own. -/
theorem Stacked.forall₂_drawnBy {below top : String} {all : List Layer} {strokes : List Node}
    (h : Stacked options document nodes below all strokes top) :
    List.Forall₂
      (fun layer node => ∃ under above, layer.DrawnBy options document nodes node under above)
      all strokes := by
  induction h with
  | nil surface => exact .nil
  | cons hlayer _ ih => exact .cons ⟨_, _, hlayer⟩ ih

theorem IsChainOf.isTimedSound {compilation : Compilation} {showing : Showing} {node : Node}
    (h : IsChainOf document compilation showing node)
    (hplaced : showing.element.toSlot.IsPlaced)
    (hfinite : HasFiniteEnds showing.element.toSlot) : showing.IsTimedSound node := by
  obtain ⟨number, input, delay, label, -, -, -, rfl⟩ := h
  exact ⟨_, _, isCutBetween_slot hplaced hfinite, rfl⟩

/-! ## Elements of documents -/

theorem element_of_showing? {items : MediaItems} {visit : Visit} {showing : Showing}
    (h : visit.showing? items = some showing) : visit.element = .media showing.element := by
  unfold Visit.showing? at h
  split at h
  · cases h
  next element hmedia =>
    split at h
    · cases h
    · split at h
      · cases h
      · cases h
        exact hmedia

theorem exists_of_mem_showings {showing : Showing} (h : showing ∈ showings document) :
    ∃ track ∈ document.tracks, .media showing.element ∈ track.elements := by
  obtain ⟨visit, hvisit, hshowing⟩ := List.mem_filterMap.mp h
  obtain ⟨htrack, helement⟩ := mem_visits.mp hvisit
  exact ⟨visit.track, htrack, element_of_showing? hshowing ▸ helement⟩

theorem exists_of_mem_captions {element : TextElement}
    (h : element ∈ captions (visits document.tracks)) :
    ∃ track ∈ document.tracks, .text element ∈ track.elements := by
  obtain ⟨visit, hvisit, hcaption⟩ := List.mem_filterMap.mp h
  obtain ⟨htrack, helement⟩ := mem_visits.mp hvisit
  refine ⟨visit.track, htrack, ?_⟩
  unfold Visit.caption? at hcaption
  split at hcaption
  next text htext =>
    cases hcaption
    exact htext ▸ helement
  next => cases hcaption

/-- Every layer is an element of the document. -/
theorem exists_of_mem_layers {layer : Layer} (h : layer ∈ layers document) :
    ∃ track ∈ document.tracks, ∃ element ∈ track.elements, element.slot = layer.slot := by
  rcases List.mem_append.mp h with hclip | hcaption
  · rcases List.mem_append.mp hclip with hvideo | himage
    · obtain ⟨showing, hshowing, rfl⟩ := List.mem_map.mp hvideo
      obtain ⟨track, htrack, helement⟩ := exists_of_mem_showings (List.mem_filter.mp hshowing).1
      exact ⟨track, htrack, _, helement, rfl⟩
    · obtain ⟨showing, hshowing, rfl⟩ := List.mem_map.mp himage
      obtain ⟨track, htrack, helement⟩ := exists_of_mem_showings (List.mem_filter.mp hshowing).1
      exact ⟨track, htrack, _, helement, rfl⟩
  · obtain ⟨element, hmem, rfl⟩ := List.mem_map.mp hcaption
    obtain ⟨track, htrack, helement⟩ := exists_of_mem_captions hmem
    exact ⟨track, htrack, _, helement, rfl⟩

/-- Every element that counts as rendered is a layer or is heard. -/
theorem exists_of_rendered {visit : Visit} (hvisit : visit ∈ visits document.tracks)
    (h : verdict document.mediaItems visit.element = .rendered) :
    (∃ layer ∈ layers document, layer.slot = visit.element.slot) ∨
      ∃ showing ∈ heard document, showing.element.toSlot = visit.element.slot := by
  rcases (judged_verdict document.mediaItems visit).rendered.mp h with
    ⟨text, htext⟩ | ⟨showing, hshowing⟩
  · have hcaption : text ∈ captions (visits document.tracks) :=
      List.mem_filterMap.mpr ⟨visit, hvisit, by rw [Visit.caption?, htext]⟩
    refine .inl ⟨.caption text, List.mem_append_right _ (List.mem_map_of_mem hcaption), ?_⟩
    rw [htext]
    rfl
  · have hmem : showing ∈ showings document := List.mem_filterMap.mpr ⟨visit, hvisit, hshowing⟩
    have hslot : showing.element.toSlot = visit.element.slot := by
      rw [element_of_showing? hshowing]
      rfl
    -- videos and images are shown, and sound files are always heard
    cases hkind : showing.asset.kind with
    | video =>
        have hshown : showing ∈ showingsOf .video document :=
          List.mem_filter.mpr ⟨hmem, decide_eq_true hkind⟩
        exact .inl ⟨.video showing,
          List.mem_append_left _ (List.mem_append_left _ (List.mem_map_of_mem hshown)), hslot⟩
    | image =>
        have hshown : showing ∈ showingsOf .image document :=
          List.mem_filter.mpr ⟨hmem, decide_eq_true hkind⟩
        exact .inl ⟨.image showing,
          List.mem_append_left _ (List.mem_append_right _ (List.mem_map_of_mem hshown)), hslot⟩
    | audio =>
        exact .inr ⟨showing, List.mem_filter.mpr ⟨hmem, decide_eq_true (.inl hkind)⟩, hslot⟩

/-! ## The length of the base surface -/

theorem isFinite_latest {times : List Binary64} (h : ∀ time ∈ times, time.isFinite = true) :
    (latest times).isFinite = true := by
  cases times with
  | nil => rfl
  | cons first rest =>
      have hfirst : first ≠ .nan := by
        rintro rfl
        cases h _ List.mem_cons_self
      exact h _ (foldl_later hfirst rest).2.1

theorem isFinite_duration
    (h : ∀ track ∈ document.tracks, ∀ element ∈ track.elements, HasFiniteEnds element.slot) :
    (Timeline.duration document.tracks).isFinite = true := by
  refine isFinite_latest fun time htime => ?_
  obtain ⟨track, htrack, hmem⟩ := List.mem_flatMap.mp htime
  obtain ⟨element, helement, rfl⟩ := List.mem_map.mp hmem
  exact (h track htrack element helement).shown

/-- The later of two finite times is the larger number. -/
theorem rat?_later {first second : Binary64} {x y : ℚ} (hx : first.rat? = some x)
    (hy : second.rat? = some y) : (later first second).rat? = some (max x y) := by
  cases first with
  | infinite negative => cases hx
  | nan => cases hx
  | finite negative units =>
      cases second with
      | infinite negative => cases hy
      | nan => cases hy
      | finite other more =>
          have hunit : (0 : ℚ) < Binary64.unitsPerOne := Nat.cast_pos.mpr Decimal.unitsPerOne_pos
          obtain rfl := Option.some.inj hx
          obtain rfl := Option.some.inj hy
          unfold later
          split
          next hlt =>
            have hunits := of_decide_eq_true hlt
            rw [hy, max_eq_right]
            gcongr
          next hlt =>
            have hunits := Binary64.lt_finite_eq_false.mp (Bool.eq_false_iff.mpr hlt)
            rw [hx, max_eq_left]
            gcongr

/-- No element of a document ends after the base surface. -/
theorem duration_lt_endTime (options : Options)
    (hfinite : ∀ track ∈ document.tracks, ∀ element ∈ track.elements,
      HasFiniteEnds element.slot) :
    ∀ track ∈ document.tracks, ∀ element ∈ track.elements,
      (Frame.of document options).duration.lt element.slot.endTime = false := by
  intro track htrack element helement
  have htotal := ne_nan_of_isFinite (isFinite_duration hfinite)
  have hend := ne_nan_of_isFinite (hfinite track htrack element helement).shown
  have hlater := later_ne_nan htotal options.minDuration
  have hnone := (isLatestEnd_duration htotal).noneLater track htrack element helement
  have hless := (noLater_later htotal options.minDuration).1
  exact (Binary64.lt_eq_false_iff hend hlater).mpr
    (Binary64.noLater_trans ((Binary64.lt_eq_false_iff hend htotal).mp hnone) hless)

/-- Whether the base surface, in the numeral that is written for it, lasts until the latest end of
    an element, or for the least duration where that is longer. -/
def BaseLasts (options : Options) (document : Document) (compilation : Compilation)
    (lasts : ℚ) : Prop :=
  ∃ text rest total latest least,
    compilation.inputs =
      { locator := "color=c=" ++ Filter.colorText document.project.backgroundColor ++ ":s=" ++
          toString document.project.canvas.width ++ "x" ++
          toString document.project.canvas.height ++ ":r=" ++
          toString document.project.fps ++ ":d=" ++ text
        options := ["-f", "lavfi"] } :: rest ∧
    numeralValue? 3 text = some lasts ∧
    IsLatestEnd document.tracks total ∧ total.rat? = some latest ∧
    options.minDuration.rat? = some least ∧ |lasts - max latest least| ≤ 1 / 2000

/-! ## The whole compilation -/

/-- The times of a compilation, in the numerals that are written for them. -/
structure Windows (options : Options) (document : Document) (compilation : Compilation)
    (lasts : ℚ) : Prop where
  base : BaseLasts options document compilation lasts
  /-- All that is rendered is drawn or heard. -/
  rendered : ∀ visit ∈ visits document.tracks,
    verdict document.mediaItems visit.element = .rendered →
      (∃ layer ∈ layers document, layer.slot = visit.element.slot) ∨
        ∃ showing ∈ heard document, showing.element.toSlot = visit.element.slot
  drawn : ∃ strokes, strokes.Sublist compilation.graph.nodes ∧
    List.Forall₂ (Layer.IsTimed compilation.graph.nodes lasts) (layers document) strokes
  heard : ∃ sounds, sounds.Sublist compilation.graph.nodes ∧
    List.Forall₂ Showing.IsTimedSound (heard document) sounds

/-- The chains of what is heard stand in the graph, in the order of the elements. -/
theorem exists_chains {compilation : Compilation} (h : compile options document = .ok compilation) :
    ∃ sounds, sounds.Sublist compilation.graph.nodes ∧
      List.Forall₂ (IsChainOf document compilation) (heard document) sounds := by
  obtain ⟨timed, htimed, hdelays, hnodes, -, -⟩ := exists_timed h
  refine ⟨_, ?_, forall₂_isChainOf h htimed hdelays
    (captionMark options (Frame.of document options) (select document)).next⟩
  rw [hnodes]
  exact ((List.sublist_append_right _ _).trans (List.sublist_append_left _ _)).cons _

/-- The base surface lasts as long as it has to, and its numeral is that of its length. -/
theorem exists_baseLasts {compilation : Compilation}
    (hfinite : ∀ track ∈ document.tracks, ∀ element ∈ track.elements,
      HasFiniteEnds element.slot)
    (hleast : options.minDuration.isFinite = true)
    (h : compile options document = .ok compilation) :
    ∃ lasts, BaseLasts options document compilation lasts ∧
      Tells (Filter.secondsText (Frame.of document options).duration)
        (Frame.of document options).duration lasts := by
  obtain ⟨latest, hlatest⟩ := exists_rat? (isFinite_duration hfinite)
  obtain ⟨least, hshortest⟩ := exists_rat? hleast
  have hlonger : (Frame.of document options).duration.rat? = some (max latest least) :=
    rat?_later hlatest hshortest
  obtain ⟨lasts, htells⟩ := exists_tells (isFinite_of_rat? hlonger)
  obtain ⟨exact, hexact, hnear⟩ := htells.near
  obtain rfl := Option.some.inj (hlonger.symm.trans hexact)
  obtain ⟨used, hinputs, -⟩ := inputs_of_compile h
  have hlatestEnd := isLatestEnd_duration (ne_nan_of_isFinite (isFinite_duration hfinite))
  exact ⟨lasts, ⟨_, _, _, latest, least, hinputs, htells.reads, hlatestEnd, hlatest, hshortest,
    hnear⟩, htells⟩

/-- A document that was checked compiles to windows that fit the base surface if no element ends
    in infinity, from the denormal numbers to the largest ones and for every least duration. -/
theorem compile_windows {rule : ObjectRule} {value : Json} {compilation : Compilation}
    (hregular : value.Regular) (hvalid : checkDocument rule value = .valid document)
    (hfinite : ∀ track ∈ document.tracks, ∀ element ∈ track.elements,
      HasFiniteEnds element.slot)
    (hleast : options.minDuration.isFinite = true)
    (h : compile options document = .ok compilation) :
    ∃ lasts, Windows options document compilation lasts := by
  have hplaced := isPlaced_of_checkDocument hregular hvalid
  have hbounds := duration_lt_endTime options hfinite
  obtain ⟨lasts, hbase, htells⟩ := exists_baseLasts hfinite hleast h
  obtain ⟨strokes, hstrokes, hstacked⟩ := exists_stacked h
  obtain ⟨sounds, hsounds, hchains⟩ := exists_chains h
  have hlayers : ∀ layer ∈ layers document, layer.slot.IsPlaced ∧ HasFiniteEnds layer.slot ∧
      (Frame.of document options).duration.lt layer.slot.endTime = false := by
    intro layer hlayer
    obtain ⟨track, htrack, element, helement, hslot⟩ := exists_of_mem_layers hlayer
    rw [← hslot]
    exact ⟨hplaced track htrack element helement, hfinite track htrack element helement,
      hbounds track htrack element helement⟩
  have hheard : ∀ showing ∈ heard document, showing.element.toSlot.IsPlaced ∧
      HasFiniteEnds showing.element.toSlot := by
    intro showing hshowing
    obtain ⟨track, htrack, helement⟩ := exists_of_mem_showings (List.mem_filter.mp hshowing).1
    exact ⟨hplaced track htrack _ helement, hfinite track htrack _ helement⟩
  have hdrawn := (List.forall₂_and_left _ _).mpr ⟨hlayers, hstacked.forall₂_drawnBy⟩
  have hcut := (List.forall₂_and_left _ _).mpr ⟨hheard, hchains⟩
  refine ⟨lasts, {
    base := hbase
    rendered := fun visit hvisit hverdict => exists_of_rendered hvisit hverdict
    drawn := ⟨strokes, hstrokes, hdrawn.imp ?_⟩
    heard := ⟨sounds, hsounds, hcut.imp ?_⟩ }⟩
  · rintro layer node ⟨⟨hslot, hends, hbound⟩, under, above, hlayer⟩
    exact hlayer.isTimed hslot hends htells hbound
  · rintro showing node ⟨⟨hslot, hends⟩, hchain⟩
    exact hchain.isTimedSound hslot hends

theorem compile_windows_sampleTimeline : ∃ document,
    sampleTimeline.Regular ∧ checkDocument .byModel sampleTimeline = .valid document ∧
    (∀ track ∈ document.tracks, ∀ element ∈ track.elements, HasFiniteEnds element.slot) ∧
    ({} : Options).minDuration.isFinite = true ∧
    ∃ compilation lasts, compile {} document = .ok compilation ∧
      Windows {} document compilation lasts := by
  have htests : (checkDocument .byModel sampleTimeline).all (fun document =>
      hasDelays document && document.tracks.all fun track => track.elements.all fun element =>
        element.endTime.isFinite && (trimEnd element.slot).isFinite) = true := by
    decide +kernel
  obtain ⟨document, hvalid, htest⟩ := Validation.Checked.all_eq_true.mp htests
  obtain ⟨hdelays, hends⟩ := Bool.and_eq_true_iff.mp htest
  have hregular : sampleTimeline.Regular := by
    simp [sampleTimeline, sampleMediaValue, Json.int, Json.Regular, Json.RegularItems,
      Json.RegularFields, regular_of_natAbs_lt]
  have hfinite : ∀ track ∈ document.tracks, ∀ element ∈ track.elements,
      HasFiniteEnds element.slot := by
    simp only [List.all_eq_true, Bool.and_eq_true] at hends
    exact fun track htrack element helement =>
      ⟨(hends track htrack element helement).1, (hends track htrack element helement).2⟩
  have hleast : ({} : Options).minDuration.isFinite = true := by decide +kernel
  obtain ⟨compilation, h⟩ := exists_compile_of_hasDelays {} hdelays
  obtain ⟨lasts, hwindows⟩ := compile_windows hregular hvalid hfinite hleast h
  exact ⟨document, hregular, hvalid, hfinite, hleast, compilation, lasts, h, hwindows⟩

end Montage.Compile
