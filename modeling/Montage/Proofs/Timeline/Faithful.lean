/-
  Montage.Proofs.Timeline.Faithful

  Timeline documents that are read, written and read again.  A document comes back with
  the same texts, numbers, elements and media in the same order; a strength or a start
  that was left out comes back as the double with the value of its default.
-/
import Mathlib.Tactic.Simproc.ExistsAndEq
import Montage.Proofs.Validation.Faithful
import Montage.Timeline.Reader
import Montage.Timeline.Writer

namespace Montage

open Montage.Number Montage.Validation

/-! ## Equal documents -/

/-- Whether numbers compare equal; two doubles have to be the same. -/
def Number.Scalar.Same : Scalar → Scalar → Prop
  | .int i, .int j => i = j
  | .int i, .real x => x.toInt? = some i
  | .real x, .int i => x.toInt? = some i
  | .real x, .real y => x = y

namespace Timeline

structure Project.Same (a b : Project) : Prop where
  blurIntensity : a.blurIntensity.Same b.blurIntensity
  others : b = { a with blurIntensity := b.blurIntensity }

structure Slot.Same (a b : Slot) : Prop where
  trimStart : a.trimStart.Same b.trimStart
  others : b = { a with trimStart := b.trimStart }

structure MediaElement.Same (a b : MediaElement) : Prop where
  slot : a.toSlot.Same b.toSlot
  others : b = { a with toSlot := b.toSlot }

structure TextElement.Same (a b : TextElement) : Prop where
  slot : a.toSlot.Same b.toSlot
  others : b = { a with toSlot := b.toSlot }

def Element.Same : Element → Element → Prop
  | .media a, .media b => a.Same b
  | .text a, .text b => a.Same b
  | _, _ => False

structure Track.Same (a b : Track) : Prop where
  elements : List.Forall₂ Element.Same a.elements b.elements
  others : b = { a with elements := b.elements }

/-- Whether documents are equal: in everything but the numbers that may be integer defaults
    they are the same, and those compare equal. -/
structure Document.Same (a b : Document) : Prop where
  project : a.project.Same b.project
  tracks : List.Forall₂ Track.Same a.tracks b.tracks
  mediaItems : b.mediaItems = a.mediaItems

/-! ## Words, effects and amounts -/

theorem checkText_str (text : String) : checkText (.str text) = .valid text :=
  rfl

theorem checkFlag_bool (flag : Bool) : checkFlag (.bool flag) = .valid flag :=
  rfl

theorem checkWord_backdrop (kind : Backdrop) :
    checkWord backdropWords (.str kind.word) = .valid kind := by
  cases kind <;> rfl

theorem checkWord_trackKind (kind : TrackKind) :
    checkWord trackWords (.str kind.word) = .valid kind := by
  cases kind <;> rfl

theorem checkWord_mediaKind (kind : MediaKind) :
    checkWord mediaWords (.str kind.word) = .valid kind := by
  cases kind <;> rfl

theorem faithful_effect : Faithful checkEffect checkEffect Effect.toJson Eq := by
  intro value effect hvalue h
  unfold checkEffect at h
  split at h
  next =>
    cases h
    exact .exact trivial rfl
  next =>
    cases h
    exact .exact hvalue rfl
  next => cases h

theorem faithful_effects :
    Faithful (checkList checkEffect) (checkList checkEffect)
      (fun effects => .arr (effects.map Effect.toJson)) Eq := by
  have hlist := faithful_effect.list
  rwa [List.forall₂_eq_eq_eq] at hlist

/-- A number that is not negative, for a field whose default is an integer. -/
abbrev checkAmount (value : Json) : Checked Scalar :=
  (checkNonnegativeReal value).map .real

theorem kept_amount {amount : Scalar} {x : Binary64} (hvalue : amount.toRealOrInfinite = x)
    (hdouble : x.IsDouble) (hle : Binary64.le .zero x = true) (hsame : amount.Same (.real x)) :
    Kept checkAmount asReal Scalar.Same amount := by
  have hwritten : asReal amount = .num (.real x) := by rw [asReal, hvalue]
  refine ⟨hwritten ▸ hdouble, fun _ => ⟨.real x, ?_, hsame⟩⟩
  rw [hwritten]
  exact Checked.map_eq_valid.mpr ⟨x, if_pos hle, rfl⟩

theorem faithful_amount : Faithful checkAmount checkAmount asReal Scalar.Same := by
  intro value amount hvalue h
  obtain ⟨x, hread, rfl⟩ := Checked.map_eq_valid.mp h
  obtain ⟨y, hreal, htest⟩ := Checked.andThen_eq_valid.mp hread
  split at htest
  next hle =>
    cases htest
    exact kept_amount rfl (isDouble_of_checkReal hvalue hreal) hle rfl
  next => cases htest

theorem kept_blurIntensity : Kept checkAmount asReal Scalar.Same (.int 8) :=
  kept_amount rfl (Binary64.isDouble_ofInt 8) (by decide +kernel)
    (by decide +kernel : (Binary64.ofInt 8).toInt? = some 8)

theorem kept_trimStart : Kept checkAmount asReal Scalar.Same (.int 0) :=
  kept_amount rfl (Binary64.isDouble_ofInt 0) (by decide +kernel)
    (by decide +kernel : (Binary64.ofInt 0).toInt? = some 0)

/-! ## Objects -/

theorem exists_of_checkObject {α : Type} {rule : ObjectRule} {model : String}
    {read : List (String × Json) → Checked α} {value : Json} {a : α}
    (h : checkObject rule model read value = .valid a) :
    ∃ fields, value = .obj fields ∧ read fields = .valid a := by
  unfold checkObject at h
  split at h
  · exact ⟨_, rfl, h⟩
  · cases h

theorem faithful_canvas (rule : ObjectRule) :
    Faithful (checkCanvas rule) (checkCanvas .byModel) Canvas.toJson Eq := by
  intro value canvas hvalue h
  obtain ⟨fields, rfl, hfields⟩ := exists_of_checkObject h
  simp only [Checked.ap_eq_valid, Checked.fmap_eq_valid, ↓existsAndEq, and_true] at hfields
  obtain ⟨height, width, hwidth, hheight, rfl⟩ := hfields
  have hwidth := faithful_positive.required hvalue hwidth
  have hheight := faithful_positive.required hvalue hheight
  refine ⟨⟨by simp, hwidth.regular, hheight.regular, trivial⟩, fun _ => ⟨_, ?_, rfl⟩⟩
  change Canvas.mk <$> _ <*> _ = _
  rw [required_eq_valid rfl (hwidth.eq rfl), required_eq_valid rfl (hheight.eq rfl)]
  rfl

theorem faithful_name : Faithful (checkOption checkText) (checkOption checkText) optionalText Eq :=
  faithful_text.option nofun

theorem kept_fps : Kept checkPositive .int Eq 30 :=
  kept_positive (readableInt_of_lt (by decide +kernel)) (by decide)

theorem faithful_project (rule : ObjectRule) :
    Faithful (checkProject rule) (checkProject .byModel) (Project.toJson asReal) Project.Same := by
  intro value project hvalue h
  obtain ⟨fields, rfl, hfields⟩ := exists_of_checkObject h
  simp only [Checked.ap_eq_valid, Checked.fmap_eq_valid, ↓existsAndEq, and_true] at hfields
  obtain ⟨blur, backdrop, color, fps, canvas, name, id,
    ⟨⟨⟨⟨⟨hid, hname⟩, hcanvas⟩, hfps⟩, hcolor⟩, hbackdrop⟩, hblur, rfl⟩ := hfields
  have hid := faithful_name.optional kept_none hvalue hid
  have hname := faithful_name.optional kept_none hvalue hname
  have hcanvas := (faithful_canvas rule).required hvalue hcanvas
  have hfps := faithful_positive.optional kept_fps hvalue hfps
  have hblur := faithful_amount.optional kept_blurIntensity hvalue hblur
  refine ⟨⟨by simp, hid.regular, hname.regular, hcanvas.regular, hfps.regular, trivial, trivial,
    hblur.regular, trivial⟩, fun hfinite => ?_⟩
  simp only [Project.toJson, Json.hasFiniteNumbers, Json.fieldsHaveFiniteNumbers, Bool.and_eq_true,
    and_true, true_and] at hfinite
  obtain ⟨hfiniteId, hfiniteName, hfiniteCanvas, hfiniteFps, hfiniteBlur⟩ := hfinite
  obtain ⟨back, hblur, hsame⟩ := hblur.again hfiniteBlur
  refine ⟨⟨id, name, canvas, fps, color, backdrop, back⟩, ?_, ⟨hsame, rfl⟩⟩
  change Project.mk <$> _ <*> _ <*> _ <*> _ <*> _ <*> _ <*> _ = _
  rw [optional_eq_valid rfl (hid.eq hfiniteId), optional_eq_valid rfl (hname.eq hfiniteName),
    required_eq_valid rfl (hcanvas.eq hfiniteCanvas), optional_eq_valid rfl (hfps.eq hfiniteFps),
    optional_eq_valid rfl (checkText_str color), optional_eq_valid rfl (checkWord_backdrop backdrop),
    optional_eq_valid rfl hblur]
  rfl

/-! ## Elements -/

/-- A slot is kept among the other fields of its element. -/
theorem kept_slot {fields : List (String × Json)} {slot : Slot}
    (hregular : (Json.obj fields).Regular) (h : checkSlot fields = .valid slot) :
    Json.RegularFields (slot.fields asReal) ∧
      (Json.fieldsHaveFiniteNumbers (slot.fields asReal) = true →
        ∃ back, (∀ others, checkSlot (slot.fields asReal ++ others) = .valid back) ∧
          slot.Same back) := by
  simp only [checkSlot, Checked.ap_eq_valid, Checked.fmap_eq_valid, ↓existsAndEq, and_true] at h
  obtain ⟨trimStart, duration, startTime, name, id,
    ⟨⟨⟨hid, hname⟩, hstart⟩, hduration⟩, htrim, rfl⟩ := h
  have hname := faithful_name.optional kept_none hregular hname
  have hstart := faithful_nonnegativeReal.required hregular hstart
  have hduration := faithful_positiveReal.required hregular hduration
  have htrim := faithful_amount.optional kept_trimStart hregular htrim
  refine ⟨⟨trivial, hname.regular, hstart.regular, hduration.regular, htrim.regular, trivial⟩,
    fun hfinite => ?_⟩
  simp only [Slot.fields, Json.hasFiniteNumbers, Json.fieldsHaveFiniteNumbers, Bool.and_eq_true,
    and_true, true_and] at hfinite
  obtain ⟨hfiniteName, hfiniteStart, hfiniteDuration, hfiniteTrim⟩ := hfinite
  obtain ⟨back, htrim, hsame⟩ := htrim.again hfiniteTrim
  refine ⟨⟨id, name, startTime, duration, back⟩, fun others => ?_, hsame, rfl⟩
  change Slot.mk <$> _ <*> _ <*> _ <*> _ <*> _ = _
  rw [required_eq_valid rfl (checkText_str id), optional_eq_valid rfl (hname.eq hfiniteName),
    required_eq_valid rfl (hstart.eq hfiniteStart),
    required_eq_valid rfl (hduration.eq hfiniteDuration), optional_eq_valid rfl htrim]
  rfl

theorem checkTypeWord_eq_valid {word : String} {fields : List (String × Json)}
    (hword : Json.lookup "type" fields = some (.str word)) (hwhole : Json.isWholeText word = true) :
    checkTypeWord word fields = .valid () := by
  refine optional_eq_valid hword ?_
  simp [checkWord, checkWhole, hwhole]

theorem kept_effects :
    Kept (checkList checkEffect) (fun effects => .arr (effects.map Effect.toJson)) Eq [] :=
  .exact trivial rfl

theorem kept_volume : Kept checkNonnegativeReal (.num <| .real ·) Eq (.ofNat 1) :=
  kept_nonnegativeReal (Binary64.isDouble_ofNat 1) (by decide +kernel)

theorem kept_fontSize : Kept checkPositive .int Eq 48 :=
  kept_positive (readableInt_of_lt (by decide +kernel)) (by decide)

theorem faithful_offset :
    Faithful (checkOption checkReal) (checkOption checkReal) (Json.ofOption real) Eq :=
  faithful_real.option nofun

theorem faithful_mediaElement (rule : ObjectRule) :
    Faithful (checkMediaElement rule) (checkMediaElement .byModel) (MediaElement.toJson asReal)
      MediaElement.Same := by
  intro value element hvalue h
  obtain ⟨fields, rfl, hfields⟩ := exists_of_checkObject h
  simp only [Checked.ap_eq_valid, Checked.fmap_eq_valid, ↓existsAndEq, and_true] at hfields
  obtain ⟨position, effects, volume, muted, mediaId, -, slot,
    ⟨⟨⟨⟨⟨hslot, -⟩, hmediaId⟩, hmuted⟩, hvolume⟩, heffects⟩, hposition, rfl⟩ := hfields
  obtain ⟨hregularSlot, hslot⟩ := kept_slot hvalue hslot
  have hvolume := faithful_nonnegativeReal.optional kept_volume hvalue hvolume
  have heffects := faithful_effects.optional kept_effects hvalue heffects
  have hposition := faithful_name.optional kept_none hvalue hposition
  refine ⟨⟨by simp [Slot.fields], Json.regularFields_append.mpr ⟨hregularSlot, trivial, trivial,
    trivial, hvolume.regular, heffects.regular, hposition.regular, trivial⟩⟩, fun hfinite => ?_⟩
  obtain ⟨hfiniteSlot, hfinite⟩ := Json.fieldsHaveFiniteNumbers_append.mp hfinite
  simp only [Json.hasFiniteNumbers, Json.fieldsHaveFiniteNumbers, Bool.and_eq_true, and_true,
    true_and] at hfinite
  obtain ⟨hfiniteVolume, hfiniteEffects, hfinitePosition⟩ := hfinite
  obtain ⟨back, hslot, hsame⟩ := hslot hfiniteSlot
  refine ⟨⟨back, mediaId, muted, volume, effects, position⟩, ?_, hsame, rfl⟩
  change _ <$> checkSlot (slot.fields asReal ++ _) <*> _ <*> _ <*> _ <*> _ <*> _ <*> _ = _
  rw [hslot, checkTypeWord_eq_valid rfl rfl, required_eq_valid rfl (checkText_str mediaId),
    optional_eq_valid rfl (checkFlag_bool muted), optional_eq_valid rfl (hvolume.eq hfiniteVolume),
    optional_eq_valid rfl (heffects.eq hfiniteEffects),
    optional_eq_valid rfl (hposition.eq hfinitePosition)]
  rfl

theorem faithful_textElement (rule : ObjectRule) :
    Faithful (checkTextElement rule) (checkTextElement .byModel) (TextElement.toJson asReal)
      TextElement.Same := by
  intro value element hvalue h
  obtain ⟨fields, rfl, hfields⟩ := exists_of_checkObject h
  simp only [Checked.ap_eq_valid, Checked.fmap_eq_valid, ↓existsAndEq, and_true] at hfields
  obtain ⟨position, y, x, background, color, fontSize, content, -, slot,
    ⟨⟨⟨⟨⟨⟨⟨hslot, -⟩, hcontent⟩, hfontSize⟩, hcolor⟩, hbackground⟩, hx⟩, hy⟩, hposition, rfl⟩ :=
    hfields
  obtain ⟨hregularSlot, hslot⟩ := kept_slot hvalue hslot
  have hfontSize := faithful_positive.optional kept_fontSize hvalue hfontSize
  have hx := faithful_offset.optional kept_none hvalue hx
  have hy := faithful_offset.optional kept_none hvalue hy
  have hposition := faithful_name.optional kept_none hvalue hposition
  refine ⟨⟨by simp [Slot.fields], Json.regularFields_append.mpr ⟨hregularSlot, trivial, trivial,
    hfontSize.regular, trivial, trivial, hx.regular, hy.regular, hposition.regular, trivial⟩⟩,
    fun hfinite => ?_⟩
  obtain ⟨hfiniteSlot, hfinite⟩ := Json.fieldsHaveFiniteNumbers_append.mp hfinite
  simp only [Json.hasFiniteNumbers, Json.fieldsHaveFiniteNumbers, Bool.and_eq_true, and_true,
    true_and] at hfinite
  obtain ⟨hfiniteSize, hfiniteX, hfiniteY, hfinitePosition⟩ := hfinite
  obtain ⟨back, hslot, hsame⟩ := hslot hfiniteSlot
  refine ⟨⟨back, content, fontSize, color, background, x, y, position⟩, ?_, hsame, rfl⟩
  change _ <$> checkSlot (slot.fields asReal ++ _) <*> _ <*> _ <*> _ <*> _ <*> _ <*> _ <*> _ <*> _ = _
  rw [hslot, checkTypeWord_eq_valid rfl rfl, optional_eq_valid rfl (checkText_str content),
    optional_eq_valid rfl (hfontSize.eq hfiniteSize), optional_eq_valid rfl (checkText_str color),
    optional_eq_valid rfl (checkText_str background), optional_eq_valid rfl (hx.eq hfiniteX),
    optional_eq_valid rfl (hy.eq hfiniteY), optional_eq_valid rfl (hposition.eq hfinitePosition)]
  rfl

/-- What is kept as a model is kept as one of several models. -/
theorem kept_element {α : Type} {reread : Json → Checked α} {write : α → Json}
    {same : α → α → Prop} {a : α} {wrap : α → Element} {word : String} (h : Kept reread write same a)
    (hwrite : (wrap a).toJson asReal = write a)
    (hread : checkElement .byModel (write a) = ((reread (write a)).map wrap).under (.field word))
    (hsame : ∀ b, same a b → (wrap a).Same (wrap b)) :
    Kept (checkElement .byModel) (Element.toJson asReal) Element.Same (wrap a) := by
  refine ⟨hwrite ▸ h.regular, fun hfinite => ?_⟩
  rw [hwrite] at hfinite
  obtain ⟨b, hb, hab⟩ := h.again hfinite
  refine ⟨wrap b, ?_, hsame b hab⟩
  rw [hwrite, hread, hb]
  rfl

theorem faithful_element (rule : ObjectRule) :
    Faithful (checkElement rule) (checkElement .byModel) (Element.toJson asReal) Element.Same := by
  intro value element hvalue h
  unfold checkElement at h
  split at h
  · split at h
    · cases h
    · split at h
      · obtain ⟨media, hread, rfl⟩ := Checked.map_eq_valid.mp (Checked.under_eq_valid.mp h)
        have hkept := faithful_mediaElement rule _ media hvalue hread
        exact kept_element hkept rfl rfl fun _ hsame => hsame
      · obtain ⟨text, hread, rfl⟩ := Checked.map_eq_valid.mp (Checked.under_eq_valid.mp h)
        have hkept := faithful_textElement rule _ text hvalue hread
        exact kept_element hkept rfl rfl fun _ hsame => hsame
      · cases h
  · cases h

/-! ## Tracks, media and documents -/

theorem kept_elements :
    Kept (checkList (checkElement .byModel))
      (fun elements => .arr (elements.map (Element.toJson asReal))) (List.Forall₂ Element.Same) [] :=
  ⟨trivial, fun _ => ⟨[], rfl, .nil⟩⟩

theorem faithful_track (rule : ObjectRule) :
    Faithful (checkTrack rule) (checkTrack .byModel) (Track.toJson asReal) Track.Same := by
  intro value track hvalue h
  obtain ⟨fields, rfl, hfields⟩ := exists_of_checkObject h
  simp only [Checked.ap_eq_valid, Checked.fmap_eq_valid, ↓existsAndEq, and_true] at hfields
  obtain ⟨elements, kind, name, id, ⟨⟨hid, hname⟩, hkind⟩, helements, rfl⟩ := hfields
  have hname := faithful_name.optional kept_none hvalue hname
  have helements := (faithful_element rule).list.optional kept_elements hvalue helements
  refine ⟨⟨by simp, trivial, hname.regular, trivial, helements.regular, trivial⟩, fun hfinite => ?_⟩
  simp only [Track.toJson, Json.hasFiniteNumbers, Json.fieldsHaveFiniteNumbers, Bool.and_eq_true,
    and_true, true_and] at hfinite
  obtain ⟨hfiniteName, hfiniteElements⟩ := hfinite
  obtain ⟨back, helements, hsame⟩ := helements.again hfiniteElements
  refine ⟨⟨id, name, kind, back⟩, ?_, hsame, rfl⟩
  change Track.mk <$> _ <*> _ <*> _ <*> _ = _
  rw [required_eq_valid rfl (checkText_str id), optional_eq_valid rfl (hname.eq hfiniteName),
    optional_eq_valid rfl (checkWord_trackKind kind), optional_eq_valid rfl helements]
  rfl

theorem faithful_size :
    Faithful (checkOption checkPositive) (checkOption checkPositive) (Json.ofOption .int) Eq :=
  faithful_positive.option nofun

theorem faithful_asset (rule : ObjectRule) :
    Faithful (checkAsset rule) (checkAsset .byModel) MediaAsset.toJson Eq := by
  intro value asset hvalue h
  obtain ⟨fields, rfl, hfields⟩ := exists_of_checkObject h
  simp only [Checked.ap_eq_valid, Checked.fmap_eq_valid, ↓existsAndEq, and_true] at hfields
  obtain ⟨height, width, url, kind, name, id,
    ⟨⟨⟨⟨hid, hname⟩, hkind⟩, hurl⟩, hwidth⟩, hheight, rfl⟩ := hfields
  have hid := faithful_name.optional kept_none hvalue hid
  have hname := faithful_name.optional kept_none hvalue hname
  have hurl := faithful_name.optional kept_none hvalue hurl
  have hwidth := faithful_size.optional kept_none hvalue hwidth
  have hheight := faithful_size.optional kept_none hvalue hheight
  refine ⟨⟨by simp, hid.regular, hname.regular, trivial, hurl.regular, hwidth.regular,
    hheight.regular, trivial⟩, fun hfinite => ⟨_, ?_, rfl⟩⟩
  simp only [MediaAsset.toJson, Json.hasFiniteNumbers, Json.fieldsHaveFiniteNumbers,
    Bool.and_eq_true, and_true, true_and] at hfinite
  obtain ⟨hfiniteId, hfiniteName, hfiniteUrl, hfiniteWidth, hfiniteHeight⟩ := hfinite
  change MediaAsset.mk <$> _ <*> _ <*> _ <*> _ <*> _ <*> _ = _
  rw [optional_eq_valid rfl (hid.eq hfiniteId), optional_eq_valid rfl (hname.eq hfiniteName),
    required_eq_valid rfl (checkWord_mediaKind kind), optional_eq_valid rfl (hurl.eq hfiniteUrl),
    optional_eq_valid rfl (hwidth.eq hfiniteWidth), optional_eq_valid rfl (hheight.eq hfiniteHeight)]
  rfl

theorem kept_tracks :
    Kept (checkList (checkTrack .byModel))
      (fun tracks => .arr (tracks.map (Track.toJson asReal))) (List.Forall₂ Track.Same) [] :=
  ⟨trivial, fun _ => ⟨[], rfl, .nil⟩⟩

theorem kept_mediaItems :
    Kept (checkMap (checkAsset .byModel))
      (fun items => .obj (writeEntries MediaAsset.toJson items)) Eq [] :=
  .exact ⟨List.nodup_nil, trivial⟩ rfl

/-- A document that was read from a regular value is written as a regular value, and read
    back from there as an equal document if all of its numbers are finite. -/
theorem faithful_document (rule : ObjectRule) :
    Faithful (checkDocument rule) (checkDocument .byModel) (Document.toJson asReal)
      Document.Same := by
  intro value document hvalue h
  obtain ⟨fields, rfl, hfields⟩ := exists_of_checkObject h
  simp only [Checked.ap_eq_valid, Checked.fmap_eq_valid, ↓existsAndEq, and_true] at hfields
  obtain ⟨mediaItems, tracks, project, ⟨hproject, htracks⟩, hitems, rfl⟩ := hfields
  have hproject := (faithful_project rule).required hvalue hproject
  have htracks := (faithful_track rule).list.optional kept_tracks hvalue htracks
  have hitems := (faithful_asset rule).map.optional kept_mediaItems hvalue hitems
  refine ⟨⟨by simp, hproject.regular, htracks.regular, hitems.regular, trivial⟩,
    fun hfinite => ?_⟩
  simp only [Document.toJson, Json.hasFiniteNumbers, Json.fieldsHaveFiniteNumbers,
    Bool.and_eq_true, and_true] at hfinite
  obtain ⟨hfiniteProject, hfiniteTracks, hfiniteItems⟩ := hfinite
  obtain ⟨backProject, hproject, hsameProject⟩ := hproject.again hfiniteProject
  obtain ⟨backTracks, htracks, hsameTracks⟩ := htracks.again hfiniteTracks
  refine ⟨⟨backProject, backTracks, mediaItems⟩, ?_, hsameProject, hsameTracks, rfl⟩
  change Document.mk <$> _ <*> _ <*> _ = _
  rw [required_eq_valid rfl hproject, optional_eq_valid rfl htracks,
    optional_eq_valid rfl (hitems.eq hfiniteItems)]
  rfl

end Timeline

end Montage
