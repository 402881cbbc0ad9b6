/-
  Montage.Proofs.Timeline.Reloaded

  Documents whose stored texts are loaded.  A number that is not finite is stored as
  `null`: an offset is then missing and a parameter of an effect is null, but a time, a
  volume or a strength has to be a number.  So a stored document is loaded exactly if
  these are finite.
-/
import Montage.Proofs.Fault
import Montage.Proofs.Timeline.Stored
import Montage.Proofs.Validation.Yields

namespace Montage.Timeline

open Montage.Number Montage.Validation

/-! ## What comes back -/

/-- A number comes back as a double, also if it was an integer default. -/
def restoredAmount (amount : Scalar) : Scalar :=
  .real amount.toRealOrInfinite

def Project.reloaded (project : Project) : Project :=
  { project with blurIntensity := restoredAmount project.blurIntensity }

def Effect.reloaded : Effect → Effect
  | .named name => .named name
  | .custom fields => .custom (Json.fieldsAsWritten fields)

def Slot.reloaded (slot : Slot) : Slot :=
  { slot with trimStart := restoredAmount slot.trimStart }

def MediaElement.reloaded (element : MediaElement) : MediaElement :=
  { element with
    toSlot := element.toSlot.reloaded
    effects := element.effects.map Effect.reloaded }

/-- An offset that is not finite is missing. -/
def TextElement.reloaded (element : TextElement) : TextElement :=
  { element with
    toSlot := element.toSlot.reloaded
    x := element.x.filter Binary64.isFinite
    y := element.y.filter Binary64.isFinite }

def Element.reloaded : Element → Element
  | .media element => .media element.reloaded
  | .text element => .text element.reloaded

def Track.reloaded (track : Track) : Track :=
  { track with elements := track.elements.map Element.reloaded }

/-- The document in the stored text of a document. -/
def Document.reloaded (document : Document) : Document :=
  { project := document.project.reloaded
    tracks := document.tracks.map Track.reloaded
    mediaItems := document.mediaItems }

/-! ## Media -/

theorem mediaId?_reloaded (element : Element) : element.reloaded.mediaId? = element.mediaId? := by
  cases element <;> rfl

theorem startTime_reloaded (element : Element) :
    element.reloaded.slot.startTime = element.slot.startTime := by
  cases element <;> rfl

/-- Elements come back in the same order. -/
theorem sortedElements_reloaded (track : Track) :
    track.reloaded.sortedElements = track.sortedElements.map Element.reloaded := by
  refine (List.map_mergeSort fun first _ second _ => ?_).symm
  simp only [startsNoLater, startTime_reloaded]

theorem referencedMediaIds_reloaded (document : Document) :
    document.reloaded.referencedMediaIds = document.referencedMediaIds := by
  simp only [Document.referencedMediaIds, Document.reloaded, List.flatMap_map,
    sortedElements_reloaded, List.filterMap_map, Function.comp_def, mediaId?_reloaded]

/-! ## What has to be finite -/

def isFiniteAmount (amount : Scalar) : Bool :=
  amount.toRealOrInfinite.isFinite

def Slot.hasFiniteAmounts (slot : Slot) : Bool :=
  slot.startTime.isFinite && slot.duration.isFinite && isFiniteAmount slot.trimStart

def Element.hasFiniteAmounts : Element → Bool
  | .media element => element.toSlot.hasFiniteAmounts && element.volume.isFinite
  | .text element => element.toSlot.hasFiniteAmounts

def Track.hasFiniteAmounts (track : Track) : Bool :=
  track.elements.all Element.hasFiniteAmounts

/-- Whether the strength of the backdrop, and the times and volumes of all elements, are
    finite. -/
def Document.hasFiniteAmounts (document : Document) : Bool :=
  isFiniteAmount document.project.blurIntensity && document.tracks.all Track.hasFiniteAmounts

/-! ## Numbers -/

theorem yields_real (x : Binary64) :
    (checkReal (real x).asWritten).Yields (x.isFinite = true) x := by
  intro y
  cases x with
  | finite negative units =>
      exact (Checked.Yields.of_valid rfl y).trans (by simp [Binary64.isFinite])
  | infinite negative =>
      refine iff_of_false (fun h => ?_) (fun h => ?_)
      · cases h
      · cases h.1
  | nan =>
      refine iff_of_false (fun h => ?_) (fun h => ?_)
      · cases h
      · cases h.1

/-- What is read of a number that passes a further test. -/
theorem yields_tested {x : Binary64} {test : Binary64 → Checked Binary64}
    (h : test x = .valid x) :
    ((checkReal (real x).asWritten).andThen test).Yields (x.isFinite = true) x :=
  (yields_real x).andThen h

theorem restores_nonnegativeReal :
    Restores checkNonnegativeReal checkNonnegativeReal real (fun x => x.isFinite = true) id := by
  intro value x _ h
  obtain ⟨y, -, htest⟩ := Checked.andThen_eq_valid.mp h
  split at htest
  next hle =>
    cases htest
    exact yields_tested (if_pos hle)
  next => cases htest

theorem restores_positiveReal :
    Restores checkPositiveReal checkPositiveReal real (fun x => x.isFinite = true) id := by
  intro value x _ h
  obtain ⟨y, -, htest⟩ := Checked.andThen_eq_valid.mp h
  split at htest
  next hlt =>
    cases htest
    exact yields_tested (if_pos hlt)
  next => cases htest

theorem restores_amount :
    Restores checkAmount checkAmount asReal (fun amount => isFiniteAmount amount = true)
      restoredAmount := by
  intro value amount hvalue h
  obtain ⟨x, hread, rfl⟩ := Checked.map_eq_valid.mp h
  exact (restores_nonnegativeReal value x hvalue hread).map Scalar.real

theorem yields_amount_int {i : Int} (h : Binary64.le .zero (.ofInt i) = true) :
    (checkAmount (asReal (.int i)).asWritten).Yields (isFiniteAmount (.int i) = true)
      (restoredAmount (.int i)) :=
  (yields_tested (if_pos h)).map Scalar.real

theorem restores_offset :
    Restores (checkOption checkReal) (checkOption checkReal) (Json.ofOption real) (fun _ => True)
      (Option.filter Binary64.isFinite) := by
  intro value offset _ _
  cases offset with
  | none => exact .of_valid rfl
  | some x => cases x <;> exact .of_valid rfl

theorem restores_name :
    Restores (checkOption checkText) (checkOption checkText) optionalText (fun _ => True) id :=
  faithful_name.restores fun name => by cases name <;> rfl

theorem restores_effect :
    Restores checkEffect checkEffect Effect.toJson (fun _ => True) Effect.reloaded := by
  intro value effect _ _
  cases effect <;> exact .of_valid rfl

/-! ## Projects and elements -/

theorem restores_canvas (rule : ObjectRule) :
    Restores (checkCanvas rule) (checkCanvas .byModel) Canvas.toJson (fun _ => True) id :=
  (faithful_canvas rule).restores fun _ => rfl

theorem restores_positive : Restores checkPositive checkPositive .int (fun _ => True) id :=
  faithful_positive.restores fun _ => rfl

theorem restores_project (rule : ObjectRule) :
    Restores (checkProject rule) (checkProject .byModel) (Project.toJson asReal)
      (fun project => isFiniteAmount project.blurIntensity = true) Project.reloaded := by
  intro value project hvalue h
  obtain ⟨fields, rfl, hfields⟩ := exists_of_checkObject h
  simp only [Checked.ap_eq_valid, Checked.fmap_eq_valid, ↓existsAndEq, and_true] at hfields
  obtain ⟨blur, backdrop, color, fps, canvas, name, id,
    ⟨⟨⟨⟨⟨hid, hname⟩, hcanvas⟩, hfps⟩, -⟩, -⟩, hblur, rfl⟩ := hfields
  have hid := restores_name.optional (.of_valid rfl) hvalue hid
  have hname := restores_name.optional (.of_valid rfl) hvalue hname
  have hcanvas := (restores_canvas rule).required hvalue hcanvas
  have hfps := restores_positive.optional (.of_valid rfl) hvalue hfps
  have hcolor := Checked.Yields.of_valid (checkText_str color)
  have hbackdrop := Checked.Yields.of_valid (checkWord_backdrop backdrop)
  have hblur := restores_amount.optional (yields_amount_int (by decide +kernel)) hvalue hblur
  exact (((((((yields_optional hid rfl).map Project.mk).seq (yields_optional hname rfl)).seq
    (yields_required hcanvas rfl)).seq (yields_optional hfps rfl)).seq
    (yields_optional hcolor rfl)).seq (yields_optional hbackdrop rfl)).seq
    (yields_optional hblur rfl) |>.congr (by simp)

/-- A slot comes back among the other fields of its element. -/
theorem yields_slot {fields : List (String × Json)} {slot : Slot}
    (hregular : (Json.obj fields).Regular) (h : checkSlot fields = .valid slot)
    (others : List (String × Json)) :
    (checkSlot (Json.fieldsAsWritten (slot.fields asReal ++ others))).Yields
      (slot.hasFiniteAmounts = true) slot.reloaded := by
  simp only [checkSlot, Checked.ap_eq_valid, Checked.fmap_eq_valid, ↓existsAndEq, and_true] at h
  obtain ⟨trimStart, duration, startTime, name, id,
    ⟨⟨⟨-, hname⟩, hstart⟩, hduration⟩, htrim, rfl⟩ := h
  have hid := Checked.Yields.of_valid (checkText_str id)
  have hname := restores_name.optional (.of_valid rfl) hregular hname
  have hstart := restores_nonnegativeReal.required hregular hstart
  have hduration := restores_positiveReal.required hregular hduration
  have htrim := restores_amount.optional (yields_amount_int (by decide +kernel)) hregular htrim
  exact (((((yields_required hid rfl).map Slot.mk).seq (yields_optional hname rfl)).seq
    (yields_required hstart rfl)).seq (yields_required hduration rfl)).seq
    (yields_optional htrim rfl) |>.congr (by simp [Slot.hasFiniteAmounts])

theorem restores_mediaElement (rule : ObjectRule) :
    Restores (checkMediaElement rule) (checkMediaElement .byModel) (MediaElement.toJson asReal)
      (fun element => (Element.media element).hasFiniteAmounts = true) MediaElement.reloaded := by
  intro value element hvalue h
  obtain ⟨fields, rfl, hfields⟩ := exists_of_checkObject h
  simp only [Checked.ap_eq_valid, Checked.fmap_eq_valid, ↓existsAndEq, and_true] at hfields
  obtain ⟨position, effects, volume, muted, mediaId, -, slot,
    ⟨⟨⟨⟨⟨hslot, -⟩, -⟩, -⟩, hvolume⟩, heffects⟩, hposition, rfl⟩ := hfields
  have hslot := yields_slot hvalue hslot
  have hmediaId := Checked.Yields.of_valid (checkText_str mediaId)
  have hmuted := Checked.Yields.of_valid (checkFlag_bool muted)
  have hvolume := restores_nonnegativeReal.optional (yields_tested (if_pos (by decide +kernel)))
    hvalue hvolume
  have heffects := restores_effect.list.optional yields_nil hvalue heffects
  have hposition := restores_name.optional (.of_valid rfl) hvalue hposition
  exact (((((((hslot _).map fun slot (_ : Unit) => MediaElement.mk slot).seq
    (.of_valid (checkTypeWord_eq_valid rfl rfl))).seq (yields_required hmediaId rfl)).seq
    (yields_optional hmuted rfl)).seq (yields_optional hvolume rfl)).seq
    (yields_optional heffects rfl)).seq (yields_optional hposition rfl)
    |>.congr (by simp [Element.hasFiniteAmounts])

theorem restores_textElement (rule : ObjectRule) :
    Restores (checkTextElement rule) (checkTextElement .byModel) (TextElement.toJson asReal)
      (fun element => (Element.text element).hasFiniteAmounts = true) TextElement.reloaded := by
  intro value element hvalue h
  obtain ⟨fields, rfl, hfields⟩ := exists_of_checkObject h
  simp only [Checked.ap_eq_valid, Checked.fmap_eq_valid, ↓existsAndEq, and_true] at hfields
  obtain ⟨position, y, x, background, color, fontSize, content, -, slot,
    ⟨⟨⟨⟨⟨⟨⟨hslot, -⟩, -⟩, hfontSize⟩, -⟩, -⟩, hx⟩, hy⟩, hposition, rfl⟩ := hfields
  have hslot := yields_slot hvalue hslot
  have hcontent := Checked.Yields.of_valid (checkText_str content)
  have hfontSize := restores_positive.optional (.of_valid rfl) hvalue hfontSize
  have hcolor := Checked.Yields.of_valid (checkText_str color)
  have hbackground := Checked.Yields.of_valid (checkText_str background)
  have hx := restores_offset.optional (.of_valid rfl) hvalue hx
  have hy := restores_offset.optional (.of_valid rfl) hvalue hy
  have hposition := restores_name.optional (.of_valid rfl) hvalue hposition
  exact (((((((((hslot _).map fun slot (_ : Unit) => TextElement.mk slot).seq
    (.of_valid (checkTypeWord_eq_valid rfl rfl))).seq (yields_optional hcontent rfl)).seq
    (yields_optional hfontSize rfl)).seq (yields_optional hcolor rfl)).seq
    (yields_optional hbackground rfl)).seq (yields_optional hx rfl)).seq
    (yields_optional hy rfl)).seq (yields_optional hposition rfl)
    |>.congr (by simp [Element.hasFiniteAmounts])

theorem restores_element (rule : ObjectRule) :
    Restores (checkElement rule) (checkElement .byModel) (Element.toJson asReal)
      (fun element => element.hasFiniteAmounts = true) Element.reloaded := by
  intro value element hvalue h
  unfold checkElement at h
  split at h
  · split at h
    · cases h
    · split at h
      · obtain ⟨media, hread, rfl⟩ := Checked.map_eq_valid.mp (Checked.under_eq_valid.mp h)
        have hmedia := restores_mediaElement rule _ media hvalue hread
        exact (hmedia.map Element.media).under (.field "media")
      · obtain ⟨text, hread, rfl⟩ := Checked.map_eq_valid.mp (Checked.under_eq_valid.mp h)
        have htext := restores_textElement rule _ text hvalue hread
        exact (htext.map Element.text).under (.field "text")
      · cases h
  · cases h

/-! ## Tracks, media and documents -/

theorem restores_track (rule : ObjectRule) :
    Restores (checkTrack rule) (checkTrack .byModel) (Track.toJson asReal)
      (fun track => track.hasFiniteAmounts = true) Track.reloaded := by
  intro value track hvalue h
  obtain ⟨fields, rfl, hfields⟩ := exists_of_checkObject h
  simp only [Checked.ap_eq_valid, Checked.fmap_eq_valid, ↓existsAndEq, and_true] at hfields
  obtain ⟨elements, kind, name, id, ⟨⟨-, hname⟩, -⟩, helements, rfl⟩ := hfields
  have hid := Checked.Yields.of_valid (checkText_str id)
  have hname := restores_name.optional (.of_valid rfl) hvalue hname
  have hkind := Checked.Yields.of_valid (checkWord_trackKind kind)
  have helements := (restores_element rule).list.optional yields_nil hvalue helements
  exact ((((yields_required hid rfl).map Track.mk).seq (yields_optional hname rfl)).seq
    (yields_optional hkind rfl)).seq (yields_optional helements rfl)
    |>.congr (by simp [Track.hasFiniteAmounts])

theorem hasFiniteNumbers_asset (asset : MediaAsset) : asset.toJson.hasFiniteNumbers = true := by
  obtain ⟨id, name, kind, url, width, height⟩ := asset
  cases id <;> cases name <;> cases url <;> cases width <;> cases height <;> rfl

theorem hasFiniteNumbers_mediaItems (items : MediaItems) :
    (Json.obj (writeEntries MediaAsset.toJson items)).hasFiniteNumbers = true := by
  rw [Json.hasFiniteNumbers, Json.fieldsHaveFiniteNumbers_iff, writeEntries, List.forall_mem_map]
  exact fun item _ => hasFiniteNumbers_asset item.2

/-- A document that was read from a regular value is read again from its text exactly if its
    amounts are finite. -/
theorem restores_document (rule : ObjectRule) :
    Restores (checkDocument rule) (checkDocument .byModel) (Document.toJson asReal)
      (fun document => document.hasFiniteAmounts = true) Document.reloaded := by
  intro value document hvalue h
  obtain ⟨fields, rfl, hfields⟩ := exists_of_checkObject h
  simp only [Checked.ap_eq_valid, Checked.fmap_eq_valid, ↓existsAndEq, and_true] at hfields
  obtain ⟨mediaItems, tracks, project, ⟨hproject, htracks⟩, hitems, rfl⟩ := hfields
  have hproject := (restores_project rule).required hvalue hproject
  have htracks := (restores_track rule).list.optional yields_nil hvalue htracks
  have hitems := ((faithful_asset rule).map.restores hasFiniteNumbers_mediaItems).optional
    (.of_valid rfl) hvalue hitems
  exact (((yields_required hproject rfl).map Document.mk).seq (yields_optional htracks rfl)).seq
    (yields_optional hitems rfl) |>.congr (by simp [Document.hasFiniteAmounts])

/-! ## Loading -/

/-- The failure of a stored text that is no timeline. -/
def unfitTimeline (key : String) (problems : List Problem) : Fault :=
  .failed (.of .timelineParse (some (key ++ " is not a timeline document: " ++
    headline "TimelineDocument" problems)))

/-- A stored text is always read as JSON, and what is loaded is what a check makes of it. -/
theorem loadDocument_stored {rule : ObjectRule} {value : Json} {document : Document}
    {text : String} (hvalue : value.Regular) (hvalid : checkDocument rule value = .valid document)
    (hstored : document.stored = .ok text) (key : String) :
    Worker.loadDocument key text =
      match checkDocument .byModel (document.toJson asReal).asWritten with
      | .valid back => .ok back
      | .invalid problems => .error (unfitTimeline key problems) := by
  have hregular := (faithful_document rule value document hvalue hvalid).regular
  obtain ⟨⟨-, hshallow⟩, rfl⟩ := stored_eq_ok_iff.mp hstored
  -- fewer values lie inside each other than the reader goes down
  have hlevels : (document.toJson asReal).levels ≤ Json.nestingLimit :=
    (levels_le_iff.mpr hshallow).trans (by decide)
  unfold Worker.loadDocument
  rw [Json.read_write_asWritten hregular hlevels]
  rfl

/-- What is loaded is the document that is in the stored text. -/
theorem eq_reloaded_of_loadDocument {rule : ObjectRule} {value : Json} {document back : Document}
    {text key : String} (hvalue : value.Regular)
    (hvalid : checkDocument rule value = .valid document) (hstored : document.stored = .ok text)
    (h : Worker.loadDocument key text = .ok back) : back = document.reloaded := by
  rw [loadDocument_stored hvalue hvalid hstored] at h
  split at h
  next hagain =>
    cases h
    exact ((restores_document rule value document hvalue hvalid _).mp hagain).2
  next => cases h

/-- A document that was checked and stored is loaded if its amounts are finite; if one is
    not, the stored text is none of a timeline. -/
theorem stored_loads {rule : ObjectRule} {value : Json} {document : Document} {text : String}
    (hvalue : value.Regular) (hvalid : checkDocument rule value = .valid document)
    (hstored : document.stored = .ok text) (key : String) :
    (document.hasFiniteAmounts = true → Worker.loadDocument key text = .ok document.reloaded) ∧
    (document.hasFiniteAmounts = false → ∃ problems,
      Worker.loadDocument key text = .error (unfitTimeline key problems)) := by
  have hyields := restores_document rule value document hvalue hvalid
  rw [loadDocument_stored hvalue hvalid hstored key]
  constructor
  · intro hfinite
    rw [(hyields _).mpr ⟨hfinite, rfl⟩]
  · intro hinfinite
    cases hagain : checkDocument .byModel (document.toJson asReal).asWritten with
    | valid back =>
        obtain ⟨hfinite, -⟩ := (hyields back).mp hagain
        exact absurd hfinite (Bool.eq_false_iff.mp hinfinite)
    | invalid problems => exact ⟨problems, rfl⟩

/-! ## A caption -/

/-- A timeline with one caption, which starts at a time and stands at an offset. -/
def sampleCaption (start offset : Scalar) : Json :=
  .obj
    [("project", .obj [("canvasSize", .obj [("width", .int 640), ("height", .int 360)])]),
     ("tracks", .arr [.obj
      [("id", .str "t1"),
       ("type", .str "text"),
       ("elements", .arr [.obj
        [("type", .str "text"),
         ("id", .str "e1"),
         ("startTime", .num start),
         ("duration", .num (.int 2)),
         ("x", .num offset)]])]])]

theorem regular_sampleCaption {start offset : Scalar} (hstart : Json.RegularNumber start)
    (hoffset : Json.RegularNumber offset) : (sampleCaption start offset).Regular := by
  simp [sampleCaption, Json.int, Json.Regular, Json.RegularItems, Json.RegularFields, hstart,
    hoffset, regular_of_natAbs_lt]

/-- The number that is read of `1e400`. -/
theorem regular_infinite : Json.RegularNumber (.real (.infinite false)) :=
  Binary64.isDouble_infinite false

/-- An offset that is too large for a double is missing in the document that is loaded. -/
theorem stored_loads_sampleCaption :
    ∃ document text,
      checkDocument .byModel (sampleCaption (.int 1) (.real (.infinite false))) =
        .valid document ∧
      document.stored = .ok text ∧
      Worker.loadDocument "u/1/timeline.json" text = .ok document.reloaded := by
  have hregular : (sampleCaption (.int 1) (.real (.infinite false))).Regular :=
    regular_sampleCaption (regular_of_natAbs_lt (by decide)) regular_infinite
  have hchecked : (checkDocument .byModel
      (sampleCaption (.int 1) (.real (.infinite false)))).all
        (fun document => document.stored.isOk && document.hasFiniteAmounts) = true := by
    decide +kernel
  obtain ⟨document, hvalid, htest⟩ := Checked.all_eq_true.mp hchecked
  obtain ⟨hsome, hfinite⟩ := Bool.and_eq_true_iff.mp htest
  obtain ⟨text, hstored⟩ := exists_of_isOk hsome
  exact ⟨document, text, hvalid, hstored,
    (stored_loads hregular hvalid hstored "u/1/timeline.json").1 hfinite⟩

/-- A caption that starts after `1e400` seconds is accepted and stored, and what is stored is
    not loaded. -/
theorem not_loads_sampleCaption :
    (sampleCaption (.real (.infinite false)) (.int 0)).Regular ∧ ∃ document text problems,
      checkDocument .byModel (sampleCaption (.real (.infinite false)) (.int 0)) =
        .valid document ∧
      document.stored = .ok text ∧
      Worker.loadDocument "u/1/timeline.json" text =
        .error (unfitTimeline "u/1/timeline.json" problems) := by
  have hregular : (sampleCaption (.real (.infinite false)) (.int 0)).Regular :=
    regular_sampleCaption regular_infinite (regular_of_natAbs_lt (by decide))
  have hchecked : (checkDocument .byModel
      (sampleCaption (.real (.infinite false)) (.int 0))).all (fun document =>
        document.stored.isOk &&
          !(checkDocument .byModel (document.toJson asReal).asWritten).all fun _ => true) =
      true := by
    decide +kernel
  obtain ⟨document, hvalid, htest⟩ := Checked.all_eq_true.mp hchecked
  obtain ⟨hsome, hrefused⟩ := Bool.and_eq_true_iff.mp htest
  obtain ⟨text, hstored⟩ := exists_of_isOk hsome
  have hload := loadDocument_stored hregular hvalid hstored "u/1/timeline.json"
  cases hagain : checkDocument .byModel (document.toJson asReal).asWritten with
  | valid back =>
      rw [hagain] at hrefused
      cases hrefused
  | invalid problems =>
      rw [hagain] at hload
      exact ⟨hregular, document, text, problems, hvalid, hstored, hload⟩

end Montage.Timeline
