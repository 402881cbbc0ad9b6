/-
  Montage.Proofs.Timeline.Stored

  Documents that are stored and loaded again.  A document that was checked and has only
  finite numbers comes back from its stored text as an equal document.  It can be stored
  exactly if its texts have no halves of surrogate pairs and its effects are not nested too
  deep.
-/
import Montage.Proofs.Json.RoundTrip
import Montage.Proofs.Json.Whole
import Montage.Proofs.Timeline.Faithful
import Montage.Worker.Task

namespace Montage.Timeline

open Montage.Number Montage.Validation

/-! ## Levels of documents -/

theorem levels_optionalText (text : Option String) : (optionalText text).levels = 1 := by
  cases text <;> rfl

theorem levels_optionalInt (i : Option Int) : (Json.ofOption .int i).levels = 1 := by
  cases i <;> rfl

theorem levels_optionalReal (x : Option Binary64) : (Json.ofOption real x).levels = 1 := by
  cases x <;> rfl

/-- The effects of an element. -/
def Element.effects : Element → List Effect
  | .media element => element.effects
  | .text _ => []

/-- Whether no effect of a document has more levels than can be stored. -/
def Document.HasShallowEffects (document : Document) : Prop :=
  ∀ track ∈ document.tracks, ∀ element ∈ track.elements, ∀ effect ∈ element.effects,
    effect.toJson.levels ≤ effectLevels

theorem levels_mediaElement (element : MediaElement) :
    (element.toJson asReal).levels =
      2 + Json.levelsOfItems (element.effects.map Effect.toJson) := by
  simp only [MediaElement.toJson, Slot.fields, asReal, real, List.cons_append, List.nil_append,
    Json.levels, Json.levelsOfFields, levels_optionalText]
  omega

theorem levels_textElement (element : TextElement) : (element.toJson asReal).levels = 2 := by
  simp only [TextElement.toJson, Slot.fields, asReal, List.cons_append, List.nil_append,
    Json.levels, Json.levelsOfFields, levels_optionalText, levels_optionalReal]
  rfl

theorem levels_track (track : Track) :
    (track.toJson asReal).levels =
      2 + Json.levelsOfItems (track.elements.map (Element.toJson asReal)) := by
  simp only [Track.toJson, Json.levels, Json.levelsOfFields, levels_optionalText]
  omega

theorem levels_project (project : Project) : (project.toJson asReal).levels = 3 := by
  simp only [Project.toJson, Canvas.toJson, asReal, Json.int, Json.levels, Json.levelsOfFields,
    levels_optionalText]
  rfl

theorem levels_asset (asset : MediaAsset) : asset.toJson.levels = 2 := by
  simp only [MediaAsset.toJson, Json.levels, Json.levelsOfFields, levels_optionalText,
    levels_optionalInt]
  rfl

theorem levels_document (document : Document) :
    (document.toJson asReal).levels =
      max 4 (2 + Json.levelsOfItems (document.tracks.map (Track.toJson asReal))) := by
  have hitems : Json.levelsOfFields (document.mediaItems.map fun item =>
      (item.1, item.2.toJson)) ≤ 2 := by
    rw [Json.levelsOfFields_le_iff, List.forall_mem_map]
    exact fun item _ => (levels_asset item.2).le
  simp only [Document.toJson, Json.levels, Json.levelsOfFields, levels_project]
  omega

/-- A document has as many levels as can be stored exactly if its effects have. -/
theorem levels_le_iff {document : Document} :
    (document.toJson asReal).levels ≤ levelsInDocument + effectLevels ↔
      document.HasShallowEffects := by
  have helement : ∀ element : Element,
      (element.toJson asReal).levels ≤ levelsInElement + effectLevels ↔
        ∀ effect ∈ element.effects, effect.toJson.levels ≤ effectLevels := by
    intro element
    cases element with
    | media element =>
        rw [Element.toJson, levels_mediaElement, levelsInElement, Nat.add_le_add_iff_left,
          Json.levelsOfItems_le_iff, List.forall_mem_map]
        rfl
    | text element =>
        rw [Element.toJson, levels_textElement]
        exact iff_of_true (by decide) fun _ heffect => nomatch (heffect : _ ∈ [])
  have htrack : ∀ track : Track, (track.toJson asReal).levels ≤ levelsInTrack + effectLevels ↔
      ∀ element ∈ track.elements, ∀ effect ∈ element.effects,
        effect.toJson.levels ≤ effectLevels := by
    intro track
    rw [levels_track, levelsInTrack, Nat.add_comm levelsInElement, Nat.add_assoc,
      Nat.add_le_add_iff_left, Json.levelsOfItems_le_iff, List.forall_mem_map]
    exact forall₂_congr fun element _ => helement element
  have hdeep : levelsInDocument + effectLevels = 2 + (levelsInTrack + effectLevels) := rfl
  rw [levels_document, hdeep, max_le_iff, Nat.add_le_add_iff_left, Json.levelsOfItems_le_iff,
    List.forall_mem_map]
  exact (and_iff_right (by decide)).trans (forall₂_congr fun track _ => htrack track)

/-! ## Stored documents -/

/-- What can be stored, and as which text. -/
theorem stored_eq_ok_iff {document : Document} {text : String} :
    document.stored = .ok text ↔
      ((document.toJson asReal).hasWholeTexts = true ∧ document.HasShallowEffects) ∧
        (document.toJson asReal).write = text := by
  rw [← levels_le_iff, ← Json.storeFault?_eq_none_iff, Document.stored, storedText]
  split
  next fault hfault => simp [hfault]
  next hnone => simp [hnone]

/-- The text that a document is stored as has a form in bytes. -/
theorem utf8Refusal?_stored {document : Document} {text : String}
    (h : document.stored = .ok text) : Text.utf8Refusal? text.toList = none := by
  obtain ⟨⟨hwhole, -⟩, rfl⟩ := stored_eq_ok_iff.mp h
  exact Json.utf8Refusal?_eq_none_iff.mpr (Json.isWholeText_write hwhole)

/-- A document that was checked and has only finite numbers is loaded from its stored text
    as an equal document, and it can be stored exactly if its texts have no halves of
    surrogate pairs and its effects are not nested too deep. -/
theorem stored_reloads {rule : ObjectRule} {value : Json} {document : Document}
    (hvalue : value.Regular) (hvalid : checkDocument rule value = .valid document)
    (hfinite : (document.toJson asReal).hasFiniteNumbers = true) :
    ((∃ text, document.stored = .ok text) ↔
      (document.toJson asReal).hasWholeTexts = true ∧ document.HasShallowEffects) ∧
    ∀ text, document.stored = .ok text →
      ∀ key, ∃ back, Worker.loadDocument key text = .ok back ∧ document.Same back := by
  have hkept := faithful_document rule value document hvalue hvalid
  obtain ⟨back, hback, hsame⟩ := hkept.again hfinite
  constructor
  · simp only [stored_eq_ok_iff, exists_and_left, exists_eq', and_true]
  · intro text hstored key
    obtain ⟨⟨-, hshallow⟩, rfl⟩ := stored_eq_ok_iff.mp hstored
    -- fewer values lie inside each other than the reader goes down
    have hlevels : (document.toJson asReal).levels ≤ Json.nestingLimit :=
      (levels_le_iff.mpr hshallow).trans (by decide)
    have hread := Json.read_write hkept.regular hfinite hlevels
    refine ⟨back, ?_, hsame⟩
    unfold Worker.loadDocument
    rw [hread]
    dsimp only
    rw [hback]

/-! ## A clip with an effect -/

/-- A timeline of that name with one clip, which has an effect with this parameter. -/
def sampleTimeline (name : String) (parameter : Json) : Json :=
  .obj
    [("project", .obj
      [("name", .str name),
       ("canvasSize", .obj [("width", .int 640), ("height", .int 360)])]),
     ("tracks", .arr [.obj
      [("id", .str "t1"),
       ("type", .str "media"),
       ("elements", .arr [.obj
        [("type", .str "media"),
         ("id", .str "e1"),
         ("startTime", .num (.int 1)),
         ("duration", .num (.real (.ofQuotient false 5 2))),
         ("mediaId", .str "film"),
         ("effects", .arr [.obj [("type", .str "blur"), ("amount", parameter)]])]])]])]

/-- A parameter with a number of each kind. -/
def sampleParameter : Json :=
  .obj [("z", .num (.real (.ofQuotient false 1 10))), ("a", .int 3)]

/-- A list in a list, so many times. -/
def nestedLists : Nat → Json
  | 0 => .arr []
  | depth + 1 => .arr [nestedLists depth]

theorem regular_nestedLists (depth : Nat) : (nestedLists depth).Regular := by
  induction depth with
  | zero => exact trivial
  | succ depth ih => exact ⟨ih, trivial⟩

theorem regular_of_natAbs_lt {i : Int} (h : i.natAbs < 1000) : Json.RegularNumber (.int i) :=
  readableInt_of_lt (h.trans (by decide))

theorem regular_sampleTimeline (name : String) {parameter : Json} (h : parameter.Regular) :
    (sampleTimeline name parameter).Regular := by
  have hduration : Json.RegularNumber (.real (.ofQuotient false 5 2)) :=
    Binary64.isDouble_ofQuotient false 5 (by decide)
  simp [sampleTimeline, Json.int, Json.Regular, Json.RegularItems, Json.RegularFields, h,
    hduration, regular_of_natAbs_lt]

/-- Whether a value is a timeline with finite numbers whose stored form passes a test. -/
def passesStored (test : Option String → Bool) (value : Json) : Bool :=
  match checkDocument .byModel value with
  | .valid document => (document.toJson asReal).hasFiniteNumbers && test document.stored.toOption
  | .invalid _ => false

theorem exists_of_passesStored {test : Option String → Bool} {value : Json}
    (h : passesStored test value = true) :
    ∃ document, checkDocument .byModel value = .valid document ∧
      (document.toJson asReal).hasFiniteNumbers = true ∧
        test document.stored.toOption = true := by
  unfold passesStored at h
  split at h
  next document hvalid =>
    obtain ⟨hfinite, htest⟩ := Bool.and_eq_true_iff.mp h
    exact ⟨document, hvalid, hfinite, htest⟩
  next => cases h

theorem stored_reloads_sampleTimeline :
    ∃ document text back, checkDocument .byModel (sampleTimeline "it's" sampleParameter) =
        .valid document ∧
      (document.toJson asReal).hasFiniteNumbers = true ∧ document.stored = .ok text ∧
      Worker.loadDocument "u/1/timeline.json" text = .ok back ∧ document.Same back := by
  have hregular : (sampleTimeline "it's" sampleParameter).Regular := by
    apply regular_sampleTimeline
    have hreadable : Json.ReadableInt 3 := readableInt_of_lt (by decide)
    simp [sampleParameter, Json.int, Json.Regular, Json.RegularFields, Json.RegularNumber,
      hreadable, Binary64.isDouble_ofQuotient]
  have hchecked : passesStored Option.isSome (sampleTimeline "it's" sampleParameter) = true := by
    decide +kernel
  obtain ⟨document, hvalid, hfinite, hsome⟩ := exists_of_passesStored hchecked
  obtain ⟨text, htext⟩ := Option.isSome_iff_exists.mp hsome
  have hstored : document.stored = .ok text := by
    cases hcase : document.stored with
    | ok other => simpa [hcase, Except.toOption] using htext
    | error fault => simp [hcase, Except.toOption] at htext
  obtain ⟨back, hback, hsame⟩ :=
    (stored_reloads hregular hvalid hfinite).2 text hstored "u/1/timeline.json"
  exact ⟨document, text, back, hvalid, hfinite, hstored, hback, hsame⟩

/-- Whether a value is a timeline with finite numbers that cannot be stored. -/
def IsUnstorable (value : Json) : Prop :=
  value.Regular ∧ ∃ document, checkDocument .byModel value = .valid document ∧
    (document.toJson asReal).hasFiniteNumbers = true ∧ ∀ text, document.stored ≠ .ok text

theorem isUnstorable_of_refused {value : Json} (hregular : value.Regular)
    (h : passesStored Option.isNone value = true) : IsUnstorable value := by
  obtain ⟨document, hvalid, hfinite, hnone⟩ := exists_of_passesStored h
  refine ⟨hregular, document, hvalid, hfinite, fun text htext => ?_⟩
  rw [htext] at hnone
  cases hnone

/-- An effect with a level too many, and a name with half a surrogate pair. -/
theorem isUnstorable_sampleTimelines :
    IsUnstorable (sampleTimeline "it's" (nestedLists 253)) ∧
      IsUnstorable (sampleTimeline (String.singleton (Text.Surrogate.keep 0xd800)) .null) := by
  constructor
  · exact isUnstorable_of_refused (regular_sampleTimeline _ (regular_nestedLists 253))
      (by decide +kernel)
  · exact isUnstorable_of_refused (regular_sampleTimeline _ trivial) (by decide +kernel)

end Montage.Timeline
