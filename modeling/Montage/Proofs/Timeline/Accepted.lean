/-
  Montage.Proofs.Timeline.Accepted

  What a timeline document guarantees once it is accepted, whatever value it was read from.
  Sizes, rates and font sizes are at least one, times and amounts are not below zero and
  lengths are above zero, so none of them is a NaN; words are among those that are declared,
  an element is what its type says, and an effect is a text or an object.  So every track is
  sorted by a total order, and a timeline with an element has a positive length.
-/
import Montage.Proofs.Timeline.Faithful
import Montage.Proofs.Timeline.Spans

namespace Montage

open Montage.Number Montage.Validation

variable {α : Type}

/-! ## Values and what is read from them -/

namespace Json

/-- Whether a value is a word that stands for `a` in a list of words. -/
def Names (words : List (String × α)) (value : Json) (a : α) : Prop :=
  ∃ word, value = .str word ∧ words.lookup word = some a

/-- Whether a value is an object whose fields are related to `a`. -/
def Models (related : List (String × Json) → α → Prop) (value : Json) (a : α) : Prop :=
  ∃ fields, value = .obj fields ∧ related fields a

/-- Whether a value is a list, each item of which is related to one of the others. -/
def Lists (related : Json → α → Prop) (value : Json) (list : List α) : Prop :=
  ∃ items, value = .arr items ∧ List.Forall₂ related items list

/-- Whether a value is an object, each field of which is related to the entry of its key. -/
def Maps (related : Json → α → Prop) (value : Json) (entries : List (String × α)) : Prop :=
  ∃ fields, value = .obj fields ∧
    List.Forall₂ (fun field entry => field.1 = entry.1 ∧ related field.2 entry.2) fields entries

end Json

namespace Validation

/-- Whether a field, under either of its spellings, is related to `a`, or is missing and `a` is
    the default. -/
def Key.Holds (key : Key) (default : Option α) (related : Json → α → Prop)
    (fields : List (String × Json)) (a : α) : Prop :=
  (∃ found, key.find? fields = some found ∧ related found.value a) ∨
    key.find? fields = none ∧ default = some a

/-- Whether all that is read is related to the value that it is read from. -/
def Ensures (read : Json → Checked α) (related : Json → α → Prop) : Prop :=
  ∀ value a, read value = .valid a → related value a

section

variable {read : Json → Checked α} {related : Json → α → Prop} {p : α → Prop} {key : Key}
  {fields : List (String × Json)} {a : α}

theorem Ensures.required (h : Ensures read related)
    (hread : Validation.required key read fields = .valid a) :
    key.Holds none related fields a := by
  unfold Validation.required at hread
  split at hread
  next found hfound =>
    exact .inl ⟨found, hfound, h _ _ (Checked.under_eq_valid.mp hread)⟩
  next => cases hread

theorem Ensures.optional (h : Ensures read related) {default : α}
    (hread : Validation.optional key default read fields = .valid a) :
    key.Holds (some default) related fields a := by
  unfold Validation.optional at hread
  split at hread
  next found hfound =>
    exact .inl ⟨found, hfound, h _ _ (Checked.under_eq_valid.mp hread)⟩
  next hmissing =>
    cases hread
    exact .inr ⟨hmissing, rfl⟩

/-- What holds of everything that is read holds of a field that has to be present. -/
theorem Ensures.of_required (h : Ensures read fun _ => p)
    (hread : Validation.required key read fields = .valid a) : p a := by
  obtain ⟨value, hvalue⟩ := exists_of_required hread
  exact h value a hvalue

/-- What holds of everything that is read, and of the default, holds of a field. -/
theorem Ensures.of_optional (h : Ensures read fun _ => p) {default : α} (hdefault : p default)
    (hread : Validation.optional key default read fields = .valid a) : p a := by
  rcases eq_default_or_exists hread with rfl | ⟨value, hvalue⟩
  · exact hdefault
  · exact h value a hvalue

/-- What holds of everything that is read holds of an option, if it is not empty. -/
theorem Ensures.option (h : Ensures read fun _ => p) :
    Ensures (checkOption read) fun _ option => ∀ a, option = some a → p a := by
  rintro value option hread a rfl
  unfold checkOption at hread
  split at hread
  · cases hread
  · obtain ⟨_, hvalue, hsame⟩ := Checked.map_eq_valid.mp hread
    exact h _ a (Option.some.inj hsame ▸ hvalue)

theorem Ensures.list (h : Ensures read related) :
    Ensures (checkList read) (Json.Lists related) := by
  have hitems : ∀ items position list, checkItems read position items = .valid list →
      List.Forall₂ related items list := by
    intro items
    induction items with
    | nil =>
        intro position list hread
        cases hread
        exact .nil
    | cons item rest ih =>
        intro position list hread
        obtain ⟨first, others, hfirst, hrest, rfl⟩ := checkItems_cons_eq_valid.mp hread
        exact .cons (h item first hfirst) (ih (position + 1) others hrest)
  intro value list hread
  unfold checkList at hread
  split at hread
  next items => exact ⟨items, rfl, hitems items 0 list hread⟩
  next => cases hread

theorem Ensures.map (h : Ensures read related) : Ensures (checkMap read) (Json.Maps related) := by
  have hentries : ∀ fields entries, checkEntries read fields = .valid entries →
      List.Forall₂ (fun field entry => field.1 = entry.1 ∧ related field.2 entry.2) fields
        entries := by
    intro fields
    induction fields with
    | nil =>
        intro entries hread
        cases hread
        exact .nil
    | cons field rest ih =>
        intro entries hread
        obtain ⟨first, others, hfirst, hrest, rfl⟩ := checkEntries_cons_eq_valid.mp hread
        exact .cons ⟨rfl, h field.2 first hfirst⟩ (ih others hrest)
  intro value entries hread
  unfold checkMap at hread
  split at hread
  next fields => exact ⟨fields, rfl, hentries fields entries hread⟩
  next => cases hread

end

/-! ## Words and numbers -/

theorem ensures_word (words : List (String × α)) : Ensures (checkWord words) (Json.Names words) := by
  intro value a hread
  unfold checkWord at hread
  dsimp only at hread
  split at hread
  next text =>
    have hword := exists_of_checkWhole hread
    cases hfound : words.lookup text with
    | none => simp [hfound, Checked.fail] at hword
    | some b =>
        rw [hfound] at hword
        cases hword
        exact ⟨text, rfl, hfound⟩
  next => cases hread

theorem ensures_positive : Ensures checkPositive fun _ i => 1 ≤ i := by
  intro value i hread
  obtain ⟨j, -, htest⟩ := Checked.andThen_eq_valid.mp hread
  split at htest
  next hpositive =>
    cases htest
    exact hpositive
  next => cases htest

end Validation

/-- A double that is not below zero, and no NaN. -/
structure Number.Binary64.IsAmount (x : Binary64) : Prop where
  zero_le : Binary64.zero.le x = true
  ne_nan : x ≠ .nan

/-- A double above zero, and no NaN. -/
structure Number.Binary64.IsLength (x : Binary64) : Prop where
  zero_lt : Binary64.zero.lt x = true
  ne_nan : x ≠ .nan

/-- A number that is not below zero, and no NaN. -/
def Number.Scalar.IsAmount : Scalar → Prop
  | .int i => 0 ≤ i
  | .real x => x.IsAmount

namespace Timeline

theorem ensures_nonnegativeReal : Ensures checkNonnegativeReal fun _ x => x.IsAmount :=
  fun _ _ hread => ⟨zero_le_of_checkNonnegativeReal hread, ne_nan_of_checkNonnegativeReal hread⟩

theorem ensures_positiveReal : Ensures checkPositiveReal fun _ x => x.IsLength := by
  intro value x hread
  have hpositive := zero_lt_of_checkPositiveReal hread
  exact ⟨hpositive, Binary64.ne_nan_of_lt hpositive⟩

theorem ensures_amount : Ensures checkAmount fun _ amount => amount.IsAmount := by
  intro value amount hread
  obtain ⟨x, hvalue, rfl⟩ := Checked.map_eq_valid.mp hread
  exact ensures_nonnegativeReal value x hvalue

theorem isAmount_zero : (Scalar.int 0).IsAmount :=
  Int.le_refl 0

theorem isAmount_eight : (Scalar.int 8).IsAmount :=
  Int.le_of_lt (by decide : (0 : Int) < 8)

theorem isAmount_one : (Binary64.ofNat 1).IsAmount :=
  ⟨by decide +kernel, by decide +kernel⟩

/-! ## Projects and elements -/

structure Canvas.IsSized (canvas : Canvas) : Prop where
  width : 1 ≤ canvas.width
  height : 1 ≤ canvas.height

/-- What an accepted project guarantees, and what it owes to the fields it was read from. -/
structure Project.Accepted (fields : List (String × Json)) (project : Project) : Prop where
  canvas : project.canvas.IsSized
  fps : 1 ≤ project.fps
  backdrop : Keys.backgroundType.Holds (some .color) (Json.Names backdropWords) fields
    project.backdrop
  blurIntensity : project.blurIntensity.IsAmount

/-- An effect is a text or an object. -/
inductive Effect.Accepted : Json → Effect → Prop
  | named (name : String) : Accepted (.str name) (.named name)
  | custom (fields : List (String × Json)) : Accepted (.obj fields) (.custom fields)

/-- Whether the times of a slot are numbers that a timeline can place. -/
structure Slot.IsTimed (slot : Slot) : Prop where
  startTime : slot.startTime.IsAmount
  duration : slot.duration.IsLength
  trimStart : slot.trimStart.IsAmount

structure MediaElement.Accepted (fields : List (String × Json)) (element : MediaElement) :
    Prop where
  slot : element.toSlot.IsTimed
  volume : element.volume.IsAmount
  effects : Keys.effects.Holds (some []) (Json.Lists Effect.Accepted) fields element.effects

structure TextElement.Accepted (element : TextElement) : Prop where
  slot : element.toSlot.IsTimed
  fontSize : 1 ≤ element.fontSize

/-- An element is a media or a text element according to its type. -/
inductive Element.Accepted (fields : List (String × Json)) : Element → Prop
  | media {element : MediaElement} (type : Json.lookup "type" fields = some (.str "media"))
      (accepted : element.Accepted fields) : Accepted fields (.media element)
  | text {element : TextElement} (type : Json.lookup "type" fields = some (.str "text"))
      (accepted : element.Accepted) : Accepted fields (.text element)

theorem isSized_of_checkCanvas (rule : ObjectRule) :
    Ensures (checkCanvas rule) fun _ canvas => canvas.IsSized := by
  intro value canvas hread
  obtain ⟨fields, -, hfields⟩ := exists_of_checkObject hread
  simp only [Checked.ap_eq_valid, Checked.fmap_eq_valid, ↓existsAndEq, and_true] at hfields
  obtain ⟨height, width, hwidth, hheight, rfl⟩ := hfields
  exact ⟨ensures_positive.of_required hwidth, ensures_positive.of_required hheight⟩

theorem accepted_of_checkProject (rule : ObjectRule) :
    Ensures (checkProject rule) (Json.Models Project.Accepted) := by
  intro value project hread
  obtain ⟨fields, rfl, hfields⟩ := exists_of_checkObject hread
  simp only [Checked.ap_eq_valid, Checked.fmap_eq_valid, ↓existsAndEq, and_true] at hfields
  obtain ⟨blur, backdrop, color, fps, canvas, name, id,
    ⟨⟨⟨⟨-, hcanvas⟩, hfps⟩, -⟩, hbackdrop⟩, hblur, rfl⟩ := hfields
  exact ⟨fields, rfl,
    { canvas := (isSized_of_checkCanvas rule).of_required hcanvas
      fps := ensures_positive.of_optional (by decide) hfps
      backdrop := (ensures_word backdropWords).optional hbackdrop
      blurIntensity := ensures_amount.of_optional isAmount_eight hblur }⟩

theorem accepted_of_checkEffect : Ensures checkEffect Effect.Accepted := by
  intro value effect hread
  unfold checkEffect at hread
  split at hread
  next name =>
    cases hread
    exact .named name
  next fields =>
    cases hread
    exact .custom fields
  next => cases hread

theorem isTimed_of_checkSlot {fields : List (String × Json)} {slot : Slot}
    (h : checkSlot fields = .valid slot) : slot.IsTimed := by
  simp only [checkSlot, Checked.ap_eq_valid, Checked.fmap_eq_valid, ↓existsAndEq, and_true] at h
  obtain ⟨trimStart, duration, startTime, name, id, ⟨⟨-, hstart⟩, hduration⟩, htrim, rfl⟩ := h
  exact
    { startTime := ensures_nonnegativeReal.of_required hstart
      duration := ensures_positiveReal.of_required hduration
      trimStart := ensures_amount.of_optional isAmount_zero htrim }

theorem accepted_of_checkMediaElement (rule : ObjectRule) :
    Ensures (checkMediaElement rule) (Json.Models MediaElement.Accepted) := by
  intro value element hread
  obtain ⟨fields, rfl, hfields⟩ := exists_of_checkObject hread
  simp only [Checked.ap_eq_valid, Checked.fmap_eq_valid, ↓existsAndEq, and_true] at hfields
  obtain ⟨position, effects, volume, muted, mediaId, -, slot,
    ⟨⟨⟨⟨⟨hslot, -⟩, -⟩, -⟩, hvolume⟩, heffects⟩, -, rfl⟩ := hfields
  exact ⟨fields, rfl,
    { slot := isTimed_of_checkSlot hslot
      volume := ensures_nonnegativeReal.of_optional isAmount_one hvolume
      effects := accepted_of_checkEffect.list.optional heffects }⟩

theorem accepted_of_checkTextElement (rule : ObjectRule) :
    Ensures (checkTextElement rule) fun _ element => element.Accepted := by
  intro value element hread
  obtain ⟨fields, -, hfields⟩ := exists_of_checkObject hread
  simp only [Checked.ap_eq_valid, Checked.fmap_eq_valid, ↓existsAndEq, and_true] at hfields
  obtain ⟨position, y, x, background, color, fontSize, content, -, slot,
    ⟨⟨⟨⟨⟨⟨⟨hslot, -⟩, -⟩, hfontSize⟩, -⟩, -⟩, -⟩, -⟩, -, rfl⟩ := hfields
  exact
    { slot := isTimed_of_checkSlot hslot
      fontSize := ensures_positive.of_optional (by decide) hfontSize }

theorem accepted_of_checkElement (rule : ObjectRule) :
    Ensures (checkElement rule) (Json.Models Element.Accepted) := by
  intro value element hread
  unfold checkElement at hread
  split at hread
  next fields =>
    split at hread
    next => cases hread
    next tag htag =>
      split at hread
      next =>
        obtain ⟨media, hmedia, rfl⟩ := Checked.map_eq_valid.mp (Checked.under_eq_valid.mp hread)
        obtain ⟨_, hsame, haccepted⟩ := accepted_of_checkMediaElement rule _ media hmedia
        obtain rfl := Json.obj.inj hsame
        exact ⟨fields, rfl, .media htag haccepted⟩
      next =>
        obtain ⟨text, htext, rfl⟩ := Checked.map_eq_valid.mp (Checked.under_eq_valid.mp hread)
        exact ⟨fields, rfl, .text htag (accepted_of_checkTextElement rule _ text htext)⟩
      next => cases hread
  next => cases hread

/-! ## Tracks, media and documents -/

structure Track.Accepted (fields : List (String × Json)) (track : Track) : Prop where
  kind : Keys.type.Holds (some .media) (Json.Names trackWords) fields track.kind
  elements : Keys.elements.Holds (some []) (Json.Lists (Json.Models Element.Accepted)) fields
    track.elements

structure MediaAsset.Accepted (fields : List (String × Json)) (asset : MediaAsset) : Prop where
  kind : Keys.type.Holds none (Json.Names mediaWords) fields asset.kind
  width : ∀ width, asset.width = some width → 1 ≤ width
  height : ∀ height, asset.height = some height → 1 ≤ height

structure Document.Accepted (fields : List (String × Json)) (document : Document) : Prop where
  project : Keys.project.Holds none (Json.Models Project.Accepted) fields document.project
  tracks : Keys.tracks.Holds (some []) (Json.Lists (Json.Models Track.Accepted)) fields
    document.tracks
  mediaItems : Keys.mediaItems.Holds (some []) (Json.Maps (Json.Models MediaAsset.Accepted)) fields
    document.mediaItems

theorem accepted_of_checkTrack (rule : ObjectRule) :
    Ensures (checkTrack rule) (Json.Models Track.Accepted) := by
  intro value track hread
  obtain ⟨fields, rfl, hfields⟩ := exists_of_checkObject hread
  simp only [Checked.ap_eq_valid, Checked.fmap_eq_valid, ↓existsAndEq, and_true] at hfields
  obtain ⟨elements, kind, name, id, ⟨-, hkind⟩, helements, rfl⟩ := hfields
  exact ⟨fields, rfl,
    { kind := (ensures_word trackWords).optional hkind
      elements := (accepted_of_checkElement rule).list.optional helements }⟩

theorem accepted_of_checkAsset (rule : ObjectRule) :
    Ensures (checkAsset rule) (Json.Models MediaAsset.Accepted) := by
  intro value asset hread
  obtain ⟨fields, rfl, hfields⟩ := exists_of_checkObject hread
  simp only [Checked.ap_eq_valid, Checked.fmap_eq_valid, ↓existsAndEq, and_true] at hfields
  obtain ⟨height, width, url, kind, name, id, ⟨⟨⟨-, hkind⟩, -⟩, hwidth⟩, hheight, rfl⟩ := hfields
  exact ⟨fields, rfl,
    { kind := (ensures_word mediaWords).required hkind
      width := ensures_positive.option.of_optional (by nofun) hwidth
      height := ensures_positive.option.of_optional (by nofun) hheight }⟩

theorem accepted_of_checkDocument (rule : ObjectRule) :
    Ensures (checkDocument rule) (Json.Models Document.Accepted) := by
  intro value document hread
  obtain ⟨fields, rfl, hfields⟩ := exists_of_checkObject hread
  simp only [Checked.ap_eq_valid, Checked.fmap_eq_valid, ↓existsAndEq, and_true] at hfields
  obtain ⟨mediaItems, tracks, project, ⟨hproject, htracks⟩, hitems, rfl⟩ := hfields
  exact ⟨fields, rfl,
    { project := (accepted_of_checkProject rule).required hproject
      tracks := (accepted_of_checkTrack rule).list.optional htracks
      mediaItems := (accepted_of_checkAsset rule).map.optional hitems }⟩

/-! ## Order and length -/

/-- Whether the elements of a track are sorted by a total order of their start times. -/
structure Track.IsSorted (track : Track) : Prop where
  total : ∀ first ∈ track.elements, ∀ second ∈ track.elements,
    startsNoLater first second = true ∨ startsNoLater second first = true
  trans : ∀ first ∈ track.elements, ∀ second ∈ track.elements, ∀ third ∈ track.elements,
    startsNoLater first second = true → startsNoLater second third = true →
      startsNoLater first third = true
  antisymm : ∀ first ∈ track.elements, ∀ second ∈ track.elements,
    startsNoLater first second = true → startsNoLater second first = true →
      first.slot.startTime.eq second.slot.startTime = true
  sorted : InStartOrder track.elements track.sortedElements

theorem isSorted_of_ne_nan {track : Track}
    (h : ∀ element ∈ track.elements, element.slot.startTime ≠ .nan) : track.IsSorted := by
  have hranks : ∀ first ∈ track.elements, ∀ second ∈ track.elements,
      startsNoLater first second = ranksNoLater first second :=
    fun first hfirst second hsecond =>
      (Binary64.noLater_eq_not_lt (h first hfirst) (h second hsecond)).symm
  refine ⟨fun first hfirst second hsecond => ?_, fun first hfirst second hsecond third hthird => ?_,
    fun first hfirst second hsecond hle hle' => ?_, inStartOrder_sortedElements h⟩
  · rw [hranks first hfirst second hsecond, hranks second hsecond first hfirst]
    exact Bool.or_eq_true_iff.mp (ranksNoLater_total first second)
  · rw [hranks first hfirst second hsecond, hranks second hsecond third hthird,
      hranks first hfirst third hthird]
    exact ranksNoLater_trans first second third
  · simp only [startsNoLater, Bool.not_eq_true'] at hle hle'
    exact Binary64.eq_of_not_lt (h first hfirst) (h second hsecond) (by simp [hle']) (by simp [hle])

theorem zero_lt_duration {tracks : List Track} (h : AreSpanned tracks)
    (hsome : ∃ track ∈ tracks, track.elements ≠ []) :
    Binary64.zero.lt (duration tracks) = true := by
  obtain ⟨track, htrack, helements⟩ := hsome
  have hends := zero_lt_of_mem_ends h
  unfold duration
  cases hall : tracks.flatMap fun track => track.elements.map Element.endTime with
  | nil =>
      have hnone := List.map_eq_nil_iff.mp (List.flatMap_eq_nil_iff.mp hall track htrack)
      exact absurd hnone helements
  | cons first rest =>
      rw [hall] at hends
      have hfirst := Binary64.ne_nan_of_lt (hends first List.mem_cons_self)
      obtain ⟨-, hmem, -⟩ := foldl_later hfirst rest
      exact hends _ hmem

/-- A document that is accepted has the sizes, times, words, elements and effects that its
    models declare; its tracks are sorted by a total order, and it has a positive length as soon
    as it has an element. -/
theorem checkDocument_guarantees {rule : ObjectRule} {value : Json} {document : Document}
    (h : checkDocument rule value = .valid document) :
    Json.Models Document.Accepted value document ∧
      (∀ track ∈ document.tracks, track.IsSorted) ∧
      ((∃ track ∈ document.tracks, track.elements ≠ []) →
        Binary64.zero.lt (duration document.tracks) = true) :=
  ⟨accepted_of_checkDocument rule value document h,
    fun track htrack => isSorted_of_ne_nan (timed_of_checkDocument h track htrack),
    zero_lt_duration (areSpanned_of_checkDocument h)⟩

/-- A timeline whose numbers are written in several ways: a caption without end, and a film that
    starts with it. -/
def sampleNumbers : Json :=
  .obj
    [("project", .obj
      [("canvas_size", .obj [("width", .str " +640 "), ("height", .num (.real (.ofNat 360)))]),
       ("background_type", .str "blur")]),
     ("tracks", .arr [.obj
      [("id", .str "t1"),
       ("elements", .arr
        [.obj
          [("type", .str "text"), ("id", .str "e1"), ("start_time", .str "1e0"),
           ("duration", .str "inf"), ("fontSize", .bool true)],
         .obj
          [("type", .str "media"), ("id", .str "e2"), ("startTime", .bool true),
           ("duration", .num (.real (.ofDecimal false 5 (-1)))), ("mediaId", .str "film"),
           ("effects", .arr [.str "fade", .obj [("type", .str "blur")]])]])]]),
     ("media_items", .obj
      [("film", .obj [("type", .str "video"), ("width", .null), ("height", .str "1_080")])])]

theorem checkDocument_guarantees_sampleNumbers : ∃ document,
    checkDocument .byModel sampleNumbers = .valid document ∧
      Json.Models Document.Accepted sampleNumbers document ∧
      (∀ track ∈ document.tracks, track.IsSorted) ∧
      Binary64.zero.lt (duration document.tracks) = true := by
  have hchecked : (checkDocument .byModel sampleNumbers).all
      (fun document => document.tracks.any fun track => !track.elements.isEmpty) = true := by
    decide +kernel
  obtain ⟨document, hvalid, htest⟩ := Checked.all_eq_true.mp hchecked
  obtain ⟨track, htrack, helements⟩ := List.any_eq_true.mp htest
  have hsome : track.elements ≠ [] := by simpa using helements
  obtain ⟨haccepted, hsorted, hpositive⟩ := checkDocument_guarantees hvalid
  exact ⟨document, hvalid, haccepted, hsorted, hpositive ⟨track, htrack, hsome⟩⟩

end Timeline

end Montage
