/-
  Montage.Proofs.Timeline.Alike

  Documents that say the same.  They may differ in names, in the order of elements that do not
  start together, in the order in which media and the parameters of an effect are listed, and in
  media that no element uses.  They are equally long and use the same media.
-/
import Mathlib.Data.List.Forall2
import Montage.Proofs.Timeline.Media
import Montage.Proofs.Timeline.Spans

namespace Montage.Timeline

open Montage.Number

/-! ## Elements -/

/-- Effects with the same name, or with the same value for every key.  Values are compared exactly
as they are written: `1` and `1.0` differ, and so do objects that list their fields in another
order. -/
inductive Effect.Alike : Effect → Effect → Prop
  | named (name : String) : Alike (.named name) (.named name)
  | custom {fields others : List (String × Json)}
      (lookup : ∀ key, Json.lookup key fields = Json.lookup key others) :
      Alike (.custom fields) (.custom others)

/-- Slots with the same id and times. -/
structure Slot.Alike (slot other : Slot) : Prop where
  id : slot.id = other.id
  startTime : slot.startTime = other.startTime
  duration : slot.duration = other.duration
  /-- The same double; an integer may stand for one. -/
  trimStart : slot.trimStart.toRealOrInfinite = other.trimStart.toRealOrInfinite

/-- Media elements that are the same but for their names. -/
structure MediaElement.Alike (element other : MediaElement) : Prop where
  slot : element.toSlot.Alike other.toSlot
  mediaId : element.mediaId = other.mediaId
  muted : element.muted = other.muted
  volume : element.volume = other.volume
  effects : List.Forall₂ Effect.Alike element.effects other.effects
  position : element.position = other.position

/-- Text elements that are the same but for their names. -/
structure TextElement.Alike (element other : TextElement) : Prop where
  slot : element.toSlot.Alike other.toSlot
  content : element.content = other.content
  fontSize : element.fontSize = other.fontSize
  color : element.color = other.color
  backgroundColor : element.backgroundColor = other.backgroundColor
  x : element.x = other.x
  y : element.y = other.y
  position : element.position = other.position

/-- Elements of the same type that are alike. -/
inductive Element.Alike : Element → Element → Prop
  | media {element other : MediaElement} (alike : element.Alike other) :
      Alike (.media element) (.media other)
  | text {element other : TextElement} (alike : element.Alike other) :
      Alike (.text element) (.text other)

theorem Effect.Alike.refl (effect : Effect) : effect.Alike effect := by
  cases effect with
  | named name => exact .named name
  | custom fields => exact .custom fun _ => rfl

theorem Slot.Alike.refl (slot : Slot) : slot.Alike slot :=
  ⟨rfl, rfl, rfl, rfl⟩

theorem MediaElement.Alike.refl (element : MediaElement) : element.Alike element :=
  ⟨.refl _, rfl, rfl, rfl, List.forall₂_same.mpr fun effect _ => .refl effect, rfl⟩

theorem TextElement.Alike.refl (element : TextElement) : element.Alike element :=
  ⟨.refl _, rfl, rfl, rfl, rfl, rfl, rfl, rfl⟩

theorem Element.Alike.slot {element other : Element} (h : element.Alike other) :
    element.slot.Alike other.slot := by
  cases h with
  | media alike => exact alike.slot
  | text alike => exact alike.slot

theorem Slot.Alike.endTime {slot other : Slot} (h : slot.Alike other) :
    slot.endTime = other.endTime := by
  rw [Slot.endTime, Slot.endTime, h.startTime, h.duration]

/-! ## Tracks -/

/-- What related items have in common, read from the lists of them. -/
theorem map_eq_of_forall₂ {α β γ : Type} {related : α → β → Prop} {f : α → γ} {g : β → γ}
    (hsame : ∀ a b, related a b → f a = g b) {items : List α} {others : List β}
    (h : List.Forall₂ related items others) : items.map f = others.map g := by
  rw [← List.forall₂_eq_eq_eq]
  exact List.rel_map (fun _ _ hab => hsame _ _ hab) h

/-- Tracks whose elements, in timeline order, are alike one by one. -/
structure Track.Alike (track other : Track) : Prop where
  id : track.id = other.id
  kind : track.kind = other.kind
  elements : List.Forall₂ Element.Alike track.sortedElements other.sortedElements

/-- The ends of the elements of tracks that are alike are the same, but not in one order. -/
theorem perm_ends {tracks others : List Track} (h : List.Forall₂ Track.Alike tracks others) :
    (tracks.flatMap fun track => track.elements.map Element.endTime).Perm
      (others.flatMap fun track => track.elements.map Element.endTime) := by
  induction h with
  | nil => exact .refl _
  | @cons track other _ _ halike _ ih =>
      rw [List.flatMap_cons, List.flatMap_cons]
      refine .append ?_ ih
      have hsame : track.sortedElements.map Element.endTime =
          other.sortedElements.map Element.endTime :=
        map_eq_of_forall₂ (fun _ _ helement => helement.slot.endTime) halike.elements
      exact ((sortedElements_perm track).symm.map _).trans
        ((List.Perm.of_eq hsame).trans ((sortedElements_perm other).map _))

/-- Tracks that are alike are equally long. -/
theorem duration_eq_of_alike {tracks others : List Track} (hspans : AreSpanned tracks)
    (h : List.Forall₂ Track.Alike tracks others) : duration tracks = duration others :=
  latest_eq_of_perm (zero_lt_of_mem_ends hspans) (perm_ends h)

/-! ## Documents -/

/-- Assets of one type and size at one place. -/
structure MediaAsset.Alike (asset other : MediaAsset) : Prop where
  kind : asset.kind = other.kind
  url : asset.url = other.url
  width : asset.width = other.width
  height : asset.height = other.height

theorem MediaAsset.Alike.locator? {asset other : MediaAsset} (h : asset.Alike other) :
    asset.locator? = other.locator? := by
  rw [MediaAsset.locator?, MediaAsset.locator?, h.url]

/-- Projects with the same settings. -/
structure Project.Alike (project other : Project) : Prop where
  canvas : project.canvas = other.canvas
  fps : project.fps = other.fps
  backgroundColor : project.backgroundColor = other.backgroundColor
  backdrop : project.backdrop = other.backdrop
  /-- The same double; an integer may stand for one. -/
  blurIntensity : project.blurIntensity.toRealOrInfinite = other.blurIntensity.toRealOrInfinite

/-- Documents that say the same. -/
structure Document.Alike (document other : Document) : Prop where
  project : document.project.Alike other.project
  tracks : List.Forall₂ Track.Alike document.tracks other.tracks
  /-- They agree on every medium that an element refers to, also if they lack it. -/
  media : ∀ id ∈ document.referencedMediaIds,
    Option.Rel MediaAsset.Alike (document.mediaItems.find? id) (other.mediaItems.find? id)

end Montage.Timeline
