/-
  Montage.Timeline.Schedule

  Times and references of a document: when elements end, in which order they come, how
  long the timeline is, which media it uses, and the replacement of media locators.
-/
import Montage.Text.Lowercase
import Montage.Timeline.Basic

namespace Montage.Timeline

open Montage.Number

/-! ## Times -/

def Slot.endTime (slot : Slot) : Binary64 :=
  slot.startTime.add slot.duration

def Element.endTime (element : Element) : Binary64 :=
  element.slot.endTime

/-- The larger of two times; the first where neither is larger. -/
def later (first second : Binary64) : Binary64 :=
  if first.lt second then second else first

/-- The largest of a list of times, zero for the empty list. -/
def latest : List Binary64 → Binary64
  | [] => .zero
  | first :: rest => rest.foldl later first

/-- The latest end time of any element of the tracks. -/
def duration (tracks : List Track) : Binary64 :=
  latest (tracks.flatMap fun track => track.elements.map Element.endTime)

/-! ## Order -/

/-- Whether the first element does not start after the second. -/
def startsNoLater (first second : Element) : Bool :=
  !second.slot.startTime.lt first.slot.startTime

/-- Elements in timeline order; those that start together keep their order. -/
def Track.sortedElements (track : Track) : List Element :=
  track.elements.mergeSort startsNoLater

theorem sortedElements_perm (track : Track) : track.sortedElements.Perm track.elements :=
  List.mergeSort_perm _ _

/-! ## Media -/

def Element.mediaId? : Element → Option String
  | .media element => some element.mediaId
  | .text _ => none

/-- A list with every text only at its first place. -/
def firstSeen : List String → List String
  | [] => []
  | id :: rest => id :: (firstSeen rest).filter (· != id)

@[simp] theorem mem_firstSeen {id : String} {ids : List String} : id ∈ firstSeen ids ↔ id ∈ ids := by
  induction ids with
  | nil => simp [firstSeen]
  | cons head rest ih => by_cases h : id = head <;> simp [firstSeen, ih, h]

theorem nodup_firstSeen (ids : List String) : (firstSeen ids).Nodup := by
  induction ids with
  | nil => simp [firstSeen]
  | cons head rest ih =>
    simp only [firstSeen, List.nodup_cons, List.mem_filter]
    exact ⟨by simp, ih.sublist List.filter_sublist⟩

/-- The media ids that elements use, each once, in timeline order. -/
def Document.referencedMediaIds (document : Document) : List String :=
  firstSeen (document.tracks.flatMap fun track => track.sortedElements.filterMap Element.mediaId?)

/-- An asset in a list of media. -/
def MediaItems.find? (items : MediaItems) (id : String) : Option MediaAsset :=
  List.lookup id items

/-- The url of an asset, if it has one that is not empty. -/
def MediaAsset.locator? (asset : MediaAsset) : Option String :=
  asset.url.filter (· ≠ "")

/-- Local or remote places of media by id. -/
abbrev Locators := List (String × String)

def Locators.find? (locators : Locators) (id : String) : Option String :=
  List.lookup id locators

/-- A document whose assets are found at `locators` where that names them. -/
def Document.withLocators (locators : Locators) (document : Document) : Document :=
  { document with
    mediaItems := document.mediaItems.map fun (id, asset) =>
      match locators.find? id with
      | some place => (id, { asset with url := some place })
      | none => (id, asset) }

/-! ## Texts -/

/-- Whether a text is drawn on a box. -/
def TextElement.hasBackground (element : TextElement) : Bool :=
  Text.lower element.backgroundColor != "transparent"

end Montage.Timeline
