/-
  Montage.Proofs.Timeline.Media

  The media of a document: which of them have a place, which of them its elements use,
  and what becomes of them when locators put them elsewhere.
-/
import Mathlib.Data.List.Basic
import Montage.Timeline.Schedule

namespace Montage.Timeline

/-! ## Media with a place -/

/-- Whether a medium is known and has a place that is not empty. -/
def MediaItems.hasPlace (items : MediaItems) (id : String) : Bool :=
  ((items.find? id).bind MediaAsset.locator?).isSome

/-- The ids of the media that a timeline uses and that have a place, in order of first
    use. -/
def Document.usedMediaIds (document : Document) : List String :=
  document.referencedMediaIds.filter document.mediaItems.hasPlace

/-- The media elements whose medium has a place, in the order in which they are visited. -/
def Document.renderedMedia (document : Document) : List MediaElement :=
  (document.tracks.flatMap Track.sortedElements).filterMap fun element =>
    match element with
    | .media element => if document.mediaItems.hasPlace element.mediaId then some element else none
    | .text _ => none

theorem locator?_eq_some {asset : MediaAsset} {place : String} :
    asset.locator? = some place ↔ asset.url = some place ∧ place ≠ "" := by
  simp [MediaAsset.locator?, Option.filter_eq_some_iff]

/-- Leaving ids out and keeping first places can be done in either order. -/
theorem firstSeen_filter (keep : String → Bool) (ids : List String) :
    firstSeen (ids.filter keep) = (firstSeen ids).filter keep := by
  induction ids with
  | nil => rfl
  | cons id rest ih =>
      cases hk : keep id with
      | true =>
          rw [List.filter_cons_of_pos hk, firstSeen, firstSeen, List.filter_cons_of_pos hk, ih,
            List.filter_comm]
      | false =>
          have hneg : ¬ keep id = true := by simp [hk]
          rw [List.filter_cons_of_neg hneg, firstSeen, List.filter_cons_of_neg hneg, ih,
            List.filter_filter]
          -- the id that is left out is not kept anyway
          refine List.filter_congr fun other _ => ?_
          by_cases ho : other = id
          · simp [ho, hk]
          · simp [ho]

/-- The media in use are those that elements refer to and that have a url which is not
    empty. -/
theorem mem_usedMediaIds {document : Document} {id : String} :
    id ∈ document.usedMediaIds ↔ id ∈ document.referencedMediaIds ∧
      ∃ asset url, document.mediaItems.find? id = some asset ∧ asset.url = some url ∧ url ≠ "" := by
  rw [Document.usedMediaIds, List.mem_filter, MediaItems.hasPlace, Option.isSome_iff_exists]
  simp only [Option.bind_eq_some_iff, locator?_eq_some]
  refine and_congr_right fun _ => ⟨?_, ?_⟩
  · rintro ⟨url, asset, hfind, hurl⟩
    exact ⟨asset, url, hfind, hurl⟩
  · rintro ⟨asset, url, hfind, hurl⟩
    exact ⟨url, asset, hfind, hurl⟩

theorem nodup_usedMediaIds (document : Document) : document.usedMediaIds.Nodup :=
  (nodup_firstSeen _).sublist List.filter_sublist

/-! ## Other locators -/

/-- A medium at the place that locators give it, if they do. -/
def MediaAsset.movedTo (place? : Option String) (asset : MediaAsset) : MediaAsset :=
  match place? with
  | some place => { asset with url := some place }
  | none => asset

@[simp] theorem MediaAsset.kind_movedTo (place? : Option String) (asset : MediaAsset) :
    (asset.movedTo place?).kind = asset.kind := by
  cases place? <;> rfl

@[simp] theorem MediaAsset.width_movedTo (place? : Option String) (asset : MediaAsset) :
    (asset.movedTo place?).width = asset.width := by
  cases place? <;> rfl

@[simp] theorem MediaAsset.height_movedTo (place? : Option String) (asset : MediaAsset) :
    (asset.movedTo place?).height = asset.height := by
  cases place? <;> rfl

theorem mem_of_find?_eq_some {locators : Locators} {id place : String}
    (h : locators.find? id = some place) : (id, place) ∈ locators := by
  obtain ⟨before, after, hsplit, -⟩ := List.lookup_eq_some_iff.mp h
  rw [hsplit]
  simp

/-- Where the ids of entries are distinct, each entry is found by its id. -/
theorem Locators.find?_of_mem {locators : Locators} (h : (locators.map Prod.fst).Nodup)
    {entry : String × String} (hmem : entry ∈ locators) :
    locators.find? entry.1 = some entry.2 := by
  obtain ⟨before, after, hsplit⟩ := List.append_of_mem hmem
  refine List.lookup_eq_some_iff.mpr ⟨before, after, hsplit, fun other hother => ?_⟩
  rw [hsplit, List.map_append, List.nodup_append] at h
  have hne : other.1 ≠ entry.1 :=
    h.2.2 other.1 (List.mem_map_of_mem hother) entry.1 List.mem_cons_self
  exact bne_iff_ne.mpr hne.symm

theorem find?_withLocators (locators : Locators) (document : Document) (id : String) :
    (document.withLocators locators).mediaItems.find? id =
      (document.mediaItems.find? id).map (MediaAsset.movedTo (locators.find? id)) := by
  simp only [Document.withLocators, MediaItems.find?]
  induction document.mediaItems with
  | nil => rfl
  | cons item rest ih =>
      obtain ⟨other, asset⟩ := item
      by_cases h : id = other
      · subst h
        cases hfind : locators.find? id <;> simp [hfind, MediaAsset.movedTo]
      · have hne : (id == other) = false := beq_eq_false_iff_ne.mpr h
        cases hfind : locators.find? other <;> simp [hfind, List.lookup_cons, hne, ih]

end Montage.Timeline
