/-
  Montage.Proofs.Asset.Scheme

  Locators that only a browser can resolve.  The scheme of a locator is read once blanks
  in front, tabs and line breaks are taken out, and it is `blob` exactly if what is left
  starts with `blob:` in some letter case.
-/
import Montage.Proofs.Fault
import Montage.Proofs.Text.Lowercase
import Montage.Web.Fetching
import Montage.Worker.Submission

namespace Montage.Text

/-! ## Letters in lower case -/

theorem toNat_lt_of_toLower {c d : Char} (h : c.toLower = d) (hd : d.toNat < 0x80) :
    c.toNat < 0x80 := by
  by_contra hc
  rw [toLower_beyond (Nat.le_of_not_lt hc)] at h
  exact hc (h ▸ hd)

theorem isAlpha_of_toLower {c : Char} (hc : c.toNat < 0x80) :
    c.toLower.isAlpha = true → c.isAlpha = true :=
  @forall_ascii (fun c => c.toLower.isAlpha = true → c.isAlpha = true) (by decide +kernel) c hc

/-- A letter of a word in lower case stands in a text as a letter. -/
theorem letter_of_toLower {c d : Char} (h : c.toLower = d) (hd : d.toNat < 0x80)
    (hletter : d.isAlpha = true) : c.toNat < 0x80 ∧ c.isAlpha = true := by
  have hc := toNat_lt_of_toLower h hd
  exact ⟨hc, isAlpha_of_toLower hc (h ▸ hletter)⟩

/-- A sign stands in a text as itself. -/
theorem eq_of_toLower_eq_sign {c d : Char} (h : c.toLower = d) (hd : d.toNat < 0x80)
    (hsign : d.isAlpha = false) : c = d := by
  have hc := toNat_lt_of_toLower h hd
  rw [← eq_of_toLower hc (h ▸ hsign), h]

end Montage.Text

namespace Montage.Worker

/-! ## Urls -/

/-- Whether a url starts with `blob:` in any letter case. -/
def IsBlobUrl (url : String) : Prop :=
  (url.toList.take 5).map Char.toLower = "blob:".toList

theorem isTransientUrl_iff {url : String} : isTransientUrl url = true ↔ IsBlobUrl url := by
  have hword : Text.IsPlainWord "blob:".toList := by decide
  have hlower : (Text.lower url).toList = url.toList.flatMap Text.lowerChar := String.toList_ofList
  rw [isTransientUrl, List.isPrefixOf_iff_prefix, hlower, Text.prefix_lower_iff hword]
  rfl

end Montage.Worker

namespace Montage.Asset

open Montage.Text Montage.Worker

/-! ## The scheme -/

/-- The scheme of a locator. -/
def schemeOf (locator : String) : String :=
  (splitScheme (cleaned locator)).1

theorem scheme_of_readLocator {text : String} {locator : Locator}
    (h : readLocator text = .ok locator) : locator.scheme = schemeOf text := by
  unfold readLocator at h
  unfold schemeOf
  generalize splitScheme (cleaned text) = split at h ⊢
  obtain ⟨scheme, rest⟩ := split
  dsimp only at h
  split at h
  · cases h
  · cases h
    rfl

theorem takeWhile_of_not_mem {mark : Char} {head : List Char} (h : mark ∉ head)
    (after : List Char) :
    (head ++ after).takeWhile (· != mark) = head ++ after.takeWhile (· != mark) := by
  refine List.takeWhile_append_of_pos fun c hc => bne_iff_ne.mpr ?_
  rintro rfl
  exact h hc

theorem splitScheme_of_not_mem {text : List Char} (h : ':' ∉ text) :
    splitScheme text = ("", text) := by
  have htake := takeWhile_of_not_mem h []
  rw [List.append_nil, List.takeWhile_nil, List.append_nil] at htake
  unfold splitScheme
  dsimp only
  rw [htake, List.drop_length]
  cases text <;> rfl

/-- Whether what stands before a colon is a scheme. -/
def isSchemeHead : List Char → Bool
  | [] => false
  | first :: rest => first.toNat < 128 && first.isAlpha && rest.all isSchemeChar

theorem splitScheme_append {head : List Char} (h : ':' ∉ head) (after : List Char) :
    splitScheme (head ++ ':' :: after) =
      if isSchemeHead head then (String.ofList (head.map Char.toLower), after)
      else ("", head ++ ':' :: after) := by
  have htake := takeWhile_of_not_mem h (':' :: after)
  rw [List.takeWhile_cons_of_neg (by simp), List.append_nil] at htake
  unfold splitScheme
  dsimp only
  rw [htake, List.drop_left]
  cases head <;> rfl

/-- A scheme of letters is read exactly if a text starts with it, in some letter case, and a
    colon. -/
theorem fst_splitScheme_eq_iff {word text : List Char} (hne : word ≠ [])
    (hword : ∀ d ∈ word, d.toNat < 0x80 ∧ d.isAlpha = true) :
    (splitScheme text).1 = String.ofList word ↔
      (text.take (word.length + 1)).map Char.toLower = word ++ [':'] := by
  constructor
  · intro h
    by_cases hcolon : ':' ∈ text
    · obtain ⟨head, after, rfl, hhead⟩ := List.eq_append_cons_of_mem hcolon
      rw [splitScheme_append hhead] at h
      split at h
      next =>
        obtain rfl : head.map Char.toLower = word := String.ofList_injective h
        rw [List.length_map, List.take_length_add_append]
        simp
      next => exact absurd (String.ofList_injective h).symm hne
    · -- without a colon the scheme is empty, and the word is not
      rw [splitScheme_of_not_mem hcolon] at h
      exact absurd (String.ofList_injective h).symm hne
  · intro h
    obtain ⟨head, last, htake, rfl, hlast⟩ := List.map_eq_append_iff.mp h
    obtain ⟨colon, rfl, hcolon⟩ := List.map_eq_singleton_iff.mp hlast
    obtain rfl := eq_of_toLower_eq_sign hcolon (by decide) (by decide)
    -- no letter beyond ASCII has one of the word in lower case
    have hletters : ∀ c ∈ head, c.toNat < 0x80 ∧ c.isAlpha = true := by
      intro c hc
      obtain ⟨hascii, hletter⟩ := hword _ (List.mem_map_of_mem hc)
      exact letter_of_toLower rfl hascii hletter
    have hnone : ':' ∉ head := fun hmem => absurd (hletters ':' hmem).2 (by decide)
    have hhead : isSchemeHead head = true := by
      cases head with
      | nil => exact absurd rfl hne
      | cons first rest =>
          have hfirst := hletters first List.mem_cons_self
          simp only [isSchemeHead, Bool.and_eq_true, decide_eq_true_eq, List.all_eq_true]
          refine ⟨hfirst, fun c hc => ?_⟩
          have hletter := hletters c (List.mem_cons_of_mem first hc)
          simp [isSchemeChar, Char.isAlphanum, hletter]
    rw [← List.take_append_drop ((head.map Char.toLower).length + 1) text, htake,
      List.append_assoc, List.singleton_append, splitScheme_append hnone, if_pos hhead]

theorem schemeOf_eq_blob_iff {url : String} :
    schemeOf url = "blob" ↔ IsBlobUrl (String.ofList (cleaned url)) := by
  have hword : ∀ d ∈ ['b', 'l', 'o', 'b'], d.toNat < 0x80 ∧ d.isAlpha = true := by
    simp only [List.forall_mem_cons, List.not_mem_nil, false_implies, implies_true, and_true]
    decide
  rw [IsBlobUrl, String.toList_ofList]
  exact fst_splitScheme_eq_iff (List.cons_ne_nil _ _) hword

/-- A url that the gate lets pass, and that is one for a browser once it is cleaned. -/
def IsDisguised (url : String) : Prop :=
  ¬ IsBlobUrl url ∧ IsBlobUrl (String.ofList (cleaned url))

/-- Only a url that is changed by being cleaned is disguised. -/
theorem IsDisguised.cleaned_ne {url : String} (h : IsDisguised url) :
    cleaned url ≠ url.toList := by
  intro hsame
  rw [IsDisguised, hsame, String.ofList_toList] at h
  exact h.1 h.2

/-! ## Faults -/

theorem isForeign_of_addressFault? {address : List Char} {fault : Fault}
    (h : addressFault? address = some fault) : fault.IsForeign := by
  unfold addressFault? at h
  split at h
  · split at h
    · cases h
    · cases h
      nofun
  · split at h
    · cases h
      nofun
    · split at h
      · cases h
      · cases h
        nofun

theorem isForeign_of_bracketFault? {authority : List Char} {fault : Fault}
    (h : bracketFault? authority = some fault) : fault.IsForeign := by
  unfold bracketFault? at h
  dsimp only at h
  split at h
  · split at h
    · cases h
      nofun
    · exact isForeign_of_addressFault? h
  · exact isForeign_of_addressFault? h

theorem isForeign_of_authorityFault? {authority : List Char} {fault : Fault}
    (h : authorityFault? authority = some fault) : fault.IsForeign := by
  unfold authorityFault? at h
  split at h
  · cases h
    nofun
  · rcases Option.or_eq_some_iff.mp h with hbrackets | ⟨-, hhidden⟩
    · split at hbrackets
      · exact isForeign_of_bracketFault? hbrackets
      · cases hbrackets
    · split at hhidden
      · cases hhidden
        nofun
      · cases hhidden

theorem isForeign_of_readLocator {text : String} {fault : Fault}
    (h : readLocator text = .error fault) : fault.IsForeign := by
  unfold readLocator at h
  generalize splitScheme (cleaned text) = parts at h
  obtain ⟨scheme, rest⟩ := parts
  dsimp only at h
  split at h
  next hfault =>
    cases h
    exact isForeign_of_authorityFault? hfault
  next => cases h

theorem isForeign_of_fileStem {mediaId : String} {fault : Fault}
    (h : fileStem mediaId = .error fault) : fault.IsForeign := by
  unfold fileStem at h
  split at h
  · cases h
    nofun
  · cases h

/-- The failure of an asset that is not about a url for a browser. -/
theorem isLasting_assetFailure (message mediaId : String) :
    (assetFailure .asset message mediaId).IsLasting :=
  ⟨.asset, nofun, rfl⟩

theorem isLasting_of_inlineFile {item : Wanted} {fault : Fault}
    (h : inlineFile item = .error fault) : fault.IsLasting := by
  unfold inlineFile at h
  split at h
  · rcases error_of_bind_eq_error h with hstem | ⟨stem, -, hfile⟩
    · exact (isForeign_of_fileStem hstem).isLasting
    · cases hfile
  · cases h
    exact isLasting_assetFailure _ _

/-- A medium is refused for good unless the scheme of its locator is `blob`. -/
theorem isLasting_of_route {item : Wanted} {fault : Fault} (h : route item = .error fault) :
    fault.IsLasting ∨ schemeOf item.locator = "blob" := by
  rcases error_of_bind_eq_error h with hread | ⟨locator, hread, hscheme⟩
  · exact .inl (isForeign_of_readLocator hread).isLasting
  · rw [scheme_of_readLocator hread] at hscheme
    split at hscheme
    next hblob => exact .inr hblob
    next =>
      rcases error_of_bind_eq_error hscheme with hfile | ⟨file, -, hend⟩
      · exact .inl (isLasting_of_inlineFile hfile)
      · cases hend
    next => cases hscheme
    next => cases hscheme
    next =>
      cases hscheme
      exact .inl (isLasting_assetFailure _ _)

/-- Whether a download, if it is refused, is refused for what is wrong with its url. -/
def Download.IsOutside (download : Download) : Prop :=
  ∀ fault, download = .refused fault → fault.IsForeign

theorem isLasting_of_downloadedFile {item : Wanted} {path : String} {download : Download}
    {fault : Fault} (hdownload : download.IsOutside)
    (h : downloadedFile item path download = .error fault) : fault.IsLasting := by
  cases download with
  | response status contentType body =>
      unfold downloadedFile at h
      dsimp only at h
      split at h
      · rcases error_of_bind_eq_error h with hstem | ⟨stem, -, hfile⟩
        · exact (isForeign_of_fileStem hstem).isLasting
        · cases hfile
      · cases h
        exact isLasting_assetFailure _ _
  | broken message =>
      cases h
      exact isLasting_assetFailure _ _
  | refused raised =>
      cases h
      exact (hdownload _ rfl).isLasting

/-! ## Fetching -/

/-- What the fetching of a medium comes to, whatever the servers answer. -/
inductive Wanted.Yields (item : Wanted) : Except Fault Received → Prop where
  | refused {fault : Fault} (h : route item = .error fault) : item.Yields (.error fault)
  | inline {received : Received} (h : route item = .ok (.inline received)) :
      item.Yields (.ok received)
  | remote {path : String} (h : route item = .ok (.remote path)) {download : Download}
      (hdownload : download.IsOutside) :
      item.Yields (downloadedFile item path download)

/-- A medium that cannot be fetched fails for good unless the scheme of its locator is
    `blob`. -/
theorem Wanted.Yields.isLasting {item : Wanted} {result : Except Fault Received} {fault : Fault}
    (h : item.Yields result) (herror : result = .error fault) :
    fault.IsLasting ∨ schemeOf item.locator = "blob" := by
  cases h with
  | refused hroute =>
      cases herror
      exact isLasting_of_route hroute
  | inline hroute => cases herror
  | remote hroute hdownload => exact .inl (isLasting_of_downloadedFile hdownload herror)

end Montage.Asset
